namespace AgentFacts

/-- Rows under keys, each key once. -/
structure Table (κ α : Type) [Ord κ] where
  entries : List (κ × α)
  sorted : entries.Pairwise fun a b => compare a.1 b.1 = .lt
deriving DecidableEq

namespace Table

variable {κ α : Type} [Ord κ]

def empty : Table κ α := ⟨[], .nil⟩

instance : Inhabited (Table κ α) := ⟨empty⟩

/-- The row under a key among some entries. -/
def lookup (k : κ) : List (κ × α) → Option α
  | [] => none
  | (k', a) :: rest => if compare k k' = .eq then some a else lookup k rest

def get? (t : Table κ α) (k : κ) : Option α :=
  lookup k t.entries

/-- The rows in the order of their keys. -/
def rows (t : Table κ α) : List α :=
  t.entries.map (·.2)

/-- Puts a row at its place, in exchange for an older one under its key. -/
def insertEntry (k : κ) (a : α) : List (κ × α) → List (κ × α)
  | [] => [(k, a)]
  | (k', a') :: rest =>
    match compare k k' with
    | .lt => (k, a) :: (k', a') :: rest
    | .eq => (k, a) :: rest
    | .gt => (k', a') :: insertEntry k a rest

/-- Takes away the entry under a key. -/
def eraseEntry (k : κ) : List (κ × α) → List (κ × α)
  | [] => []
  | (k', a') :: rest => if compare k k' = .eq then rest else (k', a') :: eraseEntry k rest

theorem mem_insertEntry {k : κ} {a : α} {entries : List (κ × α)} {e : κ × α}
    (mem : e ∈ insertEntry k a entries) : e = (k, a) ∨ e ∈ entries := by
  induction entries with
  | nil => simpa [insertEntry] using mem
  | cons head rest ih =>
    obtain ⟨k', a'⟩ := head
    rw [insertEntry] at mem
    split at mem
    · simpa using mem
    · rcases List.mem_cons.1 mem with rfl | inRest
      · exact .inl rfl
      · exact .inr (List.mem_cons_of_mem _ inRest)
    · rcases List.mem_cons.1 mem with rfl | inRest
      · exact .inr List.mem_cons_self
      · exact (ih inRest).imp_right (List.mem_cons_of_mem _)

theorem mem_of_mem_eraseEntry {k : κ} {entries : List (κ × α)} {e : κ × α}
    (mem : e ∈ eraseEntry k entries) : e ∈ entries := by
  induction entries with
  | nil => simp [eraseEntry] at mem
  | cons head rest ih =>
    rw [eraseEntry] at mem
    split at mem
    · exact List.mem_cons_of_mem _ mem
    · rcases List.mem_cons.1 mem with rfl | inRest
      · exact List.mem_cons_self
      · exact List.mem_cons_of_mem _ (ih inRest)

theorem eraseEntry_sorted {k : κ} {entries : List (κ × α)}
    (sorted : entries.Pairwise fun a b => compare a.1 b.1 = .lt) :
    (eraseEntry k entries).Pairwise fun a b => compare a.1 b.1 = .lt := by
  induction entries with
  | nil => exact .nil
  | cons head rest ih =>
    obtain ⟨before, rest_sorted⟩ := List.pairwise_cons.1 sorted
    rw [eraseEntry]
    split
    · exact rest_sorted
    · exact List.pairwise_cons.2
        ⟨fun e mem => before e (mem_of_mem_eraseEntry mem), ih rest_sorted⟩

def erase (t : Table κ α) (k : κ) : Table κ α :=
  ⟨eraseEntry k t.entries, eraseEntry_sorted t.sorted⟩

@[simp] theorem get?_empty (k : κ) : (empty : Table κ α).get? k = none := rfl

/-- Every row is as it should be under its key. -/
def All (P : κ → α → Prop) (t : Table κ α) : Prop :=
  ∀ entry ∈ t.entries, P entry.1 entry.2

theorem all_empty (P : κ → α → Prop) : (empty : Table κ α).All P := by
  intro entry mem
  cases mem

theorem All.erase {P : κ → α → Prop} {t : Table κ α} (h : t.All P) (k : κ) : (t.erase k).All P :=
  fun entry mem => h entry (mem_of_mem_eraseEntry mem)

variable [Std.TransOrd κ] [Std.LawfulEqOrd κ]

theorem insertEntry_sorted {k : κ} {a : α} {entries : List (κ × α)}
    (sorted : entries.Pairwise fun a b => compare a.1 b.1 = .lt) :
    (insertEntry k a entries).Pairwise fun a b => compare a.1 b.1 = .lt := by
  induction entries with
  | nil => simp [insertEntry]
  | cons head rest ih =>
    obtain ⟨k', a'⟩ := head
    obtain ⟨before, rest_sorted⟩ := List.pairwise_cons.1 sorted
    rw [insertEntry]
    split
    next less =>
      refine List.pairwise_cons.2 ⟨fun e mem => ?_, sorted⟩
      rcases List.mem_cons.1 mem with rfl | inRest
      · exact less
      · exact Std.TransCmp.lt_trans less (before e inRest)
    next same =>
      have same := Std.LawfulEqCmp.compare_eq_iff_eq.1 same
      subst same
      exact List.pairwise_cons.2 ⟨before, rest_sorted⟩
    next greater =>
      refine List.pairwise_cons.2 ⟨fun e mem => ?_, ih rest_sorted⟩
      rcases mem_insertEntry mem with rfl | inRest
      · exact Std.OrientedCmp.gt_iff_lt.1 greater
      · exact before e inRest

def insert (t : Table κ α) (k : κ) (a : α) : Table κ α :=
  ⟨insertEntry k a t.entries, insertEntry_sorted t.sorted⟩

theorem All.insert {P : κ → α → Prop} {t : Table κ α} (h : t.All P) {k : κ} {a : α}
    (new : P k a) : (t.insert k a).All P := by
  intro entry mem
  rcases mem_insertEntry mem with rfl | old
  · exact new
  · exact h entry old

omit [Std.TransOrd κ] in
theorem mem_of_lookup {k : κ} {a : α} {entries : List (κ × α)}
    (found : lookup k entries = some a) : (k, a) ∈ entries := by
  induction entries with
  | nil => cases found
  | cons head rest ih =>
    rw [lookup] at found
    split at found
    next same =>
      obtain rfl := Option.some.inj found
      obtain rfl := Std.LawfulEqCmp.compare_eq_iff_eq.1 same
      exact List.mem_cons_self
    next => exact List.mem_cons_of_mem _ (ih found)

theorem lookup_of_mem {k : κ} {a : α} {entries : List (κ × α)}
    (sorted : entries.Pairwise fun a b => compare a.1 b.1 = .lt) (mem : (k, a) ∈ entries) :
    lookup k entries = some a := by
  induction entries with
  | nil => cases mem
  | cons head rest ih =>
    obtain ⟨before, rest_sorted⟩ := List.pairwise_cons.1 sorted
    rcases List.mem_cons.1 mem with rfl | inRest
    · simp [lookup]
    · have greater := Std.OrientedCmp.gt_of_lt (before (k, a) inRest)
      simp [lookup, greater, ih rest_sorted inRest]

theorem get?_eq_some_iff {t : Table κ α} {k : κ} {a : α} :
    t.get? k = some a ↔ (k, a) ∈ t.entries :=
  ⟨mem_of_lookup, lookup_of_mem t.sorted⟩

omit [Std.TransOrd κ] in
theorem All.of_get? {P : κ → α → Prop} {t : Table κ α} (h : t.All P) {k : κ} {a : α}
    (found : t.get? k = some a) : P k a :=
  h (k, a) (mem_of_lookup found)

omit [Std.TransOrd κ] in
theorem lookup_insertEntry_self (k : κ) (a : α) (entries : List (κ × α)) :
    lookup k (insertEntry k a entries) = some a := by
  induction entries with
  | nil => simp [insertEntry, lookup]
  | cons head rest ih =>
    rw [insertEntry]
    split
    · simp [lookup]
    · simp [lookup]
    next greater => simp [lookup, greater, ih]

omit [Std.TransOrd κ] in
theorem lookup_insertEntry_ne {k k' : κ} (ne : k' ≠ k) (a : α) (entries : List (κ × α)) :
    lookup k' (insertEntry k a entries) = lookup k' entries := by
  have skip : compare k' k ≠ .eq := fun same => ne (Std.LawfulEqCmp.compare_eq_iff_eq.1 same)
  induction entries with
  | nil => simp [insertEntry, lookup, skip]
  | cons head rest ih =>
    rw [insertEntry]
    split
    · simp [lookup, skip]
    next same =>
      have same := Std.LawfulEqCmp.compare_eq_iff_eq.1 same
      subst same
      simp [lookup, skip]
    · simp [lookup, ih]

omit [Std.TransOrd κ] [Std.LawfulEqOrd κ] in
theorem lookup_eq_none_of_lt {k : κ} {entries : List (κ × α)}
    (after : ∀ e ∈ entries, compare k e.1 = .lt) : lookup k entries = none := by
  induction entries with
  | nil => rfl
  | cons head rest ih =>
    have less := after head List.mem_cons_self
    simp [lookup, less, ih fun e mem => after e (List.mem_cons_of_mem _ mem)]

omit [Std.TransOrd κ] in
theorem lookup_eraseEntry_self {k : κ} {entries : List (κ × α)}
    (sorted : entries.Pairwise fun a b => compare a.1 b.1 = .lt) :
    lookup k (eraseEntry k entries) = none := by
  induction entries with
  | nil => rfl
  | cons head rest ih =>
    obtain ⟨before, rest_sorted⟩ := List.pairwise_cons.1 sorted
    rw [eraseEntry]
    split
    next same =>
      have same := Std.LawfulEqCmp.compare_eq_iff_eq.1 same
      subst same
      exact lookup_eq_none_of_lt before
    next differs => simp [lookup, differs, ih rest_sorted]

omit [Std.TransOrd κ] in
theorem lookup_eraseEntry_ne {k k' : κ} (ne : k' ≠ k) (entries : List (κ × α)) :
    lookup k' (eraseEntry k entries) = lookup k' entries := by
  have skip : compare k' k ≠ .eq := fun same => ne (Std.LawfulEqCmp.compare_eq_iff_eq.1 same)
  induction entries with
  | nil => rfl
  | cons head rest ih =>
    rw [eraseEntry]
    split
    next same =>
      have same := Std.LawfulEqCmp.compare_eq_iff_eq.1 same
      subst same
      simp [lookup, skip]
    · simp [lookup, ih]

@[simp] theorem get?_insert_self (t : Table κ α) (k : κ) (a : α) :
    (t.insert k a).get? k = some a :=
  lookup_insertEntry_self k a t.entries

theorem get?_insert_ne {k k' : κ} (ne : k' ≠ k) (t : Table κ α) (a : α) :
    (t.insert k a).get? k' = t.get? k' :=
  lookup_insertEntry_ne ne a t.entries

omit [Std.TransOrd κ] in
@[simp] theorem get?_erase_self (t : Table κ α) (k : κ) : (t.erase k).get? k = none :=
  lookup_eraseEntry_self t.sorted

omit [Std.TransOrd κ] in
theorem get?_erase_ne {k k' : κ} (ne : k' ≠ k) (t : Table κ α) :
    (t.erase k).get? k' = t.get? k' :=
  lookup_eraseEntry_ne ne t.entries

theorem entries_eq_of_lookup_eq {first second : List (κ × α)}
    (firstSorted : first.Pairwise fun a b => compare a.1 b.1 = .lt)
    (secondSorted : second.Pairwise fun a b => compare a.1 b.1 = .lt)
    (same : ∀ k, lookup k first = lookup k second) : first = second := by
  induction first generalizing second with
  | nil =>
    cases second with
    | nil => rfl
    | cons head rest => simpa [lookup] using same head.1
  | cons head rest ih =>
    obtain ⟨k, a⟩ := head
    obtain ⟨before, restSorted⟩ := List.pairwise_cons.1 firstSorted
    cases second with
    | nil => simpa [lookup] using same k
    | cons head' rest' =>
      obtain ⟨k', a'⟩ := head'
      obtain ⟨before', restSorted'⟩ := List.pairwise_cons.1 secondSorted
      have keys : k = k' := by
        rcases order : compare k k' with _ | _ | _
        · have found := same k
          have absent : lookup k ((k', a') :: rest') = none := lookup_eq_none_of_lt fun e mem => by
            rcases List.mem_cons.1 mem with rfl | inRest
            · exact order
            · exact Std.TransCmp.lt_trans order (before' e inRest)
          rw [absent] at found
          simp [lookup] at found
        · exact Std.LawfulEqCmp.compare_eq_iff_eq.1 order
        · have order := Std.OrientedCmp.gt_iff_lt.1 order
          have found := same k'
          have absent : lookup k' ((k, a) :: rest) = none := lookup_eq_none_of_lt fun e mem => by
            rcases List.mem_cons.1 mem with rfl | inRest
            · exact order
            · exact Std.TransCmp.lt_trans order (before e inRest)
          rw [absent] at found
          simp [lookup] at found
      subst keys
      have rowsEq : a = a' := by simpa [lookup] using same k
      subst rowsEq
      refine congrArg _ (ih restSorted restSorted' fun key => ?_)
      by_cases h : key = k
      · subst h
        rw [lookup_eq_none_of_lt before, lookup_eq_none_of_lt before']
      · have skip : compare key k ≠ .eq := fun e => h (Std.LawfulEqCmp.compare_eq_iff_eq.1 e)
        simpa [lookup, skip] using same key

/-- Tables with the same row under every key are equal. -/
theorem ext_get? {s t : Table κ α} (same : ∀ k, s.get? k = t.get? k) : s = t := by
  obtain ⟨first, firstSorted⟩ := s
  obtain ⟨second, secondSorted⟩ := t
  have := entries_eq_of_lookup_eq firstSorted secondSorted same
  subst this
  rfl

end Table

end AgentFacts
