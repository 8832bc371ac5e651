import AgentFacts.Task
import AgentFacts.Envelope
import Mathlib.Data.List.Nodup

namespace AgentFacts

/-- How a worker came to be done with an envelope. -/
inductive Ending where
  | finished
  | aborted
deriving DecidableEq

/-- Where an envelope can be that has entered the queue. -/
inductive Books.Place where
  | queue
  | hand (worker : Nat)
  | ended (how : Ending)
deriving DecidableEq

structure Books where
  /-- What has entered the queue, and by whom, in order. -/
  entered : List (TaskId × Envelope)
  /-- How many have left the queue. -/
  left : Nat
  /-- The position of what a worker holds. -/
  hand : Nat → Option Nat
  /-- The positions of those that have ended, in that order. -/
  ended : List (Nat × Ending)

namespace Books

def empty : Books := ⟨[], 0, fun _ => none, []⟩

/-- What a task has put on the queue. -/
def sentBy (b : Books) (task : TaskId) : List Envelope :=
  (b.entered.filter (·.1 = task)).map (·.2)

/-- The envelopes that have entered and not left, in order. -/
def waiting (b : Books) : List Envelope :=
  (b.entered.drop b.left).map (·.2)

/-- The envelope in the hands of a worker. -/
def held (b : Books) (worker : Nat) : Option Envelope :=
  (b.hand worker).bind fun k => b.entered[k]?.map (·.2)

def assign (b : Books) (worker : Nat) (position : Option Nat) : Books :=
  { b with hand := fun other => if other = worker then position else b.hand other }

def enter (b : Books) (task : TaskId) (envelopes : List Envelope) : Books :=
  { b with entered := b.entered ++ envelopes.map (task, ·) }

def take (b : Books) (worker : Nat) : Books :=
  { b.assign worker (some b.left) with left := b.left + 1 }

def finish (b : Books) (worker : Nat) : Books :=
  { b.assign worker none with
    ended := b.ended ++ (b.hand worker).toList.map (·, .finished) }

def abort (b : Books) (workers : Nat) : Books :=
  { b with
    hand := fun _ => none
    ended := b.ended ++ ((List.range workers).filterMap b.hand).map (·, .aborted) }

/-- Whether what entered at a position is at a place. -/
def At (b : Books) (k : Nat) : Place → Prop
  | .queue => b.left ≤ k ∧ k < b.entered.length
  | .hand worker => b.hand worker = some k
  | .ended how => (k, how) ∈ b.ended

/-- Nothing is lost and nothing is held or ended twice. -/
structure Kept (b : Books) : Prop where
  bound : b.left ≤ b.entered.length
  left : ∀ {i k}, b.hand i = some k → k < b.left
  alone : ∀ {i j k}, b.hand i = some k → b.hand j = some k → i = j
  ended : ∀ {k how}, (k, how) ∈ b.ended → k < b.left ∧ ∀ i, b.hand i ≠ some k
  once : (b.ended.map (·.1)).Nodup
  found : ∀ {k}, k < b.left → (∃ i, b.hand i = some k) ∨ ∃ how, (k, how) ∈ b.ended

/-- What later books still tell of earlier ones. -/
structure Before (b b' : Books) : Prop where
  entered : b.entered <+: b'.entered
  left : b.left ≤ b'.left
  ended : b.ended <+: b'.ended
  /-- What a worker holds stays in its hands until it has ended. -/
  hand : ∀ {i k}, b.hand i = some k → b'.hand i = some k ∨ ∃ how, (k, how) ∈ b'.ended
  /-- What a worker has come to hold was on the queue. -/
  fresh : ∀ {i k}, b'.hand i = some k → b.hand i = some k ∨ b.left ≤ k

variable {b b' b'' : Books} {i j k : Nat} {task : TaskId}

@[simp] theorem assign_self (b : Books) (i : Nat) (position : Option Nat) :
    (b.assign i position).hand i = position := if_pos rfl

theorem assign_ne (h : j ≠ i) (position : Option Nat) :
    (b.assign i position).hand j = b.hand j := if_neg h

theorem hand_of_assign {position : Option Nat} (h : (b.assign i position).hand j = some k) :
    j = i ∧ position = some k ∨ j ≠ i ∧ b.hand j = some k := by
  by_cases he : j = i
  · subst he
    rw [assign_self] at h
    exact .inl ⟨rfl, h⟩
  · rw [assign_ne he] at h
    exact .inr ⟨he, h⟩

theorem sentBy_enter (b : Books) (task : TaskId) (envelopes : List Envelope) :
    (b.enter task envelopes).sentBy task = b.sentBy task ++ envelopes := by
  have hall : (envelopes.map (task, ·)).filter (fun entry => decide (entry.1 = task)) =
      envelopes.map (task, ·) := by
    apply List.filter_eq_self.2
    intro entry hm
    obtain ⟨e, -, rfl⟩ := List.mem_map.1 hm
    exact decide_eq_true rfl
  unfold sentBy enter
  rw [List.filter_append, List.map_append, hall, List.map_map]
  exact congrArg _ (List.map_id envelopes)

theorem sentBy_enter_ne {other : TaskId} (h : other ≠ task) (b : Books)
    (envelopes : List Envelope) : (b.enter task envelopes).sentBy other = b.sentBy other := by
  have hnone : (envelopes.map (task, ·)).filter (fun entry => decide (entry.1 = other)) = [] := by
    apply List.filter_eq_nil_iff.2
    intro entry hm
    obtain ⟨e, -, rfl⟩ := List.mem_map.1 hm
    simp only [decide_eq_true_eq]
    exact h.symm
  unfold sentBy enter
  rw [List.filter_append, hnone, List.append_nil]

theorem enter_nil (b : Books) (task : TaskId) : b.enter task [] = b := by
  unfold enter
  rw [List.map_nil, List.append_nil]

/-- What has entered stays where it is when more enters. -/
theorem waiting_enter (h : b.left ≤ b.entered.length) (task : TaskId)
    (envelopes : List Envelope) :
    (b.enter task envelopes).waiting = b.waiting ++ envelopes := by
  unfold waiting enter
  rw [List.drop_append_of_le_length h, List.map_append, List.map_map]
  exact congrArg _ (List.map_id envelopes)

/-- What is first on the queue is at the position that leaves it next. -/
theorem entered_of_waiting {e : Envelope} {rest : List Envelope} (h : b.waiting = e :: rest) :
    b.left < b.entered.length ∧ b.entered[b.left]?.map (·.2) = some e ∧
      (b.take i).waiting = rest := by
  unfold waiting at h
  by_cases hlt : b.left < b.entered.length
  · rw [List.drop_eq_getElem_cons hlt, List.map_cons] at h
    obtain ⟨he, hrest⟩ := List.cons.inj h
    refine ⟨hlt, ?_, hrest⟩
    rw [List.getElem?_eq_getElem hlt, ← he]
    rfl
  · rw [List.drop_eq_nil_of_le (Nat.le_of_not_lt hlt)] at h
    cases h

/-- Positions that have been given do not change their envelopes. -/
theorem getElem?_enter (h : k < b.entered.length) (task : TaskId) (envelopes : List Envelope) :
    (b.enter task envelopes).entered[k]? = b.entered[k]? :=
  List.getElem?_append_left h

namespace Kept

theorem empty : Kept Books.empty where
  bound := Nat.le_refl 0
  left h := by cases h
  alone h := by cases h
  ended h := by cases h
  once := List.nodup_nil
  found h := absurd h (Nat.not_lt_zero _)

theorem enter (h : b.Kept) (task : TaskId) (envelopes : List Envelope) :
    (b.enter task envelopes).Kept where
  bound := by
    have hb := h.bound
    simp only [Books.enter, List.length_append]
    omega
  left := h.left
  alone := h.alone
  ended := h.ended
  once := h.once
  found := h.found

theorem take (h : b.Kept) (hlt : b.left < b.entered.length) (hi : b.hand i = none) :
    (b.take i).Kept where
  bound := hlt
  left := by
    intro j k hj
    show k < b.left + 1
    rcases hand_of_assign hj with ⟨-, hk⟩ | ⟨-, hj⟩
    · obtain rfl := Option.some.inj hk
      omega
    · have hlt := h.left hj
      omega
  alone := by
    intro j j' k hj hj'
    rcases hand_of_assign hj with ⟨rfl, hk⟩ | ⟨-, hj⟩
    · rcases hand_of_assign hj' with ⟨rfl, -⟩ | ⟨-, hj'⟩
      · rfl
      · obtain rfl := Option.some.inj hk
        exact absurd (h.left hj') (Nat.lt_irrefl _)
    · rcases hand_of_assign hj' with ⟨-, hk⟩ | ⟨-, hj'⟩
      · obtain rfl := Option.some.inj hk
        exact absurd (h.left hj) (Nat.lt_irrefl _)
      · exact h.alone hj hj'
  ended := by
    intro k how hm
    obtain ⟨hlt, hno⟩ := h.ended hm
    refine ⟨Nat.lt_succ_of_lt hlt, fun j hj => ?_⟩
    rcases hand_of_assign hj with ⟨-, hk⟩ | ⟨-, hj⟩
    · obtain rfl := Option.some.inj hk
      exact absurd hlt (Nat.lt_irrefl _)
    · exact hno j hj
  once := h.once
  found := by
    intro k hk
    have hk : k < b.left + 1 := hk
    by_cases he : k = b.left
    · subst he
      exact .inl ⟨i, assign_self b i _⟩
    · rcases h.found (k := k) (by omega) with ⟨j, hj⟩ | hend
      · have hne : j ≠ i := by
          intro he
          subst he
          rw [hi] at hj
          cases hj
        exact .inl ⟨j, (assign_ne hne _).trans hj⟩
      · exact .inr hend

theorem finish (h : b.Kept) (hi : b.hand i = some k) : (b.finish i).Kept where
  bound := h.bound
  left := by
    intro j k' hj
    rcases hand_of_assign hj with ⟨-, hk⟩ | ⟨-, hj⟩
    · cases hk
    · exact h.left hj
  alone := by
    intro j j' k' hj hj'
    rcases hand_of_assign hj with ⟨-, hk⟩ | ⟨-, hj⟩
    · cases hk
    rcases hand_of_assign hj' with ⟨-, hk⟩ | ⟨-, hj'⟩
    · cases hk
    exact h.alone hj hj'
  ended := by
    intro k' how hm
    unfold Books.finish at hm
    rw [hi] at hm
    rcases List.mem_append.1 hm with hm | hm
    · obtain ⟨hlt, hno⟩ := h.ended hm
      refine ⟨hlt, fun j hj => ?_⟩
      rcases hand_of_assign hj with ⟨-, hk⟩ | ⟨-, hj⟩
      · cases hk
      · exact hno j hj
    · obtain ⟨rfl, -⟩ := Prod.mk.inj (List.mem_singleton.1 hm)
      refine ⟨h.left hi, fun j hj => ?_⟩
      rcases hand_of_assign hj with ⟨-, hk⟩ | ⟨hne, hj⟩
      · cases hk
      · exact hne (h.alone hj hi)
  once := by
    unfold Books.finish
    rw [hi, List.map_append]
    refine List.nodup_append.2 ⟨h.once, List.nodup_singleton k, ?_⟩
    intro k' hm k'' hm'
    obtain ⟨⟨_, how⟩, hend, rfl⟩ := List.mem_map.1 hm
    intro he
    have hk : k'' = k := List.mem_singleton.1 hm'
    exact (h.ended hend).2 i (hi.trans (congrArg some (he.trans hk).symm))
  found := by
    intro k' hk'
    unfold Books.finish
    rw [hi]
    rcases h.found hk' with ⟨j, hj⟩ | ⟨how, hm⟩
    · by_cases he : j = i
      · subst he
        rw [hi] at hj
        obtain rfl := Option.some.inj hj
        exact .inr ⟨.finished, List.mem_append_right _ (List.mem_singleton.2 rfl)⟩
      · exact .inl ⟨j, (assign_ne he none).trans hj⟩
    · exact .inr ⟨how, List.mem_append_left _ hm⟩

/-- Who is given up is among those below the number. -/
theorem abort (h : b.Kept) {n : Nat} (hn : ∀ {i k}, b.hand i = some k → i < n) :
    (b.abort n).Kept where
  bound := h.bound
  left hj := by cases hj
  alone hj := by cases hj
  ended := by
    intro k how hm
    refine ⟨?_, fun i hi => by cases hi⟩
    rcases List.mem_append.1 hm with hm | hm
    · exact (h.ended hm).1
    · obtain ⟨k', hk', he⟩ := List.mem_map.1 hm
      obtain ⟨rfl, -⟩ := Prod.mk.inj he
      obtain ⟨i, -, hi⟩ := List.mem_filterMap.1 hk'
      exact h.left hi
  once := by
    unfold Books.abort
    rw [List.map_append, List.map_map]
    refine List.nodup_append.2 ⟨h.once, ?_, ?_⟩
    · change (((List.range n).filterMap b.hand).map id).Nodup
      rw [List.map_id]
      apply List.Nodup.filterMap _ List.nodup_range
      intro i j k hi hj
      exact h.alone hi hj
    · intro k hm k' hm'
      obtain ⟨⟨_, how⟩, hend, rfl⟩ := List.mem_map.1 hm
      obtain ⟨_, hheld, rfl⟩ := List.mem_map.1 hm'
      obtain ⟨i, -, hi⟩ := List.mem_filterMap.1 hheld
      intro he
      exact (h.ended hend).2 i (hi.trans (congrArg some he.symm))
  found := by
    intro k hk
    rcases h.found hk with ⟨i, hi⟩ | ⟨how, hm⟩
    · have hm : k ∈ (List.range n).filterMap b.hand :=
        List.mem_filterMap.2 ⟨i, List.mem_range.2 (hn hi), hi⟩
      exact .inr ⟨.aborted, List.mem_append_right _ (List.mem_map_of_mem hm)⟩
    · exact .inr ⟨how, List.mem_append_left _ hm⟩

/-- Whatever has entered is at one place, and at no other. -/
theorem exists_unique_place (h : b.Kept) (hk : k < b.entered.length) :
    ∃! place, b.At k place := by
  have hunique : ∀ {how how'}, (k, how) ∈ b.ended → (k, how') ∈ b.ended → how = how' := by
    intro how how' hm hm'
    exact (Prod.mk.inj (List.inj_on_of_nodup_map h.once hm hm' rfl)).2
  by_cases hlt : k < b.left
  · have hqueue : ¬ b.At k .queue := fun hq => absurd hlt (Nat.not_lt.2 hq.1)
    rcases h.found hlt with ⟨i, hi⟩ | ⟨how, hm⟩
    · refine ⟨.hand i, hi, fun place hat => ?_⟩
      cases place with
      | queue => exact absurd hat hqueue
      | hand j => exact congrArg Place.hand (h.alone hat hi)
      | ended how => exact absurd hi ((h.ended hat).2 i)
    · refine ⟨.ended how, hm, fun place hat => ?_⟩
      cases place with
      | queue => exact absurd hat hqueue
      | hand j => exact absurd hat ((h.ended hm).2 j)
      | ended how' => exact congrArg Place.ended (hunique hat hm)
  · refine ⟨.queue, ⟨Nat.le_of_not_lt hlt, hk⟩, fun place hat => ?_⟩
    cases place with
    | queue => rfl
    | hand j => exact absurd (h.left hat) hlt
    | ended how => exact absurd (h.ended hat).1 hlt

end Kept

namespace Before

theorem refl (b : Books) : b.Before b where
  entered := List.prefix_rfl
  left := Nat.le_refl _
  ended := List.prefix_rfl
  hand h := .inl h
  fresh h := .inl h

theorem trans (h : b.Before b') (h' : b'.Before b'') : b.Before b'' where
  entered := h.entered.trans h'.entered
  left := Nat.le_trans h.left h'.left
  ended := h.ended.trans h'.ended
  hand hi := by
    rcases h.hand hi with hi | ⟨how, hm⟩
    · exact h'.hand hi
    · exact .inr ⟨how, h'.ended.subset hm⟩
  fresh hi := by
    rcases h'.fresh hi with hi | hk
    · exact h.fresh hi
    · exact .inr (Nat.le_trans h.left hk)

theorem enter (b : Books) (task : TaskId) (envelopes : List Envelope) :
    b.Before (b.enter task envelopes) where
  entered := List.prefix_append _ _
  left := Nat.le_refl _
  ended := List.prefix_rfl
  hand h := .inl h
  fresh h := .inl h

theorem take (hi : b.hand i = none) : b.Before (b.take i) where
  entered := List.prefix_rfl
  left := Nat.le_succ _
  ended := List.prefix_rfl
  hand := by
    intro j k hj
    have hne : j ≠ i := by
      intro he
      subst he
      rw [hi] at hj
      cases hj
    exact .inl ((assign_ne hne _).trans hj)
  fresh := by
    intro j k hj
    rcases hand_of_assign hj with ⟨-, hk⟩ | ⟨-, hj⟩
    · obtain rfl := Option.some.inj hk
      exact .inr (Nat.le_refl _)
    · exact .inl hj

theorem finish (b : Books) (i : Nat) : b.Before (b.finish i) where
  entered := List.prefix_rfl
  left := Nat.le_refl _
  ended := List.prefix_append _ _
  hand := by
    intro j k hj
    by_cases he : j = i
    · subst he
      refine .inr ⟨.finished, List.mem_append_right _ ?_⟩
      rw [hj]
      exact List.mem_singleton.2 rfl
    · exact .inl ((assign_ne he none).trans hj)
  fresh := by
    intro j k hj
    rcases hand_of_assign hj with ⟨-, hk⟩ | ⟨-, hj⟩
    · cases hk
    · exact .inl hj

theorem abort {n : Nat} (hn : ∀ {i k}, b.hand i = some k → i < n) : b.Before (b.abort n) where
  entered := List.prefix_rfl
  left := Nat.le_refl _
  ended := List.prefix_append _ _
  hand := by
    intro j k hj
    have hm : k ∈ (List.range n).filterMap b.hand :=
      List.mem_filterMap.2 ⟨j, List.mem_range.2 (hn hj), hj⟩
    exact .inr ⟨.aborted, List.mem_append_right _ (List.mem_map_of_mem hm)⟩
  fresh hj := by cases hj

end Before

end Books

end AgentFacts
