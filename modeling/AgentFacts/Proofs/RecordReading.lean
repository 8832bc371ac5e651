import AgentFacts.Proofs.Handlers

namespace AgentFacts

variable {α β : Type}

namespace Json

theorem find?_foldl_insertMember {name : String} {members : List (String × Json)}
    (hother : name ∉ members.map (·.1)) (all : List (String × Json)) :
    find? name (members.foldl (fun all (name, value) => insertMember name value all) all) =
      find? name all := by
  induction members generalizing all with
  | nil => rfl
  | cons member rest ih =>
    simp only [List.map_cons, List.mem_cons, not_or] at hother
    rw [List.foldl_cons, ih hother.2, find?_insertMember_ne hother.1]

/-- An object with members of different names has them all. -/
theorem ofMembers_spec {members : List (String × Json)} (hnames : (members.map (·.1)).Nodup) :
    ∃ all, ofMembers members = .object all ∧ ∀ m ∈ members, find? m.1 all = some m.2 := by
  refine ⟨_, rfl, ?_⟩
  generalize ([] : List (String × Json)) = before
  induction members generalizing before with
  | nil => simp
  | cons member rest ih =>
    rw [List.map_cons, List.nodup_cons] at hnames
    rw [List.forall_mem_cons]
    refine ⟨?_, ih hnames.2 _⟩
    rw [List.foldl_cons, find?_foldl_insertMember hnames.1, find?_insertMember_self]

end Json

namespace Reading

variable {f : Reading (α → β)} {x : Reading α}

/-- What a reading comes to, if it succeeds. -/
def Yields (x : Reading α) (P : α → Prop) : Prop :=
  ∀ a, x = .done a → P a

@[simp] theorem map_done (g : α → β) (a : α) : g <$> (Reading.done a) = .done (g a) := rfl

@[simp] theorem seq_done (g : α → β) (a : α) :
    (Reading.done g) <*> Reading.done a = .done (g a) := rfl

@[simp] theorem ofDecoded_ok (rank : Nat) (a : α) : ofDecoded rank (.ok a) = .done a := rfl

theorem seq_eq_done {b : β} (h : f <*> x = .done b) :
    ∃ g a, f = .done g ∧ x = .done a ∧ g a = b := by
  cases f <;> cases x
  · cases h
    exact ⟨_, _, rfl, rfl, rfl⟩
  · cases h
  · cases h
  · revert h
    show (if _ then _ else _) = _ → _
    split <;> rintro ⟨⟩

theorem Yields.done {P : α → Prop} {a : α} (h : P a) : (Reading.done a).Yields P := by
  rintro _ ⟨⟩
  exact h

theorem Yields.failed {P : α → Prop} (rank : Nat) (error : DecodeError) :
    (Reading.failed rank error).Yields P :=
  nofun

theorem Yields.skip {P : β → Prop} (hf : f.Yields fun g => ∀ a, P (g a)) : (f <*> x).Yields P := by
  intro b h
  obtain ⟨g, a, hg, -, rfl⟩ := seq_eq_done h
  exact hf g hg a

/-- A part that has a say in it: the parts before are asked for the rest. -/
theorem Yields.seq {P : β → Prop} {Q : α → Prop} (hx : x.Yields Q)
    (hf : f.Yields fun g => ∀ a, Q a → P (g a)) : (f <*> x).Yields P := by
  intro b h
  obtain ⟨g, a, hg, ha, rfl⟩ := seq_eq_done h
  exact hf g hg a (hx a ha)

theorem Yields.skip_map {P : β → Prop} {g : α → β} (hg : ∀ a, P (g a)) : (g <$> x).Yields P := by
  intro b h
  obtain ⟨g', a, hg', -, rfl⟩ := seq_eq_done h
  cases hg'
  exact hg a

theorem Yields.map {P : β → Prop} {Q : α → Prop} {g : α → β} (hx : x.Yields Q)
    (hg : ∀ a, Q a → P (g a)) : (g <$> x).Yields P :=
  .seq hx fun g' h => by cases h; exact hg

end Reading

/-- What stands for an absent field, if anything does, has a property. -/
def WhenAbsent.All (P : α → Prop) : WhenAbsent α → Prop
  | .refuse => True
  | .inObjects value => P value
  | .always value => P value

namespace RecordForm

variable {form : RecordForm} {read : Json → Decoded α} {P : α → Prop}

/-- A field has what every value of its kind has, whether it was given or stood in for. -/
theorem field_yields {source : RecordSource} {name : String} {absent : WhenAbsent α}
    (hread : ∀ json a, read json = .ok a → P a) (habsent : absent.All P) :
    (form.field source name absent read).Yields P := by
  have hgiven (rank : Nat) (json : Json) : (Reading.ofDecoded rank (read json)).Yields P := by
    intro a h
    cases hjson : read json with
    | error e => rw [hjson] at h; cases h
    | ok b =>
      rw [hjson] at h
      cases h
      exact hread json a hjson
  cases source with
  | members all =>
    simp only [field]
    split
    · exact hgiven _ _
    · cases absent with
      | refuse => exact .failed _ _
      | inObjects value => exact .done habsent
      | always value => exact .done habsent
  | items all =>
    simp only [field]
    split
    · exact hgiven _ _
    · cases absent with
      | refuse => exact .failed _ _
      | inObjects value => exact .failed _ _
      | always value => exact .done habsent

variable {reads : RecordSource → Reading α}

/-- A record has the properties that reading its fields gives, from whatever they are read. -/
theorem decode_yields (hreads : ∀ source, (reads source).Yields P) {json : Json} {a : α}
    (h : form.decode reads json = .ok a) : P a := by
  have hdone {source : RecordSource} (h : (reads source).toDecoded = .ok a) : P a := by
    cases hs : reads source with
    | done b =>
      rw [hs] at h
      cases h
      exact hreads source a hs
    | failed rank error => rw [hs] at h; cases h
  unfold decode at h
  cases json with
  | object members => exact hdone h
  | list items =>
    obtain ⟨b, hb, h⟩ := ok_of_bind_ok h
    split at h
    · cases h
    · cases h
      exact hdone hb
  | _ => cases h

/-- A record that was written, field by field, is read from its members. -/
theorem decode_ofMembers {members : List (String × Json)} {a : α}
    (hfields : members.map (·.1) = form.fields) (hnames : form.fields.Nodup)
    (h : ∀ all, (∀ m ∈ members, Json.find? m.1 all = some m.2) →
      reads (.members all) = .done a) :
    form.decode reads (.ofMembers members) = .ok a := by
  obtain ⟨all, hall, hfind⟩ := Json.ofMembers_spec (hfields ▸ hnames)
  rw [hall, decode, h all hfind]
  rfl

end RecordForm

end AgentFacts
