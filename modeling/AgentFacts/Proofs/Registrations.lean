import AgentFacts.Proofs.ByteOrder
import AgentFacts.Registry
import Mathlib.Data.List.Dedup

namespace AgentFacts

/-- What a step registers, in the order in which it does. -/
def Registration.pairs : Registration → List (EventType × Projector)
  | .ofType eventType projector => [(eventType, projector)]
  | .ofDeclared projector => projector.eventTypes.map fun eventType => (eventType, projector)

namespace Registry

/-- What some steps register, one after another. -/
def registered (steps : List Registration) : List (EventType × Projector) :=
  steps.flatMap Registration.pairs

/-- Every type is registered once. -/
def Distinct (pairs : List (EventType × Projector)) : Prop :=
  (pairs.map (·.1)).Nodup

/-- A registry that answers as it was told, for any type whatever. -/
structure Answers (r : Registry) (pairs : List (EventType × Projector)) : Prop where
  resolve : ∀ eventType projector,
    r.resolve eventType = .ok projector ↔ (eventType, projector) ∈ pairs
  unknown : ∀ eventType, eventType ∉ pairs.map (·.1) →
    r.resolve eventType = .error (.unknownEventType eventType)
  contains : ∀ eventType, r.contains eventType = true ↔ eventType ∈ pairs.map (·.1)
  /-- The types are listed once each, in the order of their bytes. -/
  listed : r.eventTypes.Perm (pairs.map (·.1))
  ordered : r.eventTypes.Pairwise fun s t => Text.bytes s.text < Text.bytes t.text
  size : r.size = pairs.length

/-- How steps come to fail: the one after the `earlier` ones registers some types, and then one that
an owner has already, be it from an earlier step or from this one. -/
inductive Conflict : List Registration → EventType → Projector → Prop where
  | taken {earlier later : List Registration} {step : Registration}
    {done undone : List (EventType × Projector)} {eventType : EventType}
    {projector owner : Projector} {r : Registry} (built : build earlier = .ok r)
    (declares : step.pairs = done ++ (eventType, projector) :: undone)
    (fresh : Distinct (registered earlier ++ done))
    (owned : (eventType, owner) ∈ registered earlier ++ done)
    (refused : r.extend step = .error (.duplicateProjector eventType owner.name)) :
    Conflict (earlier ++ step :: later) eventType owner

/-- What has been registered so far, and nothing else. -/
structure Holds (r : Registry) (pairs : List (EventType × Projector)) : Prop where
  find : ∀ eventType projector,
    r.find? eventType = some projector ↔ (eventType, projector) ∈ pairs
  distinct : Distinct pairs

variable {r : Registry} {pairs before : List (EventType × Projector)} {eventType : EventType}
  {projector owner : Projector} {steps earlier : List Registration} {step : Registration}

theorem registered_snoc (steps : List Registration) (step : Registration) :
    registered (steps ++ [step]) = registered steps ++ step.pairs := by
  simp [registered]

theorem distinct_snoc : Distinct (before ++ [(eventType, projector)]) ↔
    Distinct before ∧ eventType ∉ before.map (·.1) := by
  rw [Distinct, List.map_append, List.nodup_append_comm, and_comm]
  exact List.nodup_cons

theorem Distinct.left (h : Distinct (before ++ pairs)) : Distinct before := by
  unfold Distinct at h
  rw [List.map_append] at h
  exact h.of_append_left

theorem holds_empty : empty.Holds [] :=
  ⟨fun _ _ => by simp [find?, empty], .nil⟩

theorem Holds.find?_eq_none (h : r.Holds pairs) (habsent : eventType ∉ pairs.map (·.1)) :
    r.find? eventType = none := by
  cases hf : r.find? eventType with
  | none => rfl
  | some projector => exact absurd (List.mem_map_of_mem ((h.find _ _).1 hf)) habsent

/-- A type that is not taken comes to those that are registered. -/
theorem Holds.register (h : r.Holds before) (projector : Projector)
    (hnew : eventType ∉ before.map (·.1)) :
    ∃ r', r.register eventType projector = .ok r' ∧
      r'.Holds (before ++ [(eventType, projector)]) := by
  have hnone := h.find?_eq_none hnew
  refine ⟨⟨r.projectors.insert eventType projector⟩, by simp [Registry.register, hnone],
    fun other projector' => ?_, distinct_snoc.2 ⟨h.distinct, hnew⟩⟩
  by_cases heq : other = eventType
  · subst heq
    have habsent : (other, projector') ∉ before := fun hm => hnew (List.mem_map_of_mem hm)
    simp [find?, habsent, eq_comm]
  · have hold : r.projectors.get? other = some projector' ↔ (other, projector') ∈ before :=
      h.find other projector'
    simp [find?, Table.get?_insert_ne heq, hold, heq]

theorem Holds.register_of_mem (h : r.Holds before) (hmem : (eventType, owner) ∈ before) :
    r.register eventType projector = .error (.duplicateProjector eventType owner.name) := by
  simp [Registry.register, (h.find _ _).2 hmem]

/-- The pairs of one step, after some others: all of them come in, or the first whose type is taken
by then is refused. -/
theorem Holds.registerPairs (h : r.Holds before) (pairs : List (EventType × Projector)) :
    (∃ r', pairs.foldlM (fun r (pair : EventType × Projector) => r.register pair.1 pair.2) r =
        .ok r' ∧ r'.Holds (before ++ pairs)) ∨
      ∃ done eventType projector undone owner,
        pairs = done ++ (eventType, projector) :: undone ∧ Distinct (before ++ done) ∧
          (eventType, owner) ∈ before ++ done ∧
          pairs.foldlM (fun r (pair : EventType × Projector) => r.register pair.1 pair.2) r =
            .error (.duplicateProjector eventType owner.name) := by
  induction pairs generalizing r before with
  | nil => exact .inl ⟨r, rfl, by rwa [List.append_nil]⟩
  | cons pair rest ih =>
    obtain ⟨eventType, projector⟩ := pair
    rw [List.foldlM_cons]
    by_cases hnew : eventType ∈ before.map (·.1)
    · obtain ⟨⟨_, owner⟩, hmem, rfl⟩ := List.mem_map.1 hnew
      refine .inr ⟨[], _, projector, rest, owner, rfl, ?_, ?_, ?_⟩
      · rw [List.append_nil]
        exact h.distinct
      · rwa [List.append_nil]
      · rw [h.register_of_mem hmem]
        rfl
    · obtain ⟨r', hr', h'⟩ := h.register projector hnew
      rw [hr']
      rcases ih h' with ⟨r'', hr'', h''⟩ | ⟨done, t, p, undone, owner, rfl, hd, hm, hr''⟩
      · exact .inl ⟨r'', hr'', by simpa using h''⟩
      · refine .inr ⟨(eventType, projector) :: done, t, p, undone, owner, rfl, ?_, ?_, hr''⟩
        · simpa using hd
        · simpa using hm

theorem extend_eq (r : Registry) (step : Registration) :
    r.extend step =
      step.pairs.foldlM (fun r (pair : EventType × Projector) => r.register pair.1 pair.2) r := by
  cases step with
  | ofType eventType projector =>
    simp [extend, Registration.pairs]
  | ofDeclared projector =>
    simp [extend, registerAll, Registration.pairs, List.foldlM_map]

theorem build_snoc (hearlier : build earlier = .ok r) :
    build (earlier ++ [step]) = r.extend step := by
  unfold build at *
  rw [List.foldlM_append, hearlier]
  exact bind_pure (r.extend step)

/-- A registry that comes out of the earlier steps goes on with the later ones, and comes to hold
all that is registered, or there is a conflict. -/
theorem Holds.extendAll (hearlier : build earlier = .ok r) (h : r.Holds (registered earlier))
    (later : List Registration) :
    (∃ r', later.foldlM extend r = .ok r' ∧ r'.Holds (registered (earlier ++ later))) ∨
      ∃ eventType owner, Conflict (earlier ++ later) eventType owner ∧
        later.foldlM extend r = .error (.duplicateProjector eventType owner.name) := by
  induction later generalizing r earlier with
  | nil => exact .inl ⟨r, rfl, by rwa [List.append_nil]⟩
  | cons step rest ih =>
    rw [List.foldlM_cons, extend_eq]
    rcases h.registerPairs step.pairs with
      ⟨r', hr', h'⟩ | ⟨done, t, p, undone, owner, hs, hd, hm, hr'⟩
    · rw [← registered_snoc] at h'
      have hbuild : build (earlier ++ [step]) = .ok r' := by
        rw [build_snoc hearlier, extend_eq, hr']
      have hrest := ih hbuild h'
      rw [List.append_assoc, List.singleton_append] at hrest
      rw [hr']
      exact hrest
    · refine .inr ⟨t, owner, .taken hearlier hs hd hm ?_, ?_⟩
      · rw [extend_eq, hr']
      · rw [hr']
        rfl

theorem Conflict.not_distinct (h : Conflict steps eventType owner) :
    ¬ Distinct (registered steps) := by
  intro hd
  cases h with
  | @taken earlier later step done undone _ projector _ _ _ declares _ owned _ =>
    have hpairs : registered (earlier ++ step :: later) =
        ((registered earlier ++ done) ++ [(eventType, projector)]) ++
          (undone ++ registered later) := by
      simp [registered, declares]
    rw [hpairs] at hd
    exact (distinct_snoc.1 hd.left).2 (List.mem_map_of_mem owned)

theorem eventTypes_ordered (r : Registry) :
    r.eventTypes.Pairwise fun s t => Text.bytes s.text < Text.bytes t.text :=
  List.pairwise_map.2 (r.projectors.sorted.imp EventType.compare_eq_lt.1)

theorem nodup_eventTypes (r : Registry) : r.eventTypes.Nodup := by
  refine r.eventTypes_ordered.imp fun hlt heq => ?_
  subst heq
  exact List.lt_irrefl _ hlt

theorem mem_eventTypes : eventType ∈ r.eventTypes ↔ ∃ projector,
    r.find? eventType = some projector := by
  simp [eventTypes, find?, Table.get?_eq_some_iff]

theorem Holds.mem_eventTypes (h : r.Holds pairs) :
    eventType ∈ r.eventTypes ↔ eventType ∈ pairs.map (·.1) := by
  simp [Registry.mem_eventTypes, h.find]

theorem Holds.listed (h : r.Holds pairs) : r.eventTypes.Perm (pairs.map (·.1)) :=
  (List.perm_ext_iff_of_nodup r.nodup_eventTypes h.distinct).2 fun _ => h.mem_eventTypes

theorem resolve_eq_ok : r.resolve eventType = .ok projector ↔
    r.find? eventType = some projector := by
  unfold resolve
  cases r.find? eventType <;> simp

theorem Holds.answers (h : r.Holds pairs) : r.Answers pairs where
  resolve t p := resolve_eq_ok.trans (h.find t p)
  unknown t habsent := by rw [Registry.resolve, h.find?_eq_none habsent]
  contains t := by
    rw [Registry.contains, Option.isSome_iff_exists, ← Registry.mem_eventTypes, h.mem_eventTypes]
  listed := h.listed
  ordered := r.eventTypes_ordered
  size := by
    have hlength := h.listed.length_eq
    rwa [eventTypes, List.length_map, List.length_map] at hlength

/-- Where every type is registered once, steps of whatever kind and number make a registry that
resolves each type to the projector that it was registered for, and no other type. Otherwise the
steps fail at the first type that is taken already, in the order of registration, and the failure
tells that type and the name of its owner. -/
theorem registry_of_registrations (steps : List Registration) :
    (Distinct (registered steps) →
      ∃ r, build steps = .ok r ∧ r.Answers (registered steps)) ∧
    (¬ Distinct (registered steps) →
      ∃ eventType owner, Conflict steps eventType owner ∧
        build steps = .error (.duplicateProjector eventType owner.name)) := by
  have hempty : build [] = .ok .empty := rfl
  rcases Holds.extendAll hempty holds_empty steps with
    ⟨r, hr, h⟩ | ⟨eventType, owner, hconflict, herror⟩
  · exact ⟨fun _ => ⟨r, hr, h.answers⟩, fun hno => absurd h.distinct hno⟩
  · exact ⟨fun hd => absurd hd hconflict.not_distinct,
      fun _ => ⟨eventType, owner, hconflict, herror⟩⟩

end Registry

end AgentFacts
