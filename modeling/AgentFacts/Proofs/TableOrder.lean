import AgentFacts.Proofs.Influence

namespace AgentFacts

namespace Projector

/-- The projectors whose rows belong to agents. -/
def byAgent : List Projector := [hosts, sapInstances, slesSubscriptions]

/-- The projectors whose rows any agent may report on. -/
def shared : List Projector := [clusters, checksResults]

theorem mem_all_iff {p : Projector} : p ∈ all ↔ p ∈ byAgent ∨ p ∈ shared := by
  simp only [all, byAgent, shared, List.mem_cons, List.not_mem_nil, or_false]
  tauto

end Projector

/-- Two orders of the same envelopes. Those of one agent for a table of rows by agent are in the
same order, and so are all of those for a table that agents share. -/
structure SameTableOrder (es es' : List Envelope) : Prop where
  perm : es.Perm es'
  own : ∀ p ∈ Projector.byAgent, ∀ source,
    es.filter (fun e => p.handles e.key && e.source = source) =
      es'.filter fun e => p.handles e.key && e.source = source
  shared : ∀ p ∈ Projector.shared,
    es.filter (fun e => p.handles e.key) = es'.filter fun e => p.handles e.key

def LedgerKey.refused (key : LedgerKey) :
    Option (LedgerKey × Option EnvelopeId × Outcome) → LedgerKey × Option EnvelopeId × Outcome
  | none => (key, none, .failure Executor.unknownReason)
  | some (pair, last, _) => (pair, last, .failure Executor.unknownReason)

theorem LedgerKey.refused_refused (key : LedgerKey)
    (row : Option (LedgerKey × Option EnvelopeId × Outcome)) :
    key.refused (some (key.refused row)) = key.refused row := by
  cases row <;> rfl

theorem Projector.exists_handles {key : LedgerKey} (h : key.eventType ∈ EventType.known) :
    ∃ p ∈ Projector.all, p.handles key = true := by
  obtain ⟨r, hr⟩ := Registry.exists_standard
  obtain ⟨p, hp⟩ := Option.isSome_iff_exists.1 ((Registry.isSome_find?_standard hr _).2 h)
  obtain ⟨hall, ht⟩ := Registry.handler_standard hr hp
  exact ⟨p, hall, List.contains_iff_mem.2 ht⟩

section Unknown

variable {e : Envelope} {es : List Envelope} {o : DispatchOutcome} {os : List DispatchOutcome}
  {m m' n : ReadModels} {key : LedgerKey}

theorem Handled.untimed_of_unknown (h : Handled e m o m') (hk : e.eventType ∉ EventType.known) :
    (m'.ledger.get? e.key).map (·.untimed) =
      some (e.key.refused ((m.ledger.get? e.key).map (·.untimed))) := by
  cases h with
  | applied _ hw => exact absurd (Envelope.known_of_change hw) hk
  | skipped hknown _ => exact absurd hknown hk
  | failed hknown _ _ => exact absurd hknown hk
  | @unknown time _ =>
    have hrow := ReadModels.ledger_record_self m
      (.ofEnvelope e (.failure Executor.unknownReason) time)
    rw [OutcomeRecord.key_ofEnvelope] at hrow
    rw [hrow]
    unfold ReadModels.rowAfter
    rw [OutcomeRecord.key_ofEnvelope]
    cases m.ledger.get? e.key <;> rfl

theorem Handles.untimed_of_unknown (h : Handles es os m n)
    (hk : key.eventType ∉ EventType.known) :
    (n.ledger.get? key).map (·.untimed) =
      if es.any (·.key = key) then some (key.refused ((m.ledger.get? key).map (·.untimed)))
      else (m.ledger.get? key).map (·.untimed) := by
  induction h with
  | nil => rfl
  | @cons e es o os m m' n first rest ih =>
    rw [ih]
    by_cases hkey : e.key = key
    · subst hkey
      rw [first.untimed_of_unknown hk, LedgerKey.refused_refused]
      simp
    · rw [first.ledger_ne hkey]
      simp [hkey]

end Unknown

namespace SameTableOrder

variable {es es' : List Envelope}

theorem ofSource (h : SameTableOrder es es') {p : Projector} (hp : p ∈ Projector.all)
    (source : AgentId) :
    es.filter (fun e => p.handles e.key && e.source = source) =
      es'.filter fun e => p.handles e.key && e.source = source := by
  rcases Projector.mem_all_iff.1 hp with hown | hshared
  · exact h.own p hown source
  · have hf := congrArg (List.filter (·.source = source)) (h.shared p hshared)
    simpa only [List.filter_filter, Bool.and_comm] using hf

end SameTableOrder

namespace Handles

variable {es es' : List Envelope} {os os' : List DispatchOutcome} {m n n' : ReadModels}

/-- The row at a place that one agent's envelopes alone can change. -/
theorem sameAt_own (h : Handles es os m n) (h' : Handles es' os' m n')
    (ho : SameTableOrder es es') {p : Projector}
    (hp : p ∈ Projector.byAgent) {q : Place} {agent : AgentId}
    (ha : q.agent? = some agent) (hq : q.table = p.name) : ReadModels.SameAt n n' q := by
  have honly := Place.onlyBy_projector (Projector.mem_all_iff.2 (.inl hp)) hq
  exact (h.agreeOn h' (ho.own p hp agent) (.refl _ m)).entities q
    (honly.and (Place.onlyBy_source ha))

/-- The row at a place of a table that agents share. -/
theorem sameAt_shared (h : Handles es os m n) (h' : Handles es' os' m n')
    (ho : SameTableOrder es es') {p : Projector} (hp : p ∈ Projector.shared)
    {q : Place} (hq : q.table = p.name) : ReadModels.SameAt n n' q := by
  have honly := Place.onlyBy_projector (Projector.mem_all_iff.2 (.inr hp)) hq
  exact (h.agreeOn h' (ho.shared p hp) (.refl _ m)).entities q honly

theorem sameEntities_of_order (h : Handles es os m n) (h' : Handles es' os' m n')
    (ho : SameTableOrder es es') : ReadModels.SameEntities n n' where
  hosts := Table.ext_get? fun agent =>
    h.sameAt_own h' ho (p := .hosts) (q := .host agent) (by simp [Projector.byAgent]) rfl rfl
  clusters := Table.ext_get? fun id =>
    h.sameAt_shared h' ho (p := .clusters) (q := .cluster id) (by simp [Projector.shared]) rfl
  sapInstances := Table.ext_get? fun agent =>
    h.sameAt_own h' ho (p := .sapInstances) (q := .sapInstances agent) (by simp [Projector.byAgent]) rfl rfl
  slesSubscriptions := Table.ext_get? fun agent =>
    h.sameAt_own h' ho (p := .slesSubscriptions) (q := .slesSubscriptions agent) (by simp [Projector.byAgent]) rfl rfl
  checksResults := Table.ext_get? fun group =>
    h.sameAt_shared h' ho (p := .checksResults) (q := .checksResult group) (by simp [Projector.shared]) rfl

/-- The rows of the known types are in the order of their tables; those of other types do not tell
how many envelopes there were. -/
theorem sameRow_of_order (h : Handles es os m n) (h' : Handles es' os' m n')
    (ho : SameTableOrder es es') (key : LedgerKey) : ReadModels.SameRow n n' key := by
  by_cases hk : key.eventType ∈ EventType.known
  · obtain ⟨p, hp, hhandles⟩ := Projector.exists_handles hk
    have hagree : ReadModels.AgreeOn (fun k => p.handles k && k.source = key.source) n n' :=
      h.agreeOn h' (ho.ofSource hp key.source) (.refl _ m)
    exact hagree.ledger key (Bool.and_eq_true_iff.2 ⟨hhandles, decide_eq_true rfl⟩)
  · unfold ReadModels.SameRow
    rw [h.untimed_of_unknown hk, h'.untimed_of_unknown hk, ho.perm.any_eq]

end Handles

/-- Envelopes that are dispatched in two orders, with the same order for each table, leave the same
entities and the same ledger but for its times. -/
theorem dispatchAll_reordered (x : Executor) (hx : Registry.standard = .ok x.registry) (w : World)
    (hw : w.Quiet) (task : TaskId) (es es' : List Envelope) (ho : SameTableOrder es es') :
    ∃ (os os' : List DispatchOutcome) (w' w'' : World),
      w.dispatchAll task x es = some (os.map .ok, w') ∧
        w.dispatchAll task x es' = some (os'.map .ok, w'') ∧
        ReadModels.SameEntities w'.models.committed w''.models.committed ∧
        ∀ key, ReadModels.SameRow w'.models.committed w''.models.committed key := by
  obtain ⟨os, w', hall, -, hh⟩ := hw.dispatchAll hx task es
  obtain ⟨os', w'', hall', -, hh'⟩ := hw.dispatchAll hx task es'
  exact ⟨os, os', w', w'', hall, hall', hh.sameEntities_of_order hh' ho,
    hh.sameRow_of_order hh' ho⟩

/-- The envelopes on a host come before those for all other tables, or after them; a cluster that
two agents report is reported in the same order. -/
theorem dispatchAll_reordered_hosts :
    let envelope (id : Int) (source : String) (eventType : EventType) (payload : Json) : Envelope :=
      ⟨⟨id⟩, ⟨source⟩, eventType, payload, ⟨id, 0⟩⟩
    let hosts := [envelope 1 "n1" .hostDiscovered (.ofMembers [("hostname", .text "first")]),
      envelope 4 "n1" .hostHeartbeat (.ofMembers [])]
    let others := [envelope 2 "n1" ⟨"kernel.upgraded"⟩ .null,
      envelope 5 "n2" .clusterDiscovered (.ofMembers [("id", .text "hana")]),
      envelope 3 "n1" .clusterDiscovered (.ofMembers [("id", .text "hana")]),
      envelope 6 "n1" .sapSystemDiscovered .null]
    let w : World := .new ⟨0, 0⟩ 1 .none
    ∃ r, Registry.standard = .ok r ∧ ∃ (os os' : List DispatchOutcome) (w' w'' : World),
      w.dispatchAll (.worker 0) ⟨r, .standard⟩ (hosts ++ others) = some (os.map .ok, w') ∧
        w.dispatchAll (.worker 0) ⟨r, .standard⟩ (others ++ hosts) = some (os'.map .ok, w'') ∧
        (w'.models.committed.clusters.get? "hana").map (·.reportedBy) = some ⟨"n1"⟩ ∧
        ReadModels.SameEntities w'.models.committed w''.models.committed ∧
        ∀ key, ReadModels.SameRow w'.models.committed w''.models.committed key := by
  intro envelope hosts others w
  obtain ⟨r, hr, hrow⟩ : ∃ r, Registry.standard = .ok r ∧
      (w.dispatchAll (.worker 0) ⟨r, .standard⟩ (hosts ++ others)).map (fun result =>
        (result.2.models.committed.clusters.get? "hana").map (·.reportedBy)) =
          some (some ⟨"n1"⟩) :=
    ⟨_, rfl, by decide +kernel⟩
  have ho : SameTableOrder (hosts ++ others) (others ++ hosts) := by
    refine ⟨List.perm_append_comm, fun p hp source => ?_, fun p hp => ?_⟩
    · simp only [Projector.byAgent, List.mem_cons, List.not_mem_nil, or_false] at hp
      rcases hp with rfl | rfl | rfl <;> rfl
    · simp only [Projector.shared, List.mem_cons, List.not_mem_nil, or_false] at hp
      rcases hp with rfl | rfl <;> rfl
  obtain ⟨os, os', w', w'', hall, hall', hsame⟩ :=
    dispatchAll_reordered ⟨r, .standard⟩ hr w ⟨rfl, rfl, rfl⟩ (.worker 0) _ _ ho
  rw [hall] at hrow
  exact ⟨r, hr, os, os', w', w'', hall, hall', Option.some.inj hrow, hsame⟩

end AgentFacts
