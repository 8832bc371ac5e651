import AgentFacts.Proofs.ReplayAgain

namespace AgentFacts

/-- Two states of the read models have the same row at a place. -/
def ReadModels.SameAt (m n : ReadModels) : Place → Prop
  | .host agent => n.hosts.get? agent = m.hosts.get? agent
  | .cluster id => n.clusters.get? id = m.clusters.get? id
  | .sapInstances agent => n.sapInstances.get? agent = m.sapInstances.get? agent
  | .slesSubscriptions agent => n.slesSubscriptions.get? agent = m.slesSubscriptions.get? agent
  | .checksResult group => n.checksResults.get? group = m.checksResults.get? group

/-- Two states of the read models have the same ledger row for a pair, but for the time of the last
outcome. -/
def ReadModels.SameRow (m n : ReadModels) (key : LedgerKey) : Prop :=
  (n.ledger.get? key).map (·.untimed) = (m.ledger.get? key).map (·.untimed)

/-- No envelopes but those of some pairs ask for a change at a place. -/
def Place.OnlyBy (pairs : LedgerKey → Bool) (q : Place) : Prop :=
  ∀ e w, Envelope.change e = .ok w → w.place = q → pairs e.key = true

/-- Two states of the read models agree on some pairs: on their ledger rows, and on all that only
their envelopes can change. -/
structure ReadModels.AgreeOn (pairs : LedgerKey → Bool) (m n : ReadModels) : Prop where
  entities : ∀ q, Place.OnlyBy pairs q → SameAt m n q
  ledger : ∀ key, pairs key = true → SameRow m n key

/-- The agent whose envelopes alone can change the row at a place. -/
def Place.agent? : Place → Option AgentId
  | .host agent => some agent
  | .cluster _ => none
  | .sapInstances agent => some agent
  | .slesSubscriptions agent => some agent
  | .checksResult _ => none

def Projector.handles (p : Projector) (key : LedgerKey) : Bool :=
  p.eventTypes.contains key.eventType

/-- Each projector has a table of its own, and declares the types of all changes to it. -/
theorem Projector.eventType_of_table {p : Projector} (hp : p ∈ all) {w : Write}
    (h : w.place.table = p.name) : w.eventType ∈ p.eventTypes := by
  simp only [all, List.mem_cons, List.not_mem_nil, or_false] at hp
  rcases hp with rfl | rfl | rfl | rfl | rfl <;> cases w <;>
    simp_all [Write.place, Place.table, Write.eventType, ofChange, hosts, clusters, sapInstances,
      slesSubscriptions, checksResults]

namespace Place

variable {q : Place} {pairs others : LedgerKey → Bool}

theorem onlyBy_source {agent : AgentId} (h : q.agent? = some agent) :
    OnlyBy (fun key => key.source = agent) q := by
  rintro e w hw rfl
  suffices hs : e.source = agent from decide_eq_true hs
  cases w with
  | upsertHost host => exact (Envelope.agent_of_upsertHost hw).symm.trans (Option.some.inj h)
  | deleteHost owner => exact (Envelope.agent_of_deleteHost hw).symm.trans (Option.some.inj h)
  | recordHeartbeat owner time =>
    exact (Envelope.eq_of_recordHeartbeat hw).1.symm.trans (Option.some.inj h)
  | replaceSapInstances owner items =>
    obtain rfl := Option.some.inj h
    exact congrArg LedgerKey.source
      (Envelope.key_of_place_sapInstances (Envelope.place_of_change hw))
  | replaceSlesSubscriptions owner items =>
    obtain rfl := Option.some.inj h
    exact congrArg LedgerKey.source
      (Envelope.key_of_place_slesSubscriptions (Envelope.place_of_change hw))
  | upsertCluster cluster => cases h
  | upsertChecksResult result => cases h

theorem onlyBy_projector {p : Projector} (hp : p ∈ Projector.all) (h : q.table = p.name) :
    OnlyBy p.handles q := by
  rintro e w hw rfl
  refine List.contains_iff_mem.2 (?_ : e.eventType ∈ p.eventTypes)
  rw [Envelope.eventType_of_change hw]
  exact Projector.eventType_of_table hp h

theorem OnlyBy.and (h : OnlyBy pairs q) (h' : OnlyBy others q) :
    OnlyBy (fun key => pairs key && others key) q :=
  fun e w hw hq => Bool.and_eq_true_iff.2 ⟨h e w hw hq, h' e w hw hq⟩

end Place

theorem Subscription.Alike.apply {row row' : Subscription} (h : row.Alike row') (e : Envelope)
    (outcome : Outcome) (time time' : Instant) :
    (row.apply (.ofEnvelope e outcome time)).Alike (row'.apply (.ofEnvelope e outcome time')) where
  source := h.source
  eventType := h.eventType
  lastEnvelope := by
    unfold Subscription.apply
    rw [h.lastEnvelope]
    rfl

namespace ReadModels

variable {pairs : LedgerKey → Bool} {m m' n n' : ReadModels} {q : Place} {key : LedgerKey}
  {e : Envelope}

theorem SameAt.refl (m : ReadModels) (q : Place) : SameAt m m q := by
  cases q <;> rfl

theorem SameAt.symm (h : SameAt m n q) : SameAt n m q := by
  cases q <;> exact Eq.symm h

theorem SameAt.trans (h : SameAt m m' q) (h' : SameAt m' n q) : SameAt m n q := by
  cases q <;> exact Eq.trans h' h

theorem sameAt_record (m : ReadModels) (r : OutcomeRecord) (q : Place) :
    SameAt m (m.record r) q := by
  cases q <;> rfl

/-- A change leaves all other places alone. -/
theorem sameAt_write_ne {w : Write} (h : w.place ≠ q) : SameAt m (m.write w) q := by
  have hoff := agreeOff_write m w
  cases q with
  | host agent => exact hoff.hosts agent h
  | cluster id => exact hoff.clusters id h
  | sapInstances agent => exact hoff.sapInstances agent h
  | slesSubscriptions agent => exact hoff.slesSubscriptions agent h
  | checksResult group => exact hoff.checksResults group h

theorem get?_replaceSet_congr (t u : Table AgentId (List α)) (agent : AgentId) (items : List α) :
    (replaceSet t agent items).get? agent = (replaceSet u agent items).get? agent := by
  unfold replaceSet
  split
  · rw [Table.get?_erase_self, Table.get?_erase_self]
  · rw [Table.get?_insert_self, Table.get?_insert_self]

theorem SameAt.write (w : Write) (h : SameAt m n w.place) :
    SameAt (m.write w) (n.write w) w.place := by
  cases w with
  | upsertHost host =>
    have hrow : n.hosts.get? host.agent = m.hosts.get? host.agent := h
    change (n.upsertHost host).hosts.get? host.agent = (m.upsertHost host).hosts.get? host.agent
    unfold upsertHost
    rw [Table.get?_insert_self, Table.get?_insert_self, hrow]
  | deleteHost agent => exact (Table.get?_erase_self ..).trans (Table.get?_erase_self ..).symm
  | recordHeartbeat agent time =>
    have hrow : n.hosts.get? agent = m.hosts.get? agent := h
    change (n.recordHeartbeat agent time).hosts.get? agent =
      (m.recordHeartbeat agent time).hosts.get? agent
    unfold recordHeartbeat
    rw [hrow]
    cases hm : m.hosts.get? agent with
    | none => exact hrow
    | some host => exact (Table.get?_insert_self ..).trans (Table.get?_insert_self ..).symm
  | upsertCluster cluster =>
    exact (Table.get?_insert_self ..).trans (Table.get?_insert_self ..).symm
  | replaceSapInstances agent items => exact get?_replaceSet_congr ..
  | replaceSlesSubscriptions agent items => exact get?_replaceSet_congr ..
  | upsertChecksResult result =>
    exact (Table.get?_insert_self ..).trans (Table.get?_insert_self ..).symm

theorem SameRow.lastEnvelope? (h : SameRow m n key) :
    n.lastEnvelope? key = m.lastEnvelope? key := by
  have hnamed (t : ReadModels) :
      ((t.ledger.get? key).map (·.untimed)).bind (·.2.1) = t.lastEnvelope? key :=
    Option.bind_map ..
  rw [← hnamed n, ← hnamed m, h]

theorem SameRow.stale_iff (h : SameRow m n e.key) : n.Stale e ↔ m.Stale e :=
  stale_congr h.lastEnvelope?

/-- An outcome has the same effect on the ledger row of its pair, whenever it is noted. -/
theorem SameRow.record (h : SameRow m n e.key) (outcome : Outcome) (time time' : Instant) :
    SameRow (m.record (.ofEnvelope e outcome time)) (n.record (.ofEnvelope e outcome time'))
      e.key := by
  unfold SameRow at *
  have hm := ledger_record_self m (.ofEnvelope e outcome time)
  have hn := ledger_record_self n (.ofEnvelope e outcome time')
  rw [OutcomeRecord.key_ofEnvelope] at hm hn
  rw [hm, hn, Option.map_some, Option.map_some]
  refine congrArg some ?_
  unfold rowAfter
  rw [OutcomeRecord.key_ofEnvelope, OutcomeRecord.key_ofEnvelope]
  cases hrow : m.ledger.get? e.key with
  | none =>
    rw [hrow, Option.map_none, Option.map_eq_none_iff] at h
    rw [h]
    rfl
  | some row =>
    rw [hrow, Option.map_some] at h
    obtain ⟨row', hrow', hsame⟩ := Option.map_eq_some_iff.1 h
    have halike : row.Alike row' :=
      ⟨congrArg (·.1.source) hsame, congrArg (·.1.eventType) hsame, congrArg (·.2.1) hsame⟩
    rw [hrow']
    exact (halike.apply e outcome time time').untimed_eq rfl

theorem AgreeOn.refl (pairs : LedgerKey → Bool) (m : ReadModels) : AgreeOn pairs m m :=
  ⟨fun q _ => .refl m q, fun _ _ => rfl⟩

theorem AgreeOn.symm (h : AgreeOn pairs m n) : AgreeOn pairs n m :=
  ⟨fun q hq => (h.entities q hq).symm, fun key hk => (h.ledger key hk).symm⟩

theorem AgreeOn.trans (h : AgreeOn pairs m m') (h' : AgreeOn pairs m' n) : AgreeOn pairs m n :=
  ⟨fun q hq => (h.entities q hq).trans (h'.entities q hq),
    fun key hk => (h'.ledger key hk).trans (h.ledger key hk)⟩

theorem AgreeOn.project (h : AgreeOn pairs m n) (e : Envelope) :
    AgreeOn pairs (m.project e) (n.project e) := by
  unfold ReadModels.project
  cases he : e.change with
  | error error => exact h
  | ok w =>
    refine ⟨fun q hq => ?_, fun key hk => ?_⟩
    · by_cases hw : w.place = q
      · subst hw
        exact (h.entities w.place hq).write w
      · exact (sameAt_write_ne hw).symm.trans ((h.entities q hq).trans (sameAt_write_ne hw))
    · unfold SameRow
      rw [ledger_write, ledger_write]
      exact h.ledger key hk

theorem AgreeOn.record (h : AgreeOn pairs m n) (e : Envelope) (outcome : Outcome)
    (time time' : Instant) :
    AgreeOn pairs (m.record (.ofEnvelope e outcome time)) (n.record (.ofEnvelope e outcome time')) := by
  refine ⟨fun q hq => ?_, fun key hk => ?_⟩
  · exact (sameAt_record ..).symm.trans ((h.entities q hq).trans (sameAt_record ..))
  · by_cases hkey : key = e.key
    · subst hkey
      exact (h.ledger e.key hk).record outcome time time'
    · unfold SameRow
      rw [ledger_record_ne (r := .ofEnvelope e outcome time) hkey,
        ledger_record_ne (r := .ofEnvelope e outcome time') hkey]
      exact h.ledger key hk

end ReadModels

namespace Handled

variable {pairs : LedgerKey → Bool} {m m' n n' : ReadModels} {e : Envelope}
  {o o' : DispatchOutcome}

theorem agreeOn_of_other (h : Handled e m o m') (hp : pairs e.key = false) :
    ReadModels.AgreeOn pairs m m' := by
  refine ⟨fun q hq => ?_, fun key hk => ?_⟩
  · rcases h.skipped_or_recorded with ⟨-, -, rfl⟩ | ⟨-, -, time, rfl⟩
    · exact .refl _ q
    · refine .trans ?_ (ReadModels.sameAt_record ..)
      unfold ReadModels.project
      cases he : e.change with
      | error error => exact .refl m q
      | ok w =>
        refine ReadModels.sameAt_write_ne fun hw => ?_
        rw [hq e w he hw] at hp
        cases hp
  · have hne : e.key ≠ key := fun heq => by
      rw [heq, hk] at hp
      cases hp
    unfold ReadModels.SameRow
    rw [h.ledger_ne hne]

/-- An envelope of the pairs makes the same of states that agree on them. -/
theorem agreeOn (h : Handled e m o m') (h' : Handled e n o' n') (hp : pairs e.key = true)
    (ha : ReadModels.AgreeOn pairs m n) : ReadModels.AgreeOn pairs m' n' := by
  have hstale : n.Stale e ↔ m.Stale e := (ha.ledger e.key hp).stale_iff
  by_cases hskip : e.eventType ∈ EventType.known ∧ m.Stale e
  · rw [h.eq_of_stale hskip.1 hskip.2, h'.eq_of_stale hskip.1 (hstale.2 hskip.2)]
    exact ha
  · obtain ⟨-, -, time, rfl⟩ := h.skipped_or_recorded.resolve_left fun hs => hskip ⟨hs.1, hs.2.1⟩
    obtain ⟨-, -, time', rfl⟩ := h'.skipped_or_recorded.resolve_left fun hs =>
      hskip ⟨hs.1, hstale.1 hs.2.1⟩
    exact (ha.project e).record e e.outcome time time'

end Handled

namespace Handles

variable {pairs : LedgerKey → Bool} {m m' n n' : ReadModels} {es es' : List Envelope}
  {os os' : List DispatchOutcome}

theorem agreeOn_of_others (h : Handles es os m n) (hp : ∀ e ∈ es, pairs e.key = false) :
    ReadModels.AgreeOn pairs m n := by
  induction h with
  | nil => exact .refl pairs _
  | @cons e es o os m m' n first rest ih =>
    exact (first.agreeOn_of_other (hp e List.mem_cons_self)).trans
      (ih fun e' he' => hp e' (List.mem_cons_of_mem e he'))

/-- Lists with the same envelopes of the pairs, in the same order, make the same of states that
agree on them, whatever else is in the lists. -/
theorem agreeOn (h : Handles es os m m') (h' : Handles es' os' n n')
    (hf : es.filter (pairs ·.key) = es'.filter (pairs ·.key)) (ha : ReadModels.AgreeOn pairs m n) :
    ReadModels.AgreeOn pairs m' n' := by
  induction h generalizing es' os' n with
  | nil =>
    refine ha.trans (h'.agreeOn_of_others fun e he => ?_)
    exact Bool.eq_false_iff.2 (List.filter_eq_nil_iff.1 hf.symm e he)
  | @cons e es o os m m₁ m' first rest ih =>
    by_cases hp : pairs e.key = true
    · -- The other list comes to this envelope when it has done with some that do not matter.
      rw [List.filter_cons, if_pos hp] at hf
      obtain ⟨others, more, rfl, hothers, -, hf⟩ := List.filter_eq_cons_iff.1 hf.symm
      obtain ⟨_, _, n₁, rfl, hbefore, hafter⟩ := h'.append_inv
      have ha₁ := ha.trans (hbefore.agreeOn_of_others fun e he =>
        Bool.eq_false_iff.2 (hothers e he))
      cases hafter with
      | cons first' rest' => exact ih rest' hf.symm (first.agreeOn first' hp ha₁)
    · rw [List.filter_cons, if_neg hp] at hf
      exact ih h' hf ((first.agreeOn_of_other (Bool.eq_false_iff.2 hp)).symm.trans ha)

end Handles

/-- Two states of the read models have the same rows of an agent, but for the times in the
ledger. -/
structure ReadModels.SameOf (agent : AgentId) (m n : ReadModels) : Prop where
  host : n.hosts.get? agent = m.hosts.get? agent
  sapInstances : n.sapInstances.get? agent = m.sapInstances.get? agent
  slesSubscriptions : n.slesSubscriptions.get? agent = m.slesSubscriptions.get? agent
  ledger : ∀ eventType, SameRow m n ⟨agent, eventType⟩

theorem ReadModels.AgreeOn.sameOf {agent : AgentId} {m n : ReadModels}
    (h : AgreeOn (fun key => key.source = agent) m n) : SameOf agent m n where
  host := h.entities (.host agent) (Place.onlyBy_source rfl)
  sapInstances := h.entities (.sapInstances agent) (Place.onlyBy_source rfl)
  slesSubscriptions := h.entities (.slesSubscriptions agent) (Place.onlyBy_source rfl)
  ledger eventType := h.ledger ⟨agent, eventType⟩ (decide_eq_true rfl)

/-- The rows of an agent are the same when all envelopes of a list are dispatched as when only its
own are, whatever the others hold. -/
theorem dispatchAll_of_source (x : Executor) (hx : Registry.standard = .ok x.registry) (w : World)
    (hw : w.Quiet) (task : TaskId) (es : List Envelope) (agent : AgentId) :
    ∃ (os os' : List DispatchOutcome) (w' w'' : World),
      w.dispatchAll task x es = some (os.map .ok, w') ∧
        w.dispatchAll task x (es.filter (·.source = agent)) = some (os'.map .ok, w'') ∧
        ReadModels.SameOf agent w'.models.committed w''.models.committed := by
  obtain ⟨os, w', hall, -, hh⟩ := hw.dispatchAll hx task es
  obtain ⟨os', w'', hown, -, hh'⟩ := hw.dispatchAll hx task (es.filter (·.source = agent))
  have hf : es.filter (·.source = agent) =
      (es.filter (·.source = agent)).filter (·.source = agent) := by simp
  exact ⟨os, os', w', w'', hall, hown, (hh.agreeOn hh' hf (.refl _ _)).sameOf⟩

/-- An agent reports its host, and is named in all that another agent reports. -/
theorem dispatchAll_of_source_named :
    let host : Envelope := ⟨⟨1⟩, ⟨"n1"⟩, .hostDiscovered,
      .ofMembers [("hostname", .text "first")], ⟨0, 0⟩⟩
    let other (id : Int) (eventType : EventType) : Envelope := ⟨⟨id⟩, ⟨"n2"⟩, eventType, .ofMembers
      [("agent_id", .text "n1"), ("hostname", .text "second"), ("instances", .list [])], ⟨0, 0⟩⟩
    let es := [other 4 .hostDiscovered, host, other 5 .sapSystemDiscovered,
      other 6 .hostDeregistered, other 7 .hostDiscovered]
    let w : World := .new ⟨0, 0⟩ 1 .none
    ∃ r, Registry.standard = .ok r ∧ ∃ (os os' : List DispatchOutcome) (w' w'' : World),
      w.dispatchAll (.worker 0) ⟨r, .standard⟩ es = some (os.map .ok, w') ∧
        w.dispatchAll (.worker 0) ⟨r, .standard⟩ [host] = some (os'.map .ok, w'') ∧
        (w'.models.committed.hosts.get? ⟨"n1"⟩).map (·.hostname) = some "first" ∧
        ReadModels.SameOf ⟨"n1"⟩ w'.models.committed w''.models.committed := by
  intro host other es w
  obtain ⟨r, hr, hrow⟩ : ∃ r, Registry.standard = .ok r ∧
      (w.dispatchAll (.worker 0) ⟨r, .standard⟩ es).map (fun result =>
        (result.2.models.committed.hosts.get? ⟨"n1"⟩).map (·.hostname)) = some (some "first") :=
    ⟨_, rfl, by decide +kernel⟩
  obtain ⟨os, os', w', w'', hall, hown, hsame⟩ :=
    dispatchAll_of_source ⟨r, .standard⟩ hr w ⟨rfl, rfl, rfl⟩ (.worker 0) es ⟨"n1"⟩
  rw [hall] at hrow
  exact ⟨r, hr, os, os', w', w'', hall, hown, Option.some.inj hrow, hsame⟩

end AgentFacts
