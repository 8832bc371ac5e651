import AgentFacts.Proofs.Faithful
import AgentFacts.Proofs.HostLifetimes

namespace AgentFacts

namespace ReadModels

variable {m : ReadModels} {e : Envelope} {time : Instant}

theorem pair_rowAfter {r : OutcomeRecord}
    (h : ∀ row, m.ledger.get? r.key = some row → row.source = r.source ∧
      row.eventType = r.eventType) :
    (m.rowAfter r).source = r.source ∧ (m.rowAfter r).eventType = r.eventType := by
  unfold rowAfter
  cases hrow : m.ledger.get? r.key with
  | none => exact ⟨rfl, rfl⟩
  | some row => exact h row hrow

end ReadModels

/-- The ledger row of a pair: it has the outcome of the pair's last envelope, and names the last
valid one. -/
structure ShowsLedger (key : LedgerKey) (es : List Envelope) (m : ReadModels) : Prop where
  absent_iff : m.ledger.get? key = none ↔ es.filter (·.key = key) = []
  row : ∀ row, m.ledger.get? key = some row → row.source = key.source ∧
    row.eventType = key.eventType ∧
    (es.filter (·.key = key)).getLast?.map (·.outcome) = some row.outcome
  lastEnvelope : m.lastEnvelope? key =
    (es.filter (·.isValidOf key.source key.eventType)).getLast?.map (·.id)

namespace ShowsLedger

variable {key : LedgerKey} {es : List Envelope} {m : ReadModels} {e : Envelope}

theorem empty (key : LedgerKey) : ShowsLedger key [] .empty where
  absent_iff := ⟨fun _ => rfl, fun _ => rfl⟩
  row _ h := by cases h
  lastEnvelope := rfl

theorem isValidOf_key (e : Envelope) (key : LedgerKey) :
    e.isValidOf key.source key.eventType = decide (e.key = key ∧ e.isValid = true) := by
  unfold Envelope.isValidOf Envelope.key
  rw [decide_eq_decide]
  obtain ⟨source, eventType⟩ := key
  simp [and_assoc]

theorem not_stale (h : ShowsLedger e.key es m) (hnew : ∀ e' ∈ es, e'.id < e.id) : ¬ m.Stale e := by
  intro hst
  obtain ⟨last, hl, hle⟩ := hst
  rw [h.lastEnvelope] at hl
  obtain ⟨e', he', rfl⟩ := Option.map_eq_some_iff.1 hl
  have hm := List.mem_of_mem_filter (List.mem_of_getLast? he')
  exact EnvelopeId.not_le.2 (hnew e' hm) hle

theorem other (h : ShowsLedger key es m) (hk : e.key ≠ key) (time : Instant) :
    ShowsLedger key (es ++ [e]) ((m.project e).record (.ofEnvelope e e.outcome time)) := by
  have hrow : ((m.project e).record (.ofEnvelope e e.outcome time)).ledger.get? key =
      m.ledger.get? key := by
    have hk' : key ≠ (OutcomeRecord.ofEnvelope e e.outcome time).key := Ne.symm hk
    rw [ReadModels.ledger_record_ne hk', ReadModels.ledger_project]
  have hpair : (es ++ [e]).filter (·.key = key) = es.filter (·.key = key) := by simp [hk]
  have hvalid : (es ++ [e]).filter (·.isValidOf key.source key.eventType) =
      es.filter (·.isValidOf key.source key.eventType) := by simp [isValidOf_key, hk]
  refine ⟨?_, fun row hr => ?_, ?_⟩
  · rw [hrow, hpair]
    exact h.absent_iff
  · rw [hpair]
    exact h.row row (hrow ▸ hr)
  · rw [hvalid, ← h.lastEnvelope]
    unfold ReadModels.lastEnvelope?
    rw [hrow]

/-- The row of a pair after one more of its envelopes, which is not stale. -/
theorem self (h : ShowsLedger e.key es m) (hdue : ¬ m.Stale e) (time : Instant) :
    ShowsLedger e.key (es ++ [e]) ((m.project e).record (.ofEnvelope e e.outcome time)) := by
  have hrow := ReadModels.ledger_record_self (m.project e) (.ofEnvelope e e.outcome time)
  rw [OutcomeRecord.key_ofEnvelope] at hrow
  refine ⟨?_, fun row hr => ?_, ?_⟩
  · simp [hrow]
  · obtain rfl := Option.some.inj (hrow.symm.trans hr)
    obtain ⟨hsource, htype⟩ := ReadModels.pair_rowAfter (m := m.project e)
      (r := .ofEnvelope e e.outcome time) fun row hold => by
        rw [ReadModels.ledger_project] at hold
        exact ⟨(h.row row hold).1, (h.row row hold).2.1⟩
    refine ⟨hsource, htype, ?_⟩
    rw [ReadModels.outcome_rowAfter]
    simp [OutcomeRecord.ofEnvelope]
  · cases hv : e.isValid with
    | true =>
      rw [Envelope.outcome_of_isValid hv,
        ReadModels.lastEnvelope?_record_success (mt ReadModels.stale_project.1 hdue)]
      simp [isValidOf_key, hv]
    | false =>
      rw [ReadModels.lastEnvelope?_record_failure (Envelope.outcome_of_not_isValid hv),
        ReadModels.lastEnvelope?_project, h.lastEnvelope]
      simp [isValidOf_key, hv]

end ShowsLedger

/-- Every table shows what the envelopes of a list have made of it, one after the other. -/
structure Reflects (es : List Envelope) (m : ReadModels) : Prop where
  hosts : ∀ agent, ShowsHost agent es m
  tables : ∀ {κ β : Type} (T : ReportTable κ β), T.Shows es m
  ledger : ∀ key, ShowsLedger key es m

namespace Reflects

variable {es : List Envelope} {m m' : ReadModels} {e : Envelope} {o : DispatchOutcome}
  {os : List DispatchOutcome}

theorem empty : Reflects [] .empty where
  hosts := .empty
  tables T := T.shows_empty
  ledger := .empty

theorem snoc (h : Reflects es m) (hnew : ∀ e' ∈ es, e'.id < e.id) (hh : Handled e m o m') :
    o = e.dispatched ∧ Reflects (es ++ [e]) m' := by
  have hdue := (h.ledger e.key).not_stale hnew
  obtain ⟨ho, time, rfl⟩ := hh.eq_of_due hdue
  refine ⟨ho, fun agent => ((h.hosts agent).project e).record _,
    fun T => ((h.tables T).project e).record _, fun key => ?_⟩
  by_cases hk : e.key = key
  · subst hk
    exact (h.ledger e.key).self hdue time
  · exact (h.ledger key).other hk time

theorem of_handles (hasc : es.Pairwise (·.id < ·.id)) (h : Handles es os .empty m) :
    os = es.map Envelope.dispatched ∧ Reflects es m := by
  induction es using List.reverseRecOn generalizing os m with
  | nil =>
    cases h
    exact ⟨rfl, empty⟩
  | append_singleton es e ih =>
    obtain ⟨hasc', -, hlt⟩ := List.pairwise_append.1 hasc
    obtain ⟨first, rest, m', rfl, hfirst, hrest⟩ := h.append_inv
    obtain ⟨rfl, hr⟩ := ih hasc' hfirst
    cases hrest with
    | cons hlast hnil =>
      cases hnil
      obtain ⟨rfl, hr'⟩ := hr.snoc (fun e' he' => hlt e' he' e (List.mem_singleton.2 rfl)) hlast
      exact ⟨by simp, hr'⟩

end Reflects

/-- What a list of envelopes makes of the read models, told table by table.

A host has a row if its agent's last valid report on it comes after the last valid deregistration;
the row is what that report says, with the latest of the signs of life in the current lifetime. The
other entities are what the last valid reports on them say. The ledger has a row for each pair, with
the outcome of its last envelope and the id of its last valid one. -/
structure ReferenceModels (es : List Envelope) (m : ReadModels) : Prop where
  host_iff : ∀ agent, (m.hosts.get? agent).isSome = true ↔
    (es.filter fun e => e.discovers agent || e.deregisters agent).getLast?.any
      (·.discovers agent) = true
  host : ∀ agent host, m.hosts.get? agent = some host →
    (∃ e, (es.filter (·.discovers agent)).getLast? = some e ∧ host.ReportedIn e) ∧
      IsLatest (heartbeats agent (lifetime agent es)) host.lastHeartbeatAt
  cluster : ∀ id,
    match (ReportTable.clusters.reportsOn es id).getLast? with
    | none => m.clusters.get? id = none
    | some e => ∃ report cluster, e.payloadAs ClusterReport.decode = .ok report ∧
        Cluster.ofReport e.source report e.receivedAt = .ok cluster ∧ cluster.id = id ∧
        m.clusters.get? id = some cluster
  checks : ∀ group,
    match (ReportTable.checksResults.reportsOn es group).getLast? with
    | none => m.checksResults.get? group = none
    | some e => ∃ report result, e.payloadAs ChecksReport.decode = .ok report ∧
        ChecksResult.ofReport e.source report e.receivedAt = .ok result ∧ result.groupId = group ∧
        m.checksResults.get? group = some result
  sap : ∀ agent,
    match (es.filter (·.isValidOf agent .sapSystemDiscovered)).getLast? with
    | none => m.sapInstancesOf agent = []
    | some e => ∃ report, e.payloadAs SapSystemReport.decode = .ok report ∧
        SapSystemInstance.ofReport agent report e.receivedAt = .ok (m.sapInstancesOf agent)
  sles : ∀ agent,
    match (es.filter (·.isValidOf agent .subscriptionDiscovered)).getLast? with
    | none => m.slesSubscriptionsOf agent = []
    | some e => ∃ report, e.payloadAs SlesReport.decode = .ok report ∧
        SlesSubscription.ofReport agent report e.receivedAt = .ok (m.slesSubscriptionsOf agent)
  ledger : ∀ key,
    match (es.filter (·.key = key)).getLast? with
    | none => m.ledger.get? key = none
    | some e => ∃ row, m.ledger.get? key = some row ∧ row.source = key.source ∧
        row.eventType = key.eventType ∧ row.outcome = e.outcome ∧
        row.lastEnvelope = (es.filter (·.isValidOf key.source key.eventType)).getLast?.map (·.id)

namespace ReportTable

variable {κ β : Type} {T : ReportTable κ β} {es : List Envelope} {m : ReadModels} {k : κ}

/-- What is shown under a key is blank, or what the last report on it has brought. -/
theorem Shows.last (h : T.Shows es m) (k : κ) :
    (T.reportsOn es k).getLast? = none ∧ T.view m k = T.blank ∨
      ∃ e w, (T.reportsOn es k).getLast? = some e ∧ e.change = .ok w ∧ w.place = T.place k ∧
        T.view m k = T.value w := by
  rw [h k, latest_eq]
  cases hl : (T.reportsOn es k).getLast? with
  | none => exact .inl ⟨rfl, rfl⟩
  | some e =>
    obtain ⟨b, hb⟩ := Option.isSome_iff_exists.1 (List.mem_filter.1 (List.mem_of_getLast? hl)).2
    obtain ⟨w, hw, hbr⟩ := reported_eq_some hb
    have hp : w.place = T.place k := place_of_brings (Option.isSome_iff_exists.2 ⟨b, hbr⟩)
    refine .inr ⟨e, w, rfl, hw, hp, ?_⟩
    rw [Option.bind_some, reported_of_change hw, brings, if_pos hp]
    rfl

/-- A table that keeps for each agent the set that its last valid report describes. -/
structure OfAgents {α ρ : Type} (T : ReportTable AgentId (List α)) (decode : Json → Decoded ρ)
    (ofReport : AgentId → ρ → Instant → Except ValidationError (List α))
    (replace : AgentId → List α → Write) : Prop where
  blank : T.blank = []
  place : ∀ agent items, (replace agent items).place = T.place agent
  value : ∀ agent items, T.value (replace agent items) = items
  key_of_place : ∀ {e agent}, Envelope.place e = .ok (T.place agent) → e.key = ⟨agent, T.eventType⟩
  change : ∀ {e w}, Envelope.change e = .ok w → e.eventType = T.eventType →
    ∃ report items, e.payloadAs decode = .ok report ∧
      ofReport e.source report e.receivedAt = .ok items ∧ w = replace e.source items

section OfAgents

variable {α ρ : Type} {T : ReportTable AgentId (List α)} {decode : Json → Decoded ρ}
  {ofReport : AgentId → ρ → Instant → Except ValidationError (List α)}
  {replace : AgentId → List α → Write}

theorem OfAgents.reportsOn_eq (h : T.OfAgents decode ofReport replace) (es : List Envelope)
    (agent : AgentId) : T.reportsOn es agent = es.filter (·.isValidOf agent T.eventType) := by
  refine List.filter_congr fun e _ => ?_
  rw [Bool.eq_iff_iff]
  cases hw : e.change with
  | error error => rw [reported_of_fails hw, Envelope.isValidOf_of_fails hw]; rfl
  | ok w =>
    rw [reported_of_change hw, Envelope.isValidOf_of_change hw]
    constructor
    · intro hb
      have hpl := Envelope.place_of_change hw
      rw [place_of_brings hb] at hpl
      obtain ⟨rfl, -⟩ := LedgerKey.mk.inj (h.key_of_place hpl)
      exact ⟨rfl, T.eventType_iff.2 ⟨_, place_of_brings hb⟩⟩
    · intro hv
      obtain ⟨rfl, ht⟩ := hv
      obtain ⟨_, items, _, _, rfl⟩ := h.change hw ((Envelope.eventType_of_change hw).trans ht)
      rw [brings, if_pos (h.place e.source items)]
      rfl

/-- An agent has the set that its last valid report describes, or nothing if there is none. -/
theorem OfAgents.last (h : T.OfAgents decode ofReport replace) (hs : T.Shows es m)
    (agent : AgentId) :
    match (es.filter (·.isValidOf agent T.eventType)).getLast? with
    | none => T.view m agent = []
    | some e => ∃ report, e.payloadAs decode = .ok report ∧
        ofReport agent report e.receivedAt = .ok (T.view m agent) := by
  rw [← h.reportsOn_eq]
  rcases hs.last agent with ⟨hl, hv⟩ | ⟨e, w, hl, hw, hp, hv⟩
  · rw [hl]
    exact hv.trans h.blank
  · rw [hl]
    have hpl := Envelope.place_of_change hw
    rw [hp] at hpl
    obtain ⟨rfl, ht⟩ := LedgerKey.mk.inj (h.key_of_place hpl)
    obtain ⟨report, items, hd, hi, rfl⟩ := h.change hw ht
    rw [h.value] at hv
    refine ⟨report, hd, ?_⟩
    rw [hv]
    exact hi

end OfAgents

theorem ofAgents_sapInstances : sapInstances.OfAgents SapSystemReport.decode
    SapSystemInstance.ofReport .replaceSapInstances where
  blank := rfl
  place _ _ := rfl
  value _ _ := rfl
  key_of_place := Envelope.key_of_place_sapInstances
  change hw ht := Envelope.sapChange_eq_ok ((Envelope.change_sap ht).symm.trans hw)

theorem ofAgents_slesSubscriptions : slesSubscriptions.OfAgents SlesReport.decode
    SlesSubscription.ofReport .replaceSlesSubscriptions where
  blank := rfl
  place _ _ := rfl
  value _ _ := rfl
  key_of_place := Envelope.key_of_place_slesSubscriptions
  change hw ht := Envelope.slesChange_eq_ok ((Envelope.change_sles ht).symm.trans hw)

end ReportTable

namespace Reflects

variable {es : List Envelope} {m : ReadModels}

theorem cluster (h : Reflects es m) (id : String) :
    match (ReportTable.clusters.reportsOn es id).getLast? with
    | none => m.clusters.get? id = none
    | some e => ∃ report cluster, e.payloadAs ClusterReport.decode = .ok report ∧
        Cluster.ofReport e.source report e.receivedAt = .ok cluster ∧ cluster.id = id ∧
        m.clusters.get? id = some cluster := by
  rcases (h.tables ReportTable.clusters).last id with ⟨hl, hv⟩ | ⟨e, w, hl, hw, hp, hv⟩
  · rw [hl]
    exact hv
  · rw [hl]
    cases w with
    | upsertCluster cluster =>
      obtain ⟨report, hd, hc⟩ := Envelope.report_of_upsertCluster hw
      exact ⟨report, cluster, hd, hc, Place.cluster.inj hp, hv⟩
    | _ => cases hp

theorem checks (h : Reflects es m) (group : String) :
    match (ReportTable.checksResults.reportsOn es group).getLast? with
    | none => m.checksResults.get? group = none
    | some e => ∃ report result, e.payloadAs ChecksReport.decode = .ok report ∧
        ChecksResult.ofReport e.source report e.receivedAt = .ok result ∧ result.groupId = group ∧
        m.checksResults.get? group = some result := by
  rcases (h.tables ReportTable.checksResults).last group with ⟨hl, hv⟩ | ⟨e, w, hl, hw, hp, hv⟩
  · rw [hl]
    exact hv
  · rw [hl]
    cases w with
    | upsertChecksResult result =>
      obtain ⟨report, hd, hr⟩ := Envelope.report_of_upsertChecksResult hw
      exact ⟨report, result, hd, hr, Place.checksResult.inj hp, hv⟩
    | _ => cases hp

theorem reference (h : Reflects es m) : ReferenceModels es m where
  host_iff agent := by
    rw [← lifetime_ne_nil_iff, ne_eq, ← (h.hosts agent).absent_iff, Option.isSome_iff_ne_none]
  host agent host hh := ⟨(h.hosts agent).reported host hh, (h.hosts agent).heartbeat host hh⟩
  cluster := h.cluster
  checks := h.checks
  sap := ReportTable.ofAgents_sapInstances.last (h.tables _)
  sles := ReportTable.ofAgents_slesSubscriptions.last (h.tables _)
  ledger key := by
    have hl := h.ledger key
    cases hlast : (es.filter (·.key = key)).getLast? with
    | none => exact hl.absent_iff.2 (List.getLast?_eq_none_iff.1 hlast)
    | some e =>
      have hne : m.ledger.get? key ≠ none := fun hn => by
        rw [hl.absent_iff.1 hn] at hlast
        cases hlast
      obtain ⟨row, hrow⟩ := Option.ne_none_iff_exists'.1 hne
      obtain ⟨hsource, htype, hout⟩ := hl.row row hrow
      rw [hlast] at hout
      refine ⟨row, hrow, hsource, htype, (Option.some.inj hout).symm, ?_⟩
      rw [← hl.lastEnvelope]
      unfold ReadModels.lastEnvelope?
      rw [hrow]
      rfl

end Reflects

/-- A worker who dispatches envelopes in the order of their ids, from empty read models on and while
no store fails, skips none of them, and leaves the read models as the reference has them. -/
theorem dispatchAll_reference (x : Executor) (hx : Registry.standard = .ok x.registry) (w : World)
    (task : TaskId) (es : List Envelope) (hasc : es.Pairwise (·.id < ·.id))
    (hempty : w.models = .empty) (hfaults : w.faults = .none) :
    ∃ w', w.dispatchAll task x es = some (es.map fun e => .ok e.dispatched, w') ∧
      (∀ e ∈ es, e.dispatched ≠ .skipped) ∧ ReferenceModels es w'.models.committed := by
  have hquiet : w.Quiet := by
    refine ⟨?_, ?_, hfaults⟩ <;> rw [hempty] <;> rfl
  obtain ⟨os, w', hall, -, hh⟩ := hquiet.dispatchAll hx task es
  rw [hempty] at hh
  obtain ⟨rfl, hr⟩ := Reflects.of_handles hasc hh
  rw [List.map_map] at hall
  exact ⟨w', hall, fun e _ => e.dispatched_ne_skipped, hr.reference⟩

/-- A host is reported, deregistered and reported once more; a sign of life is followed by one that
is not valid. -/
theorem dispatchAll_reference_return :
    let report : Envelope := ⟨⟨1⟩, ⟨"n1"⟩, .hostDiscovered,
      .ofMembers [("hostname", .text "n1")], ⟨0, 0⟩⟩
    let gone : Envelope := { report with id := ⟨2⟩, eventType := .hostDeregistered }
    let back : Envelope := { report with id := ⟨3⟩ }
    let alive : Envelope := { report with id := ⟨4⟩, eventType := .hostHeartbeat }
    let broken : Envelope := { alive with id := ⟨5⟩, payload := .null }
    let es := [report, gone, back, alive, broken]
    ∃ r, Registry.standard = .ok r ∧
      (lifetime report.source es).map (·.id) = [⟨3⟩, ⟨4⟩, ⟨5⟩] ∧
      ∃ w', (World.new ⟨0, 0⟩ 1 .none).dispatchAll (.worker 0) ⟨r, .standard⟩ es =
          some (es.map fun e => .ok e.dispatched, w') ∧
        (∀ e ∈ es, e.dispatched ≠ .skipped) ∧ ReferenceModels es w'.models.committed := by
  intro report gone back alive broken es
  obtain ⟨r, hr⟩ := Registry.exists_standard
  have hasc : es.Pairwise (·.id < ·.id) := by decide
  exact ⟨r, hr, by decide +kernel,
    dispatchAll_reference ⟨r, .standard⟩ hr _ (.worker 0) es hasc rfl rfl⟩

end AgentFacts
