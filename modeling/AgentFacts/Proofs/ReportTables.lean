import AgentFacts.Proofs.Faithful

namespace AgentFacts

/-- The type of the envelopes that ask for a change. -/
def Write.eventType : Write → EventType
  | .upsertHost _ => .hostDiscovered
  | .deleteHost _ => .hostDeregistered
  | .recordHeartbeat _ _ => .hostHeartbeat
  | .upsertCluster _ => .clusterDiscovered
  | .replaceSapInstances _ _ => .sapSystemDiscovered
  | .replaceSlesSubscriptions _ _ => .subscriptionDiscovered
  | .upsertChecksResult _ => .checksResultReported

namespace Envelope

variable {e : Envelope} {w : Write}

theorem eventType_of_hostChange (h : e.hostChange = .ok w) : e.eventType = w.eventType := by
  unfold hostChange at h
  split at h
  next ht =>
    obtain ⟨_, _, h⟩ := ok_of_bind_ok h
    obtain ⟨_, _, h⟩ := ok_of_bind_ok h
    cases h
    exact ht
  split at h
  next ht =>
    obtain ⟨_, _, h⟩ := ok_of_bind_ok h
    cases h
    exact ht
  split at h
  next ht =>
    obtain ⟨_, _, h⟩ := ok_of_bind_ok h
    cases h
    exact ht
  · cases h

/-- The change that an envelope asks for tells its type. -/
theorem eventType_of_change (h : e.change = .ok w) : e.eventType = w.eventType := by
  unfold change at h
  split at h
  next ht =>
    obtain ⟨_, _, h⟩ := ok_of_bind_ok h
    obtain ⟨_, _, h⟩ := ok_of_bind_ok h
    cases h
    exact ht
  split at h
  next ht =>
    obtain ⟨_, _, _, _, rfl⟩ := sapChange_eq_ok h
    exact ht
  split at h
  next ht =>
    obtain ⟨_, _, _, _, rfl⟩ := slesChange_eq_ok h
    exact ht
  split at h
  next ht =>
    obtain ⟨_, _, h⟩ := ok_of_bind_ok h
    obtain ⟨_, _, h⟩ := ok_of_bind_ok h
    cases h
    exact ht
  · exact eventType_of_hostChange h

end Envelope

theorem Cluster.reportedBy_ofReport {agent : AgentId} {report : ClusterReport} {time : Instant}
    {cluster : Cluster} (h : Cluster.ofReport agent report time = .ok cluster) :
    cluster.reportedBy = agent := by
  unfold ofReport at h
  obtain ⟨_, _, h⟩ := ok_of_bind_ok h
  dsimp only at h
  split at h
  · obtain ⟨_, _, h⟩ := ok_of_bind_ok h
    cases h
    rfl
  · cases h
    rfl

theorem ChecksResult.reportedBy_ofReport {agent : AgentId} {report : ChecksReport}
    {time : Instant} {result : ChecksResult}
    (h : ChecksResult.ofReport agent report time = .ok result) : result.reportedBy = agent := by
  unfold ofReport at h
  obtain ⟨_, _, h⟩ := ok_of_bind_ok h
  obtain ⟨_, _, h⟩ := ok_of_bind_ok h
  split at h
  · cases h
  · cases h
    rfl

namespace Envelope

variable {e : Envelope}

/-- A row of the clusters is what an envelope reports, in the name of its source. -/
theorem report_of_upsertCluster {cluster : Cluster} (h : e.change = .ok (.upsertCluster cluster)) :
    ∃ report, e.payloadAs ClusterReport.decode = .ok report ∧
      Cluster.ofReport e.source report e.receivedAt = .ok cluster := by
  rw [change_cluster (eventType_of_change h)] at h
  unfold clusterChange at h
  obtain ⟨report, hd, h⟩ := ok_of_bind_ok h
  obtain ⟨cluster', hc, h⟩ := ok_of_bind_ok h
  cases h
  exact ⟨report, hd, ok_of_mapError_ok hc⟩

theorem report_of_upsertChecksResult {result : ChecksResult}
    (h : e.change = .ok (.upsertChecksResult result)) :
    ∃ report, e.payloadAs ChecksReport.decode = .ok report ∧
      ChecksResult.ofReport e.source report e.receivedAt = .ok result := by
  rw [change_checks (eventType_of_change h)] at h
  unfold checksChange at h
  obtain ⟨report, hd, h⟩ := ok_of_bind_ok h
  obtain ⟨result', hr, h⟩ := ok_of_bind_ok h
  cases h
  exact ⟨report, hd, ok_of_mapError_ok hr⟩

end Envelope

/-- The entities after an envelope; one that is not valid leaves them as they are. -/
def ReadModels.project (m : ReadModels) (e : Envelope) : ReadModels :=
  match e.change with
  | .ok w => m.write w
  | .error _ => m

namespace ReadModels

variable {m : ReadModels} {e : Envelope}

@[simp] theorem ledger_project (m : ReadModels) (e : Envelope) :
    (m.project e).ledger = m.ledger := by
  unfold project
  split
  · exact ledger_write ..
  · rfl

theorem lastEnvelope?_project (m : ReadModels) (e : Envelope) :
    (m.project e).lastEnvelope? = m.lastEnvelope? := by
  unfold lastEnvelope?
  rw [ledger_project]

theorem stale_project {e' : Envelope} : (m.project e).Stale e' ↔ m.Stale e' :=
  stale_congr (by rw [lastEnvelope?_project])

theorem project_of_not_isValid (h : e.isValid = false) : m.project e = m := by
  unfold project
  cases hc : e.change with
  | ok w => rw [Envelope.isValid_iff.2 ⟨w, hc⟩] at h; cases h
  | error error => rfl

end ReadModels

theorem Projects.eq_project {e : Envelope} {m m' : ReadModels} (h : Projects e m m') :
    ∃ time, m' = (m.project e).record (.ofEnvelope e .success time) := by
  obtain ⟨w, time, hw, rfl⟩ := h.made
  unfold ReadModels.project
  rw [hw]
  exact ⟨time, rfl⟩

/-- A table that shows under each key what was brought there last, and `blank` where nothing has
been brought. -/
structure ReportTable (κ β : Type) where
  eventType : EventType
  place : κ → Place
  view : ReadModels → κ → β
  blank : β
  value : Write → β
  view_empty : ∀ k, view .empty k = blank
  view_record : ∀ (m : ReadModels) r, view (m.record r) = view m
  view_agree : ∀ {m m' p k}, ReadModels.AgreeOff p m m' → p ≠ place k → view m' k = view m k
  view_value : ∀ {m : ReadModels} {w : Write} {k}, w.place = place k →
    view (m.write w) k = value w
  eventType_iff : ∀ {w : Write}, w.eventType = eventType ↔ ∃ k, w.place = place k

namespace ReportTable

/-- One row for each cluster. -/
def clusters : ReportTable String (Option Cluster) where
  eventType := .clusterDiscovered
  place := .cluster
  view m id := m.clusters.get? id
  blank := none
  value
    | .upsertCluster cluster => some cluster
    | _ => none
  view_empty _ := rfl
  view_record _ _ := rfl
  view_agree h hp := h.clusters _ hp
  view_value {_ w _} h := by
    cases w with
    | upsertCluster cluster =>
      cases h
      exact Table.get?_insert_self ..
    | _ => cases h
  eventType_iff {w} := by cases w <;> simp +decide [Write.eventType, Write.place]

/-- One row for each group that checks have been executed on. -/
def checksResults : ReportTable String (Option ChecksResult) where
  eventType := .checksResultReported
  place := .checksResult
  view m group := m.checksResults.get? group
  blank := none
  value
    | .upsertChecksResult result => some result
    | _ => none
  view_empty _ := rfl
  view_record _ _ := rfl
  view_agree h hp := h.checksResults _ hp
  view_value {_ w _} h := by
    cases w with
    | upsertChecksResult result =>
      cases h
      exact Table.get?_insert_self ..
    | _ => cases h
  eventType_iff {w} := by cases w <;> simp +decide [Write.eventType, Write.place]

def sapInstances : ReportTable AgentId (List SapSystemInstance) where
  eventType := .sapSystemDiscovered
  place := .sapInstances
  view := ReadModels.sapInstancesOf
  blank := []
  value
    | .replaceSapInstances _ instances => instances
    | _ => []
  view_empty := SetTable.sapInstances.items_empty
  view_record := SetTable.sapInstances.items_record
  view_agree := SetTable.sapInstances.items_agree
  view_value {_ w _} h := by
    cases w with
    | replaceSapInstances agent instances =>
      cases h
      exact SetTable.sapInstances.items_replace ..
    | _ => cases h
  eventType_iff {w} := by cases w <;> simp +decide [Write.eventType, Write.place]

def slesSubscriptions : ReportTable AgentId (List SlesSubscription) where
  eventType := .subscriptionDiscovered
  place := .slesSubscriptions
  view := ReadModels.slesSubscriptionsOf
  blank := []
  value
    | .replaceSlesSubscriptions _ items => items
    | _ => []
  view_empty := SetTable.slesSubscriptions.items_empty
  view_record := SetTable.slesSubscriptions.items_record
  view_agree := SetTable.slesSubscriptions.items_agree
  view_value {_ w _} h := by
    cases w with
    | replaceSlesSubscriptions agent items =>
      cases h
      exact SetTable.slesSubscriptions.items_replace ..
    | _ => cases h
  eventType_iff {w} := by cases w <;> simp +decide [Write.eventType, Write.place]

variable {κ β : Type} (T : ReportTable κ β)

/-- What a change brings under a key. -/
def brings (k : κ) (w : Write) : Option β :=
  if w.place = T.place k then some (T.value w) else none

/-- What an envelope reports under a key. One that is not valid reports nothing. -/
def reported (k : κ) (e : Envelope) : Option β :=
  e.change.toOption.bind (T.brings k)

/-- What the last report on a key brought. -/
def latest (es : List Envelope) (k : κ) : β :=
  (es.filterMap (T.reported k)).getLast?.getD T.blank

/-- The reports on a key, in their order. -/
def reportsOn (es : List Envelope) (k : κ) : List Envelope :=
  es.filter fun e => (T.reported k e).isSome

/-- A table shows what the envelopes report, one after the other. -/
def Shows (es : List Envelope) (m : ReadModels) : Prop :=
  ∀ k, T.view m k = T.latest es k

variable {T} {e : Envelope} {es : List Envelope} {m m' : ReadModels} {k : κ} {b : β}

theorem place_of_brings {w : Write} (h : (T.brings k w).isSome = true) : w.place = T.place k := by
  unfold brings at h
  split at h
  next hp => exact hp
  next => cases h

/-- A change is shown under the key that it is about, and only there. -/
theorem view_write (T : ReportTable κ β) (m : ReadModels) (w : Write) (k : κ) :
    T.view (m.write w) k = (T.brings k w).getD (T.view m k) := by
  unfold brings
  split
  next hp => exact T.view_value hp
  next hp => exact T.view_agree (ReadModels.agreeOff_write m w) hp

theorem reported_eq_some (h : T.reported k e = some b) :
    ∃ w, e.change = .ok w ∧ T.brings k w = some b := by
  unfold reported at h
  cases hw : e.change with
  | error error =>
    rw [hw] at h
    cases h
  | ok w =>
    rw [hw] at h
    exact ⟨w, rfl, h⟩

theorem reported_of_change {w : Write} (h : e.change = .ok w) :
    T.reported k e = T.brings k w := by
  unfold reported
  rw [h]
  rfl

theorem reported_of_fails {error : ProjectionError} (h : e.change = .error error) :
    T.reported k e = none := by
  unfold reported
  rw [h]
  rfl

theorem eventType_of_reported (h : (T.reported k e).isSome = true) : e.eventType = T.eventType := by
  obtain ⟨b, hb⟩ := Option.isSome_iff_exists.1 h
  obtain ⟨w, hw, hb⟩ := reported_eq_some hb
  have hp : w.place = T.place k := place_of_brings (Option.isSome_iff_exists.2 ⟨b, hb⟩)
  exact (Envelope.eventType_of_change hw).trans (T.eventType_iff.2 ⟨k, hp⟩)

theorem exists_reported (hv : e.isValid = true) (ht : e.eventType = T.eventType) :
    ∃ k, (T.reported k e).isSome = true := by
  obtain ⟨w, hw⟩ := Envelope.isValid_iff.1 hv
  obtain ⟨k, hp⟩ := T.eventType_iff.1 ((Envelope.eventType_of_change hw).symm.trans ht)
  refine ⟨k, ?_⟩
  rw [reported_of_change hw]
  unfold brings
  rw [if_pos hp]
  rfl

theorem latest_append (T : ReportTable κ β) (es : List Envelope) (e : Envelope) (k : κ) :
    T.latest (es ++ [e]) k = (T.reported k e).getD (T.latest es k) := by
  unfold latest
  rw [List.filterMap_append]
  cases hr : T.reported k e with
  | none => simp [hr]
  | some b => simp [hr]

theorem reportsOn_append (T : ReportTable κ β) (es : List Envelope) (e : Envelope) (k : κ) :
    T.reportsOn (es ++ [e]) k =
      T.reportsOn es k ++ if (T.reported k e).isSome then [e] else [] := by
  unfold reportsOn
  rw [List.filter_append]
  cases hr : (T.reported k e).isSome <;> simp [hr]

/-- What is shown is what the last of the reports on a key brought. -/
theorem latest_eq (T : ReportTable κ β) (es : List Envelope) (k : κ) :
    T.latest es k = ((T.reportsOn es k).getLast?.bind (T.reported k)).getD T.blank := by
  induction es using List.reverseRecOn with
  | nil => rfl
  | append_singleton es e ih =>
    rw [latest_append, reportsOn_append]
    cases hr : T.reported k e with
    | none => simpa using ih
    | some b => simp [hr]

/-- What an envelope does to a table is to bring what it reports. -/
theorem view_project (T : ReportTable κ β) (m : ReadModels) (e : Envelope) (k : κ) :
    T.view (m.project e) k = (T.reported k e).getD (T.view m k) := by
  unfold ReadModels.project
  cases hw : e.change with
  | ok w =>
    rw [reported_of_change hw]
    exact T.view_write m w k
  | error error =>
    rw [reported_of_fails hw]
    rfl

theorem shows_empty (T : ReportTable κ β) : T.Shows [] .empty := T.view_empty

theorem Shows.record (h : T.Shows es m) (r : OutcomeRecord) : T.Shows es (m.record r) := by
  intro k
  rw [T.view_record]
  exact h k

theorem Shows.project (h : T.Shows es m) (e : Envelope) : T.Shows (es ++ [e]) (m.project e) := by
  intro k
  rw [view_project, latest_append, h k]

theorem Shows.projects (h : T.Shows es m) (hp : Projects e m m') : T.Shows (es ++ [e]) m' := by
  obtain ⟨time, rfl⟩ := hp.eq_project
  exact (h.project e).record _

/-- What the rows have from their reports, the row that is shown has from the last report. -/
theorem map_latest {α γ : Type} {T : ReportTable κ (Option α)} {f : α → γ} {g : Envelope → γ}
    (hb : T.blank = none) (hr : ∀ {e row}, T.reported k e = some row → row.map f = some (g e))
    (es : List Envelope) : (T.latest es k).map f = (T.reportsOn es k).getLast?.map g := by
  rw [latest_eq, hb]
  cases hl : (T.reportsOn es k).getLast? with
  | none => rfl
  | some e =>
    obtain ⟨row, he⟩ :=
      Option.isSome_iff_exists.1 (List.mem_filter.1 (List.mem_of_getLast? hl)).2
    rw [Option.bind_some, he]
    exact hr he

theorem reported_cluster {id : String} {row : Option Cluster}
    (h : clusters.reported id e = some row) :
    ∃ cluster, row = some cluster ∧ cluster.id = id ∧
      e.change = .ok (.upsertCluster cluster) := by
  obtain ⟨w, hw, hb⟩ := reported_eq_some h
  have hp : w.place = .cluster id := place_of_brings (Option.isSome_iff_exists.2 ⟨row, hb⟩)
  cases w with
  | upsertCluster cluster =>
    cases hp
    cases (if_pos rfl).symm.trans hb
    exact ⟨cluster, rfl, rfl, hw⟩
  | _ => cases hp

theorem reported_checksResult {group : String} {row : Option ChecksResult}
    (h : checksResults.reported group e = some row) :
    ∃ result, row = some result ∧ result.groupId = group ∧
      e.change = .ok (.upsertChecksResult result) := by
  obtain ⟨w, hw, hb⟩ := reported_eq_some h
  have hp : w.place = .checksResult group := place_of_brings (Option.isSome_iff_exists.2 ⟨row, hb⟩)
  cases w with
  | upsertChecksResult result =>
    cases hp
    cases (if_pos rfl).symm.trans hb
    exact ⟨result, rfl, rfl, hw⟩
  | _ => cases hp

/-- The row of a cluster names who its last report is from. -/
theorem reportedBy_latest_cluster (es : List Envelope) (id : String) :
    (clusters.latest es id).map (·.reportedBy) =
      (clusters.reportsOn es id).getLast?.map (·.source) := by
  refine map_latest rfl (fun h => ?_) es
  obtain ⟨cluster, rfl, _, hc⟩ := reported_cluster h
  obtain ⟨report, _, ho⟩ := Envelope.report_of_upsertCluster hc
  exact congrArg some (Cluster.reportedBy_ofReport ho)

/-- The row of a group names who its last report is from. -/
theorem reportedBy_latest_checksResult (es : List Envelope) (group : String) :
    (checksResults.latest es group).map (·.reportedBy) =
      (checksResults.reportsOn es group).getLast?.map (·.source) := by
  refine map_latest rfl (fun h => ?_) es
  obtain ⟨result, rfl, _, hc⟩ := reported_checksResult h
  obtain ⟨report, _, ho⟩ := Envelope.report_of_upsertChecksResult hc
  exact congrArg some (ChecksResult.reportedBy_ofReport ho)

theorem latest_cluster_eq_none {es : List Envelope} {id : String} :
    clusters.latest es id = none ↔ clusters.reportsOn es id = [] := by
  rw [← Option.map_eq_none_iff, reportedBy_latest_cluster, Option.map_eq_none_iff,
    List.getLast?_eq_none_iff]

theorem latest_checksResult_eq_none {es : List Envelope} {group : String} :
    checksResults.latest es group = none ↔ checksResults.reportsOn es group = [] := by
  rw [← Option.map_eq_none_iff, reportedBy_latest_checksResult, Option.map_eq_none_iff,
    List.getLast?_eq_none_iff]

theorem reported_of_upsertCluster {cluster : Cluster}
    (h : e.change = .ok (.upsertCluster cluster)) :
    clusters.reported cluster.id e = some (some cluster) :=
  (reported_of_change h).trans (if_pos rfl)

theorem reported_of_upsertChecksResult {result : ChecksResult}
    (h : e.change = .ok (.upsertChecksResult result)) :
    checksResults.reported result.groupId e = some (some result) :=
  (reported_of_change h).trans (if_pos rfl)

end ReportTable

end AgentFacts
