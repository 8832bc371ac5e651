import AgentFacts.Proofs.Places
import AgentFacts.Registry

namespace AgentFacts

namespace Envelope

/-- The row that an envelope is about, as its type and its payload have it. -/
def place (e : Envelope) : Except ProjectionError Place :=
  if e.eventType = .clusterDiscovered then do
    let report ← e.payloadAs ClusterReport.decode
    return .cluster report.id
  else if e.eventType = .sapSystemDiscovered then .ok (.sapInstances e.source)
  else if e.eventType = .subscriptionDiscovered then .ok (.slesSubscriptions e.source)
  else if e.eventType = .checksResultReported then do
    let report ← e.payloadAs ChecksReport.decode
    return .checksResult report.groupId
  else .ok (.host e.source)

/-- The change that an envelope asks for. -/
def change (e : Envelope) : Except ProjectionError Write :=
  if e.eventType = .clusterDiscovered then e.clusterChange
  else if e.eventType = .sapSystemDiscovered then e.sapChange
  else if e.eventType = .subscriptionDiscovered then e.slesChange
  else if e.eventType = .checksResultReported then e.checksChange
  else e.hostChange

end Envelope

/-- A computation in two steps that succeeds does so in both of them. -/
theorem ok_of_bind_ok {x : Except ε α} {f : α → Except ε β} {b : β} (h : x >>= f = .ok b) :
    ∃ a, x = .ok a ∧ f a = .ok b := by
  cases x with
  | error e => cases h
  | ok a => exact ⟨a, rfl, h⟩

theorem ok_of_mapError_ok {x : Except ε α} {f : ε → δ} {a : α} (h : x.mapError f = .ok a) :
    x = .ok a := by
  cases x with
  | error e => cases h
  | ok b => exact congrArg _ (Except.ok.inj h)

theorem Host.agent_ofReport {agent : AgentId} {report : HostReport} {time : Instant} {host : Host}
    (h : Host.ofReport agent report time = .ok host) : host.agent = agent := by
  unfold ofReport at h
  obtain ⟨_, _, h⟩ := ok_of_bind_ok h
  dsimp only at h
  split at h
  · cases h
  · cases h
    rfl

theorem Cluster.id_ofReport {agent : AgentId} {report : ClusterReport} {time : Instant}
    {cluster : Cluster} (h : Cluster.ofReport agent report time = .ok cluster) :
    cluster.id = report.id := by
  unfold ofReport at h
  obtain ⟨_, _, h⟩ := ok_of_bind_ok h
  dsimp only at h
  split at h
  · obtain ⟨_, _, h⟩ := ok_of_bind_ok h
    cases h
    rfl
  · cases h
    rfl

theorem ChecksResult.groupId_ofReport {agent : AgentId} {report : ChecksReport} {time : Instant}
    {result : ChecksResult} (h : ChecksResult.ofReport agent report time = .ok result) :
    result.groupId = report.groupId := by
  unfold ofReport at h
  obtain ⟨_, _, h⟩ := ok_of_bind_ok h
  obtain ⟨_, _, h⟩ := ok_of_bind_ok h
  split at h
  · cases h
  · cases h
    rfl

namespace Envelope

variable {e : Envelope} {w : Write}

theorem place_of_hostChange (h : e.hostChange = .ok w) : w.place = .host e.source := by
  unfold hostChange at h
  split at h
  · obtain ⟨report, _, h⟩ := ok_of_bind_ok h
    obtain ⟨host, hh, h⟩ := ok_of_bind_ok h
    cases h
    exact congrArg _ (Host.agent_ofReport (ok_of_mapError_ok hh))
  split at h
  · obtain ⟨_, _, h⟩ := ok_of_bind_ok h
    cases h
    rfl
  split at h
  · obtain ⟨_, _, h⟩ := ok_of_bind_ok h
    cases h
    rfl
  · cases h

theorem place_of_clusterChange (h : e.clusterChange = .ok w) :
    ∃ report, e.payloadAs ClusterReport.decode = .ok report ∧ w.place = .cluster report.id := by
  unfold clusterChange at h
  obtain ⟨report, hd, h⟩ := ok_of_bind_ok h
  obtain ⟨cluster, hc, h⟩ := ok_of_bind_ok h
  cases h
  exact ⟨report, hd, congrArg _ (Cluster.id_ofReport (ok_of_mapError_ok hc))⟩

theorem place_of_checksChange (h : e.checksChange = .ok w) :
    ∃ report, e.payloadAs ChecksReport.decode = .ok report ∧
      w.place = .checksResult report.groupId := by
  unfold checksChange at h
  obtain ⟨report, hd, h⟩ := ok_of_bind_ok h
  obtain ⟨result, hr, h⟩ := ok_of_bind_ok h
  cases h
  exact ⟨report, hd, congrArg _ (ChecksResult.groupId_ofReport (ok_of_mapError_ok hr))⟩

/-- The instances that an envelope builds take the place of all that its agent had. -/
theorem sapChange_eq_ok (h : e.sapChange = .ok w) :
    ∃ report instances, e.payloadAs SapSystemReport.decode = .ok report ∧
      SapSystemInstance.ofReport e.source report e.receivedAt = .ok instances ∧
      w = .replaceSapInstances e.source instances := by
  unfold sapChange at h
  obtain ⟨report, hd, h⟩ := ok_of_bind_ok h
  obtain ⟨instances, hi, h⟩ := ok_of_bind_ok h
  cases h
  exact ⟨report, instances, hd, ok_of_mapError_ok hi, rfl⟩

theorem slesChange_eq_ok (h : e.slesChange = .ok w) :
    ∃ report items, e.payloadAs SlesReport.decode = .ok report ∧
      SlesSubscription.ofReport e.source report e.receivedAt = .ok items ∧
      w = .replaceSlesSubscriptions e.source items := by
  unfold slesChange at h
  obtain ⟨report, hd, h⟩ := ok_of_bind_ok h
  obtain ⟨items, hi, h⟩ := ok_of_bind_ok h
  cases h
  exact ⟨report, items, hd, ok_of_mapError_ok hi, rfl⟩

theorem change_cluster (h : e.eventType = .clusterDiscovered) : e.change = e.clusterChange := by
  unfold change
  rw [h]
  rfl

theorem change_sap (h : e.eventType = .sapSystemDiscovered) : e.change = e.sapChange := by
  unfold change
  rw [h]
  rfl

theorem change_sles (h : e.eventType = .subscriptionDiscovered) : e.change = e.slesChange := by
  unfold change
  rw [h]
  rfl

theorem change_checks (h : e.eventType = .checksResultReported) : e.change = e.checksChange := by
  unfold change
  rw [h]
  rfl

/-- The change that an envelope asks for falls where the envelope says. -/
theorem place_of_change (h : e.change = .ok w) : e.place = .ok w.place := by
  unfold change at h
  unfold place
  split at h
  next ht =>
    obtain ⟨report, hd, hp⟩ := place_of_clusterChange h
    rw [if_pos ht, hd, hp]
    rfl
  next ht =>
  rw [if_neg ht]
  split at h
  next ht =>
    obtain ⟨_, instances, _, _, rfl⟩ := sapChange_eq_ok h
    rw [if_pos ht]
    rfl
  next ht =>
  rw [if_neg ht]
  split at h
  next ht =>
    obtain ⟨_, items, _, _, rfl⟩ := slesChange_eq_ok h
    rw [if_pos ht]
    rfl
  next ht =>
  rw [if_neg ht]
  split at h
  next ht =>
    obtain ⟨report, hd, hp⟩ := place_of_checksChange h
    rw [if_pos ht, hd, hp]
    rfl
  next ht =>
    rw [if_neg ht, place_of_hostChange h]

end Envelope

namespace Registry

theorem exists_standard : ∃ r, standard = .ok r := ⟨_, rfl⟩

/-- The standard registry in the order of its types. -/
theorem entries_standard {r : Registry} (h : standard = .ok r) :
    r.projectors.entries =
      [(.checksResultReported, .checksResults), (.clusterDiscovered, .clusters),
        (.hostDeregistered, .hosts), (.hostDiscovered, .hosts), (.hostHeartbeat, .hosts),
        (.sapSystemDiscovered, .sapInstances),
        (.subscriptionDiscovered, .slesSubscriptions)] := by
  have hs : standard.map (·.projectors.entries) = .ok _ := rfl
  rw [h] at hs
  exact Except.ok.inj hs

/-- The standard registry has for a type the projector that declares it. -/
theorem find?_standard {r : Registry} (h : standard = .ok r) (eventType : EventType) :
    r.find? eventType = Projector.all.find? fun p => p.eventTypes.contains eventType := by
  unfold find? Table.get?
  rw [entries_standard h]
  by_cases hk : eventType ∈ EventType.known
  · simp only [EventType.known, List.mem_cons, List.not_mem_nil, or_false] at hk
    rcases hk with rfl | rfl | rfl | rfl | rfl | rfl | rfl <;> rfl
  · simp only [EventType.known, List.mem_cons, List.not_mem_nil, or_false, not_or] at hk
    obtain ⟨h1, h2, h3, h4, h5, h6, h7⟩ := hk
    simp [Table.lookup, Std.LawfulEqCmp.compare_eq_iff_eq, Projector.all, Projector.hosts,
      Projector.clusters, Projector.sapInstances, Projector.slesSubscriptions,
      Projector.checksResults, Projector.ofChange, h1, h2, h3, h4, h5, h6, h7]

theorem handler_standard {r : Registry} (h : standard = .ok r) {eventType : EventType}
    {p : Projector} (hp : r.find? eventType = some p) :
    p ∈ Projector.all ∧ eventType ∈ p.eventTypes := by
  rw [find?_standard h] at hp
  have ht := List.find?_some hp
  exact ⟨List.mem_of_find?_eq_some hp, by simpa using ht⟩

/-- The standard registry handles the known types and no others. -/
theorem isSome_find?_standard {r : Registry} (h : standard = .ok r) (eventType : EventType) :
    (r.find? eventType).isSome = true ↔ eventType ∈ EventType.known := by
  rw [find?_standard h, List.find?_isSome]
  simp [EventType.known, Projector.all, Projector.hosts, Projector.clusters,
    Projector.sapInstances, Projector.slesSubscriptions, Projector.checksResults,
    Projector.ofChange]
  grind

end Registry

namespace Projector

theorem ofChange_project_congr {name : String} {eventTypes : List EventType} {e : Envelope}
    {change change' : Envelope → Except ProjectionError Write} (h : change e = change' e) :
    (ofChange name eventTypes change).project e = (ofChange name eventTypes change').project e := by
  unfold ofChange
  simp only [h]

/-- A projector of entities makes the change that the envelope asks for, in its own table. -/
theorem project_of_mem_all {p : Projector} (hp : p ∈ all) {e : Envelope}
    (ht : e.eventType ∈ p.eventTypes) :
    p.project e = (ofChange p.name p.eventTypes Envelope.change).project e ∧
      ∀ w, e.change = .ok w → w.place.table = p.name := by
  simp only [all, List.mem_cons, List.not_mem_nil, or_false] at hp
  rcases hp with rfl | rfl | rfl | rfl | rfl
  · have hc : e.hostChange = e.change := by
      simp only [hosts, ofChange, List.mem_cons, List.not_mem_nil, or_false] at ht
      unfold Envelope.change
      rcases ht with ht | ht | ht <;> rw [ht] <;> rfl
    refine ⟨ofChange_project_congr hc, fun w hw => ?_⟩
    rw [Envelope.place_of_hostChange (hc.trans hw)]
    rfl
  · have hc := (Envelope.change_cluster (List.mem_singleton.1 ht)).symm
    refine ⟨ofChange_project_congr hc, fun w hw => ?_⟩
    obtain ⟨report, _, hp⟩ := Envelope.place_of_clusterChange (hc.trans hw)
    rw [hp]
    rfl
  · have hc := (Envelope.change_sap (List.mem_singleton.1 ht)).symm
    refine ⟨ofChange_project_congr hc, fun w hw => ?_⟩
    obtain ⟨_, instances, _, _, rfl⟩ := Envelope.sapChange_eq_ok (hc.trans hw)
    rfl
  · have hc := (Envelope.change_sles (List.mem_singleton.1 ht)).symm
    refine ⟨ofChange_project_congr hc, fun w hw => ?_⟩
    obtain ⟨_, items, _, _, rfl⟩ := Envelope.slesChange_eq_ok (hc.trans hw)
    rfl
  · have hc := (Envelope.change_checks (List.mem_singleton.1 ht)).symm
    refine ⟨ofChange_project_congr hc, fun w hw => ?_⟩
    obtain ⟨report, _, hp⟩ := Envelope.place_of_checksChange (hc.trans hw)
    rw [hp]
    rfl

end Projector

end AgentFacts
