import AgentFacts.Database.ReadModels
import AgentFacts.Proofs.Handlers

namespace AgentFacts

namespace Row

/-- What a column holds. -/
def cell? (row : Row) (name : String) : Option Cell :=
  row.columns.reverse.lookup name

/-- A column holds a number that is not below a bound, or below zero. -/
def Beyond (row : Row) (name : String) (bound : Nat) : Prop :=
  ∃ i, row.cell? name = some (.int8 i) ∧ ¬ (0 ≤ i ∧ i < bound)

/-- A column holds a text that nothing is written as. -/
def Strange (row : Row) (name : String) (text : α → String) : Prop :=
  ∃ s, (row.cell? name = some (.text s) ∨ row.cell? name = some (.varchar s)) ∧ ∀ a, text a ≠ s

end Row

/-- A computation in two steps succeeds exactly if both of them do. -/
theorem bind_eq_ok {x : Except ε α} {f : α → Except ε β} {b : β} :
    x >>= f = .ok b ↔ ∃ a, x = .ok a ∧ f a = .ok b := by
  refine ⟨ok_of_bind_ok, ?_⟩
  rintro ⟨a, rfl, h⟩
  exact h

theorem map_eq_ok {x : Except ε α} {f : α → β} {b : β} :
    f <$> x = .ok b ↔ ∃ a, x = .ok a ∧ f a = b := by
  cases x with
  | error e => simp [Functor.map, Except.map]
  | ok a => simp [Functor.map, Except.map]

theorem mapError_eq_ok {x : Except ε α} {f : ε → δ} {a : α} :
    x.mapError f = .ok a ↔ x = .ok a := by
  refine ⟨ok_of_mapError_ok, ?_⟩
  rintro rfl
  rfl

theorem return_eq_ok {a b : α} : (pure a : Except ε α) = .ok b ↔ a = b :=
  ⟨Except.ok.inj, congrArg _⟩

namespace Row

variable {row : Row} {name : String}

theorem read_eq_ok {cell : Cell.Reader α} {a : α} :
    row.read name cell = .ok a ↔ ∃ c, row.cell? name = some c ∧ cell c = .ok a := by
  unfold read get cell?
  rw [mapError_eq_ok]
  cases row.columns.reverse.lookup name with
  | none => simp
  | some c => simp [mapError_eq_ok]

theorem read_of_cell {cell : Cell.Reader α} {c : Cell} {a : α} (hc : row.cell? name = some c)
    (ha : cell c = .ok a) : row.read name cell = .ok a :=
  read_eq_ok.2 ⟨c, hc, ha⟩

theorem toInt_eq_ok {c : Cell} {i : Int} : c.toInt = .ok i ↔ c = .int8 i := by
  cases c <;> simp [Cell.toInt, Cell.refuse]

/-- A count is read if it is within its range, and then as it stands there. -/
theorem count_eq_ok {bound n : Nat} :
    row.count name bound = .ok n ↔ row.cell? name = some (.int8 n) ∧ n < bound := by
  unfold count
  rw [bind_eq_ok]
  simp only [read_eq_ok, toInt_eq_ok]
  constructor
  · rintro ⟨i, ⟨c, hc, rfl⟩, h⟩
    split at h
    next hrange =>
      cases h
      rw [Int.toNat_of_nonneg hrange.1]
      exact ⟨hc, by omega⟩
    next => cases h
  · rintro ⟨hc, hn⟩
    exact ⟨n, ⟨_, hc, rfl⟩, if_pos ⟨by omega, by omega⟩⟩

theorem uint32_eq_ok {n : UInt32} :
    row.uint32 name = .ok n ↔ row.cell? name = some (.int8 n.toNat) := by
  unfold uint32
  rw [map_eq_ok]
  simp only [count_eq_ok]
  constructor
  · rintro ⟨m, ⟨hc, hm⟩, rfl⟩
    rw [hc, UInt32.toNat_ofNat_of_lt' hm]
  · intro hc
    exact ⟨n.toNat, ⟨hc, n.toNat_lt⟩, UInt32.ofNat_toNat⟩

theorem uint64_eq_ok {n : UInt64} :
    row.uint64 name = .ok n ↔ row.cell? name = some (.int8 n.toNat) := by
  unfold uint64
  rw [map_eq_ok]
  simp only [count_eq_ok]
  constructor
  · rintro ⟨m, ⟨hc, hm⟩, rfl⟩
    rw [hc, UInt64.toNat_ofNat_of_lt' hm]
  · intro hc
    exact ⟨n.toNat, ⟨hc, n.toNat_lt⟩, UInt64.ofNat_toNat⟩

theorem agent_eq_ok {agent : AgentId} :
    row.agent name = .ok agent ↔ row.read name Cell.toText = .ok agent.text := by
  unfold Row.agent
  rw [map_eq_ok]
  constructor
  · rintro ⟨text, h, rfl⟩
    exact h
  · intro h
    exact ⟨_, h, rfl⟩

theorem named_eq_ok {parse : String → Except ValidationError α} {a : α} :
    row.named name parse = .ok a ↔ ∃ s, row.read name Cell.toText = .ok s ∧ parse s = .ok a := by
  unfold named
  rw [bind_eq_ok]
  simp only [mapError_eq_ok]

theorem named_of_cell {parse : String → Except ValidationError α} {text : String} {a : α}
    (hc : row.cell? name = some (.text text)) (hp : parse text = .ok a) :
    row.named name parse = .ok a :=
  named_eq_ok.2 ⟨text, read_of_cell hc rfl, hp⟩

theorem agent_of_cell {agent : AgentId} (hc : row.cell? name = some (.text agent.text)) :
    row.agent name = .ok agent :=
  agent_eq_ok.2 (read_of_cell hc rfl)

end Row

/-- To look a text up among those of all values of a type finds the value that has it. -/
theorem find?_text (text : α → String) (all : List α) (hall : ∀ a, a ∈ all)
    (hinj : ∀ a b, text a = text b → a = b) {s : String} {a : α} :
    all.find? (fun a => text a == s) = some a ↔ text a = s := by
  constructor
  · intro h
    have htext := List.find?_some h
    exact beq_iff_eq.1 htext
  · rintro rfl
    cases hfound : all.find? fun b => text b == text a with
    | none => exact absurd (beq_self_eq_true (text a)) (List.find?_eq_none.1 hfound a (hall a))
    | some b =>
      have htext := List.find?_some hfound
      exact congrArg some (hinj b a (beq_iff_eq.1 htext))

theorem ClusterType.parse_eq_ok {s : String} {t : ClusterType} : parse s = .ok t ↔ t.text = s := by
  rw [← find?_text text all (by intro t; cases t <;> decide)
    (by intro t t'; cases t <;> cases t' <;> decide)]
  unfold parse
  split <;> simp [*]

theorem SapSystemType.parse_eq_ok {s : String} {t : SapSystemType} :
    parse s = .ok t ↔ t.text = s := by
  rw [← find?_text text all (by intro t; cases t <;> decide)
    (by intro t t'; cases t <;> cases t' <;> decide)]
  unfold parse
  split <;> simp [*]

theorem CheckHealth.parse_eq_ok {s : String} {h : CheckHealth} : parse s = .ok h ↔ h.text = s := by
  rw [← find?_text text all (by intro h; cases h <;> decide)
    (by intro h h'; cases h <;> cases h' <;> decide)]
  unfold parse
  split <;> simp [*]

/-- A host is read if each of its columns is. -/
theorem Host.ofRow_eq_ok {row : Row} {h : Host} : Host.ofRow row = .ok h ↔
    row.agent "agent_id" = .ok h.agent ∧ row.read "hostname" Cell.toText = .ok h.hostname ∧
    row.read "ip_addresses" Cell.toTexts = .ok h.ipAddresses ∧
    row.read "os_version" Cell.toText = .ok h.osVersion ∧
    row.read "agent_version" Cell.toText = .ok h.agentVersion ∧
    row.uint32 "cpu_count" = .ok h.cpuCount ∧ row.uint32 "socket_count" = .ok h.socketCount ∧
    row.uint64 "total_memory_mb" = .ok h.totalMemoryMb ∧
    row.read "updated_at" Cell.toInstant = .ok h.updatedAt ∧
    row.read "last_heartbeat_at" (Cell.toOption Cell.toInstant) = .ok h.lastHeartbeatAt := by
  unfold ofRow
  simp only [bind_eq_ok, return_eq_ok]
  constructor
  · rintro ⟨_, hagent, _, hname, _, hips, _, hos, _, hversion, _, hcpu, _, hsocket, _, hmemory, _,
      hupdated, _, hbeat, rfl⟩
    exact ⟨hagent, hname, hips, hos, hversion, hcpu, hsocket, hmemory, hupdated, hbeat⟩
  · rintro ⟨hagent, hname, hips, hos, hversion, hcpu, hsocket, hmemory, hupdated, hbeat⟩
    exact ⟨_, hagent, _, hname, _, hips, _, hos, _, hversion, _, hcpu, _, hsocket, _, hmemory, _,
      hupdated, _, hbeat, rfl⟩

theorem Cluster.ofRow_eq_ok {row : Row} {c : Cluster} : Cluster.ofRow row = .ok c ↔
    row.read "id" Cell.toText = .ok c.id ∧ row.read "name" Cell.toText = .ok c.name ∧
    row.named "cluster_type" ClusterType.parse = .ok c.clusterType ∧
    row.read "sid" (Cell.toOption Cell.toText) = .ok c.sid ∧
    row.read "nodes" Cell.toTexts = .ok c.nodes ∧
    row.uint32 "resources_number" = .ok c.resourcesNumber ∧
    row.uint32 "hosts_number" = .ok c.hostsNumber ∧ row.agent "reported_by" = .ok c.reportedBy ∧
    row.read "updated_at" Cell.toInstant = .ok c.updatedAt := by
  unfold ofRow
  simp only [bind_eq_ok, return_eq_ok]
  constructor
  · rintro ⟨_, hid, _, hname, _, htype, _, hsid, _, hnodes, _, hresources, _, hhosts, _, hagent, _,
      hupdated, rfl⟩
    exact ⟨hid, hname, htype, hsid, hnodes, hresources, hhosts, hagent, hupdated⟩
  · rintro ⟨hid, hname, htype, hsid, hnodes, hresources, hhosts, hagent, hupdated⟩
    exact ⟨_, hid, _, hname, _, htype, _, hsid, _, hnodes, _, hresources, _, hhosts, _, hagent, _,
      hupdated, rfl⟩

theorem SapSystemInstance.ofRow_eq_ok {row : Row} {i : SapSystemInstance} :
    SapSystemInstance.ofRow row = .ok i ↔
    row.agent "agent_id" = .ok i.agent ∧ row.read "sid" Cell.toText = .ok i.sid ∧
    row.read "instance_number" Cell.toText = .ok i.instanceNumber ∧
    row.named "system_type" SapSystemType.parse = .ok i.systemType ∧
    row.read "features" Cell.toText = .ok i.features ∧
    row.read "sap_hostname" Cell.toText = .ok i.sapHostname ∧
    row.read "system_replication" (Cell.toOption Cell.toText) = .ok i.systemReplication ∧
    row.read "updated_at" Cell.toInstant = .ok i.updatedAt := by
  unfold ofRow
  simp only [bind_eq_ok, return_eq_ok]
  constructor
  · rintro ⟨_, hagent, _, hsid, _, hnumber, _, htype, _, hfeatures, _, hname, _, hreplication, _,
      hupdated, rfl⟩
    exact ⟨hagent, hsid, hnumber, htype, hfeatures, hname, hreplication, hupdated⟩
  · rintro ⟨hagent, hsid, hnumber, htype, hfeatures, hname, hreplication, hupdated⟩
    exact ⟨_, hagent, _, hsid, _, hnumber, _, htype, _, hfeatures, _, hname, _, hreplication, _,
      hupdated, rfl⟩

theorem SlesSubscription.ofRow_eq_ok {row : Row} {s : SlesSubscription} :
    SlesSubscription.ofRow row = .ok s ↔
    row.agent "agent_id" = .ok s.agent ∧ row.read "identifier" Cell.toText = .ok s.identifier ∧
    row.read "version" Cell.toText = .ok s.version ∧ row.read "arch" Cell.toText = .ok s.arch ∧
    row.read "status" Cell.toText = .ok s.status ∧
    row.read "expires_at" (Cell.toOption Cell.toInstant) = .ok s.expiresAt ∧
    row.read "updated_at" Cell.toInstant = .ok s.updatedAt := by
  unfold ofRow
  simp only [bind_eq_ok, return_eq_ok]
  constructor
  · rintro ⟨_, hagent, _, hidentifier, _, hversion, _, harch, _, hstatus, _, hexpires, _, hupdated,
      rfl⟩
    exact ⟨hagent, hidentifier, hversion, harch, hstatus, hexpires, hupdated⟩
  · rintro ⟨hagent, hidentifier, hversion, harch, hstatus, hexpires, hupdated⟩
    exact ⟨_, hagent, _, hidentifier, _, hversion, _, harch, _, hstatus, _, hexpires, _, hupdated,
      rfl⟩

theorem ChecksResult.ofRow_eq_ok {row : Row} {c : ChecksResult} : ChecksResult.ofRow row = .ok c ↔
    row.read "group_id" Cell.toText = .ok c.groupId ∧
    row.named "health" CheckHealth.parse = .ok c.health ∧
    row.read "results" CheckResultEntry.listOfCell = .ok c.results ∧
    row.agent "reported_by" = .ok c.reportedBy ∧
    row.read "updated_at" Cell.toInstant = .ok c.updatedAt := by
  unfold ofRow
  simp only [bind_eq_ok, return_eq_ok]
  constructor
  · rintro ⟨_, hgroup, _, hhealth, _, hresults, _, hagent, _, hupdated, rfl⟩
    exact ⟨hgroup, hhealth, hresults, hagent, hupdated⟩
  · rintro ⟨hgroup, hhealth, hresults, hagent, hupdated⟩
    exact ⟨_, hgroup, _, hhealth, _, hresults, _, hagent, _, hupdated, rfl⟩

/-- A failure without a reason has an empty one, and a success none whatever stands there. -/
theorem Outcome.ofRow_eq_ok {row : Row} {o : Outcome} : Outcome.ofRow row = .ok o ↔
    row.read "last_outcome" Cell.toText = .ok o.kind ∧ ∀ reason, o = .failure reason →
      ∃ found, row.read "failure_reason" (Cell.toOption Cell.toText) = .ok found ∧
        found.getD "" = reason := by
  unfold ofRow
  rw [bind_eq_ok]
  constructor
  · rintro ⟨kind, hkind, h⟩
    split at h
    next heq =>
      subst heq
      cases h
      exact ⟨hkind, fun reason hf => by cases hf⟩
    next =>
      split at h
      next heq =>
        subst heq
        obtain ⟨found, hfound, h⟩ := bind_eq_ok.1 h
        cases h
        exact ⟨hkind, fun reason hf => ⟨found, hfound, Outcome.failure.inj hf⟩⟩
      next => cases h
  · rintro ⟨hkind, hreason⟩
    refine ⟨o.kind, hkind, ?_⟩
    cases o with
    | success => rfl
    | failure reason =>
      obtain ⟨found, hfound, rfl⟩ := hreason reason rfl
      have hother : (Outcome.failure (found.getD "")).kind ≠ "success" := by simp [Outcome.kind]
      rw [if_neg hother, hfound]
      rfl

theorem Subscription.ofRow_eq_ok {row : Row} {s : Subscription} : Subscription.ofRow row = .ok s ↔
    Outcome.ofRow row = .ok s.outcome ∧ row.agent "source" = .ok s.source ∧
    row.read "event_type" Cell.toText = .ok s.eventType.text ∧
    row.read "last_envelope_id" (Cell.toOption Cell.toInt) =
      .ok (s.lastEnvelope.map EnvelopeId.value) ∧
    row.read "last_processed_at" Cell.toInstant = .ok s.lastProcessedAt := by
  unfold ofRow
  simp only [bind_eq_ok, return_eq_ok]
  constructor
  · rintro ⟨_, houtcome, _, hsource, _, htype, last, hlast, _, htime, rfl⟩
    refine ⟨houtcome, hsource, htype, ?_, htime⟩
    simpa [Function.comp_def] using hlast
  · rintro ⟨houtcome, hsource, htype, hlast, htime⟩
    refine ⟨_, houtcome, _, hsource, _, htype, _, hlast, _, htime, ?_⟩
    simp [Function.comp_def]
namespace Row

variable {row : Row} {name : String}

theorem read_toText_eq_ok {s : String} : row.read name Cell.toText = .ok s ↔
    row.cell? name = some (.text s) ∨ row.cell? name = some (.varchar s) := by
  have hcell : ∀ c : Cell, c.toText = .ok s ↔ c = .text s ∨ c = .varchar s := by
    intro c
    cases c <;> simp [Cell.toText, Cell.refuse]
  rw [read_eq_ok]
  simp only [hcell]
  constructor
  · rintro ⟨c, hc, rfl | rfl⟩
    · exact .inl hc
    · exact .inr hc
  · rintro (hc | hc)
    · exact ⟨_, hc, .inl rfl⟩
    · exact ⟨_, hc, .inr rfl⟩

theorem Beyond.ne_of_lt {bound n : Nat} (h : row.Beyond name bound) (hn : n < bound) :
    row.cell? name ≠ some (.int8 n) := by
  intro hc
  obtain ⟨i, hi, hrange⟩ := h
  have hsame : i = n := Cell.int8.inj (Option.some.inj (hi.symm.trans hc))
  exact hrange ⟨by omega, by omega⟩

theorem Beyond.uint32 (h : row.Beyond name UInt32.size) (n : UInt32) : row.uint32 name ≠ .ok n :=
  fun hn => h.ne_of_lt n.toNat_lt (uint32_eq_ok.1 hn)

theorem Beyond.uint64 (h : row.Beyond name UInt64.size) (n : UInt64) : row.uint64 name ≠ .ok n :=
  fun hn => h.ne_of_lt n.toNat_lt (uint64_eq_ok.1 hn)

theorem Strange.read {text : α → String} (h : row.Strange name text) (a : α) :
    row.read name Cell.toText ≠ .ok (text a) := by
  intro hread
  obtain ⟨s, hc, hs⟩ := h
  have hsame : row.read name Cell.toText = .ok s := read_toText_eq_ok.2 hc
  exact hs a (Except.ok.inj (hread.symm.trans hsame))

theorem Strange.named {text : α → String} {parse : String → Except ValidationError α}
    (hparse : ∀ {s a}, parse s = .ok a ↔ text a = s) (h : row.Strange name text) (a : α) :
    row.named name parse ≠ .ok a := by
  intro hnamed
  obtain ⟨s, hread, hp⟩ := named_eq_ok.1 hnamed
  exact h.read a (hparse.1 hp ▸ hread)

end Row

theorem error_of_not_ok {x : Except ε α} (h : ∀ a, x ≠ .ok a) : ∃ e, x = .error e := by
  cases x with
  | error e => exact ⟨e, rfl⟩
  | ok a => exact absurd rfl (h a)

theorem Host.refused {row : Row} (h : row.Beyond "cpu_count" UInt32.size ∨
    row.Beyond "socket_count" UInt32.size ∨ row.Beyond "total_memory_mb" UInt64.size) :
    ∃ e, Host.ofRow row = .error e := by
  refine error_of_not_ok fun host hok => ?_
  obtain ⟨-, -, -, -, -, hcpu, hsocket, hmemory, -, -⟩ := Host.ofRow_eq_ok.1 hok
  rcases h with h | h | h
  · exact h.uint32 _ hcpu
  · exact h.uint32 _ hsocket
  · exact h.uint64 _ hmemory

theorem Cluster.refused {row : Row} (h : row.Beyond "resources_number" UInt32.size ∨
    row.Beyond "hosts_number" UInt32.size ∨ row.Strange "cluster_type" ClusterType.text) :
    ∃ e, Cluster.ofRow row = .error e := by
  refine error_of_not_ok fun cluster hok => ?_
  obtain ⟨-, -, htype, -, -, hresources, hhosts, -, -⟩ := Cluster.ofRow_eq_ok.1 hok
  rcases h with h | h | h
  · exact h.uint32 _ hresources
  · exact h.uint32 _ hhosts
  · exact h.named ClusterType.parse_eq_ok _ htype

theorem SapSystemInstance.refused {row : Row} (h : row.Strange "system_type" SapSystemType.text) :
    ∃ e, SapSystemInstance.ofRow row = .error e := by
  refine error_of_not_ok fun item hok => ?_
  obtain ⟨-, -, -, htype, -⟩ := SapSystemInstance.ofRow_eq_ok.1 hok
  exact h.named SapSystemType.parse_eq_ok _ htype

theorem ChecksResult.refused {row : Row} (h : row.Strange "health" CheckHealth.text) :
    ∃ e, ChecksResult.ofRow row = .error e := by
  refine error_of_not_ok fun result hok => ?_
  obtain ⟨-, hhealth, -⟩ := ChecksResult.ofRow_eq_ok.1 hok
  exact h.named CheckHealth.parse_eq_ok _ hhealth

theorem Subscription.refused {row : Row} (h : row.Strange "last_outcome" Outcome.kind) :
    ∃ e, Subscription.ofRow row = .error e := by
  refine error_of_not_ok fun subscription hok => ?_
  obtain ⟨houtcome, -⟩ := Subscription.ofRow_eq_ok.1 hok
  exact h.read _ (Outcome.ofRow_eq_ok.1 houtcome).1

end AgentFacts
