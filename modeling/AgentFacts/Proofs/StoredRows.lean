import AgentFacts.Proofs.ReportedSets
import AgentFacts.Proofs.RowReading

namespace AgentFacts

/-- What a column holds after a value has been bound to it. A list of texts is bound in conditions
only and is no value of a column. -/
def Param.cell : Param → Cell
  | .null => .null
  | .int i => .int8 i
  | .text s => .text s
  | .timestamptz t => .timestamptz t
  | .jsonb j => .jsonb j
  | .texts _ => .null

/-- The row that an insertion leaves where there was none: each column with its value, and null in
those that are not written. -/
def Insertion.row (i : Insertion) (unwritten : List String) : Row where
  columns := i.columns.zip (i.params.map Param.cell) ++ unwritten.map fun name => (name, .null)

/-- The numbers that are bound fit signed columns of 64 bits. -/
def Insertion.Fits (i : Insertion) : Prop :=
  ∀ n, Param.int n ∈ i.params → -9223372036854775808 ≤ n ∧ n ≤ 9223372036854775807

theorem mapM_of_forall {decode : β → Except ε α} {encode : α → β} {items : List α}
    (h : ∀ a ∈ items, decode (encode a) = .ok a) :
    (items.map encode).mapM decode = .ok items := by
  induction items with
  | nil => rfl
  | cons a items ih =>
    rw [List.forall_mem_cons] at h
    rw [List.map_cons, List.mapM_cons, h.1, ih h.2]
    rfl

/-- A list that is written item by item reads as what it was. -/
theorem Cell.toList_of_decode {decode : Json → Decoded α} {encode : α → Json}
    {item : Nat → Json.Reader β} (h : ∀ a, decode (encode a) = .ok a) (items : List α) :
    Cell.toList decode item (.jsonb (.list (items.map encode))) = .ok items := by
  have hlist : Decode.list decode (.list (items.map encode)) = .ok items :=
    mapM_of_forall fun a _ => h a
  change Cell.decodeJson _ _ _ = _
  unfold Cell.decodeJson
  rw [hlist]

theorem CheckHealth.decode_encode (h : CheckHealth) : decode (encode h) = .ok h := by
  cases h <;> rfl

theorem CheckResultEntry.decode_encode (e : CheckResultEntry) : decode (encode e) = .ok e := by
  obtain ⟨checkId, agent, result⟩ := e
  cases result <;> rfl

/-- The columns of a text that may be missing, and of a time that may be. -/
theorem Param.toOption_ofTextOption (text : Option String) :
    Cell.toOption Cell.toText (ofTextOption text).cell = .ok text := by
  cases text <;> rfl

theorem Param.toInstant_ofInstant {i : Instant} (h : i.IsMicros) :
    Cell.toInstant (ofInstant i).cell = .ok i :=
  congrArg Except.ok (Instant.cutToMicros_of_isMicros h)

theorem Param.toOption_ofInstantOption {time : Option Instant} (h : ∀ i ∈ time, i.IsMicros) :
    Cell.toOption Cell.toInstant (ofInstantOption time).cell = .ok time := by
  cases time with
  | none => rfl
  | some i =>
    have hcut := Instant.cutToMicros_of_isMicros (h i rfl)
    exact congrArg (fun i => Except.ok (some i)) hcut

theorem Param.toTexts_ofTexts (items : List String) :
    Cell.toTexts (ofTexts items).cell = .ok items := by
  have htext : ∀ s : String, Decode.text (.text s) = .ok s := fun _ => rfl
  exact Cell.toList_of_decode htext items

/-- A host is read back as long as it has shown no sign of life since, which is not written. -/
theorem Host.ofRow_row {h : Host} (hupdated : h.updatedAt.IsMicros)
    (hbeat : h.lastHeartbeatAt = none) :
    Host.ofRow (h.insertion.row ["last_heartbeat_at"]) = .ok h := by
  refine Host.ofRow_eq_ok.2 ⟨Row.agent_of_cell rfl, Row.read_of_cell rfl rfl,
    Row.read_of_cell rfl (Param.toTexts_ofTexts _), Row.read_of_cell rfl rfl,
    Row.read_of_cell rfl rfl, Row.uint32_eq_ok.2 rfl, Row.uint32_eq_ok.2 rfl,
    Row.uint64_eq_ok.2 rfl, Row.read_of_cell rfl (Param.toInstant_ofInstant hupdated),
    Row.read_of_cell rfl ?_⟩
  rw [hbeat]
  rfl

theorem Cluster.ofRow_row {c : Cluster} (hupdated : c.updatedAt.IsMicros) :
    Cluster.ofRow (c.insertion.row []) = .ok c :=
  Cluster.ofRow_eq_ok.2 ⟨Row.read_of_cell rfl rfl, Row.read_of_cell rfl rfl,
    Row.named_of_cell rfl (ClusterType.parse_eq_ok.2 rfl),
    Row.read_of_cell rfl (Param.toOption_ofTextOption _),
    Row.read_of_cell rfl (Param.toTexts_ofTexts _), Row.uint32_eq_ok.2 rfl,
    Row.uint32_eq_ok.2 rfl, Row.agent_of_cell rfl,
    Row.read_of_cell rfl (Param.toInstant_ofInstant hupdated)⟩

theorem SapSystemInstance.ofRow_row {i : SapSystemInstance} (hupdated : i.updatedAt.IsMicros) :
    SapSystemInstance.ofRow ((i.insertion i.agent).row []) = .ok i :=
  SapSystemInstance.ofRow_eq_ok.2 ⟨Row.agent_of_cell rfl, Row.read_of_cell rfl rfl,
    Row.read_of_cell rfl rfl, Row.named_of_cell rfl (SapSystemType.parse_eq_ok.2 rfl),
    Row.read_of_cell rfl rfl, Row.read_of_cell rfl rfl,
    Row.read_of_cell rfl (Param.toOption_ofTextOption _),
    Row.read_of_cell rfl (Param.toInstant_ofInstant hupdated)⟩

theorem SlesSubscription.ofRow_row {s : SlesSubscription} (hupdated : s.updatedAt.IsMicros)
    (hexpires : ∀ i ∈ s.expiresAt, i.IsMicros) :
    SlesSubscription.ofRow ((s.insertion s.agent).row []) = .ok s :=
  SlesSubscription.ofRow_eq_ok.2 ⟨Row.agent_of_cell rfl, Row.read_of_cell rfl rfl,
    Row.read_of_cell rfl rfl, Row.read_of_cell rfl rfl, Row.read_of_cell rfl rfl,
    Row.read_of_cell rfl (Param.toOption_ofInstantOption hexpires),
    Row.read_of_cell rfl (Param.toInstant_ofInstant hupdated)⟩

theorem ChecksResult.ofRow_row {c : ChecksResult} (hupdated : c.updatedAt.IsMicros) :
    ChecksResult.ofRow (c.insertion.row []) = .ok c :=
  ChecksResult.ofRow_eq_ok.2 ⟨Row.read_of_cell rfl rfl,
    Row.named_of_cell rfl (CheckHealth.parse_eq_ok.2 rfl),
    Row.read_of_cell rfl (Cell.toList_of_decode CheckResultEntry.decode_encode _),
    Row.agent_of_cell rfl, Row.read_of_cell rfl (Param.toInstant_ofInstant hupdated)⟩

/-- The row of a pair without one is the one that its first outcome makes. -/
theorem Subscription.ofRow_row {r : OutcomeRecord} (hprocessed : r.processedAt.IsMicros) :
    Subscription.ofRow (r.insertion.row []) = .ok (.ofRecord r) := by
  refine Subscription.ofRow_eq_ok.2 ⟨?_, Row.agent_of_cell rfl, Row.read_of_cell rfl rfl, ?_,
    Row.read_of_cell rfl (Param.toInstant_ofInstant hprocessed)⟩
  · refine Outcome.ofRow_eq_ok.2 ⟨Row.read_of_cell rfl rfl, fun reason hf => ?_⟩
    refine ⟨r.outcome.reason, Row.read_of_cell rfl (Param.toOption_ofTextOption _), ?_⟩
    have hreason : r.outcome = .failure reason := hf
    rw [hreason]
    rfl
  · refine Row.read_of_cell rfl ?_
    unfold Subscription.ofRecord
    dsimp only
    split <;> rfl

/-- The rows that a change inserts. -/
def Write.insertions : Write → List Insertion
  | .upsertHost host => [host.insertion]
  | .deleteHost _ => []
  | .recordHeartbeat _ _ => []
  | .upsertCluster cluster => [cluster.insertion]
  | .replaceSapInstances agent items => items.map (·.insertion agent)
  | .replaceSlesSubscriptions agent items => items.map (·.insertion agent)
  | .upsertChecksResult result => [result.insertion]

/-- A statement puts a row into its table, whatever it does if there is one already. -/
structure Statement.Inserts (s : Statement) (i : Insertion) : Prop where
  text : ∃ rest, s.text = i.text ++ rest
  params : s.params = i.params

/-- In an open transaction a change is nothing but statements that are sent, which insert its rows,
and all of its numbers fit. -/
structure Write.Passes (w : Write) : Prop where
  sent : ∃ statements : List Statement, (∀ s : Session, s.inTransaction = true →
      (Session.write w).run s =
        (Session.withError ProjectionError.database (Session.change statements)).run s) ∧
    ∀ i ∈ w.insertions, ∃ statement ∈ statements, statement.Inserts i
  fits : ∀ i ∈ w.insertions, i.Fits

theorem Insertion.inserts_of_upsertText {s : Statement} {i : Insertion} {key : String}
    (htext : s.text = i.upsertText key) (hparams : s.params = i.params) : s.Inserts i := by
  refine ⟨?_, hparams⟩
  rw [htext]
  unfold upsertText
  exact ⟨_, by rw [String.append_assoc, String.append_assoc, String.append_assoc]⟩

theorem Insertion.inserts_of_text {s : Statement} {i : Insertion} (htext : s.text = i.text)
    (hparams : s.params = i.params) : s.Inserts i :=
  ⟨⟨"", by rw [htext, String.append_empty]⟩, hparams⟩

theorem OutcomeRecord.inserts_record (r : OutcomeRecord) :
    (Statement.record r).Inserts r.insertion := by
  refine ⟨⟨Statement.keepGreatest ++ (" RETURNING " ++ Statement.ledgerColumns), ?_⟩, rfl⟩
  have htext : (Statement.record r).text =
      r.insertion.text ++ Statement.keepGreatest ++ " RETURNING " ++ Statement.ledgerColumns := rfl
  rw [htext, String.append_assoc, String.append_assoc]

theorem Session.write_of_checkRange {w : Write} (h : checkRange w = .ok ()) (s : Session)
    (hs : s.inTransaction = true) :
    (write w).run s = (withError .database (changeBy w)).run s := by
  unfold write
  rw [h]
  change (if s.inTransaction then (withError ProjectionError.database (changeBy w)).run s
    else (.error .transactionClosed, s)) = _
  rw [if_pos hs]

theorem Host.insertion_fits {h : Host} (hvalid : h.Valid) : h.insertion.Fits := by
  intro n hn
  simp only [Insertion.params, Host.insertion, Param.ofInstant, Param.ofTexts, List.map_cons,
    List.map_nil, List.mem_cons, List.not_mem_nil, reduceCtorEq, false_or, or_false,
    Param.int.injEq] at hn
  have hcpu := h.cpuCount.toNat_lt
  have hsocket := h.socketCount.toNat_lt
  have hmemory := hvalid.totalMemoryMb
  rcases hn with rfl | rfl | rfl <;> omega

theorem Cluster.insertion_fits (c : Cluster) : c.insertion.Fits := by
  intro n hn
  have hsid : Param.int n ≠ Param.ofTextOption c.sid := by cases c.sid <;> simp [Param.ofTextOption]
  simp only [Insertion.params, Cluster.insertion, Param.ofInstant, Param.ofTexts, List.map_cons,
    List.map_nil, List.mem_cons, List.not_mem_nil, reduceCtorEq, hsid, false_or, or_false,
    Param.int.injEq] at hn
  have hresources := c.resourcesNumber.toNat_lt
  have hhosts := c.hostsNumber.toNat_lt
  rcases hn with rfl | rfl <;> omega

theorem SapSystemInstance.insertion_fits (agent : AgentId) (i : SapSystemInstance) :
    (i.insertion agent).Fits := by
  intro n hn
  have hreplication : Param.int n ≠ Param.ofTextOption i.systemReplication := by
    cases i.systemReplication <;> simp [Param.ofTextOption]
  simp [Insertion.params, SapSystemInstance.insertion, Param.ofInstant, hreplication] at hn

theorem SlesSubscription.insertion_fits (agent : AgentId) (s : SlesSubscription) :
    (s.insertion agent).Fits := by
  intro n hn
  have hexpires : Param.int n ≠ Param.ofInstantOption s.expiresAt := by
    cases s.expiresAt <;> simp [Param.ofInstantOption, Param.ofInstant]
  simp [Insertion.params, SlesSubscription.insertion, Param.ofInstant, hexpires] at hn

theorem ChecksResult.insertion_fits (c : ChecksResult) : c.insertion.Fits := by
  intro n hn
  simp [Insertion.params, ChecksResult.insertion, Param.ofInstant] at hn

namespace Write

theorem passes_upsertHost {host : Host} (hvalid : host.Valid) : (upsertHost host).Passes where
  sent := by
    have hmemory : host.totalMemoryMb.toNat < Nat.pow 2 63 :=
      Nat.lt_succ_of_le hvalid.totalMemoryMb
    exact ⟨[.upsertHost host], Session.write_of_checkRange (if_pos hmemory),
      List.forall_mem_singleton.2
        ⟨_, List.mem_singleton.2 rfl, Insertion.inserts_of_upsertText rfl rfl⟩⟩
  fits := List.forall_mem_singleton.2 (Host.insertion_fits hvalid)

theorem passes_upsertCluster (cluster : Cluster) : (upsertCluster cluster).Passes where
  sent := ⟨[.upsertCluster cluster], Session.write_of_checkRange rfl,
    List.forall_mem_singleton.2
      ⟨_, List.mem_singleton.2 rfl, Insertion.inserts_of_upsertText rfl rfl⟩⟩
  fits := List.forall_mem_singleton.2 cluster.insertion_fits

theorem passes_replaceSapInstances (agent : AgentId) (items : List SapSystemInstance) :
    (replaceSapInstances agent items).Passes where
  sent := ⟨.clearSapInstances agent :: items.map (.addSapInstance agent),
    Session.write_of_checkRange rfl, List.forall_mem_map.2 fun i hi =>
      ⟨.addSapInstance agent i, List.mem_cons_of_mem _ (List.mem_map_of_mem hi),
        Insertion.inserts_of_text rfl rfl⟩⟩
  fits := List.forall_mem_map.2 fun i _ => i.insertion_fits agent

theorem passes_replaceSlesSubscriptions (agent : AgentId) (items : List SlesSubscription) :
    (replaceSlesSubscriptions agent items).Passes where
  sent := ⟨.clearSlesSubscriptions agent :: items.map (.addSlesSubscription agent),
    Session.write_of_checkRange rfl, List.forall_mem_map.2 fun s hs =>
      ⟨.addSlesSubscription agent s, List.mem_cons_of_mem _ (List.mem_map_of_mem hs),
        Insertion.inserts_of_text rfl rfl⟩⟩
  fits := List.forall_mem_map.2 fun s _ => s.insertion_fits agent

theorem passes_upsertChecksResult (result : ChecksResult) :
    (upsertChecksResult result).Passes where
  sent := ⟨[.upsertChecksResult result], Session.write_of_checkRange rfl,
    List.forall_mem_singleton.2
      ⟨_, List.mem_singleton.2 rfl, Insertion.inserts_of_upsertText rfl rfl⟩⟩
  fits := List.forall_mem_singleton.2 result.insertion_fits

end Write

/-- A host that has just been reported has shown no sign of life yet. -/
theorem Host.times_ofReport {agent : AgentId} {report : HostReport} {time : Instant} {host : Host}
    (h : Host.ofReport agent report time = .ok host) :
    host.updatedAt = time ∧ host.lastHeartbeatAt = none := by
  unfold ofReport at h
  obtain ⟨_, _, h⟩ := ok_of_bind_ok h
  dsimp only at h
  split at h
  · cases h
  · cases h
    exact ⟨rfl, rfl⟩

theorem Cluster.updatedAt_ofReport {agent : AgentId} {report : ClusterReport} {time : Instant}
    {cluster : Cluster} (h : Cluster.ofReport agent report time = .ok cluster) :
    cluster.updatedAt = time := by
  unfold ofReport at h
  obtain ⟨_, _, h⟩ := ok_of_bind_ok h
  dsimp only at h
  split at h
  · obtain ⟨_, _, h⟩ := ok_of_bind_ok h
    cases h
    rfl
  · cases h
    rfl

theorem ChecksResult.updatedAt_ofReport {agent : AgentId} {report : ChecksReport} {time : Instant}
    {result : ChecksResult} (h : ChecksResult.ofReport agent report time = .ok result) :
    result.updatedAt = time := by
  unfold ofReport at h
  obtain ⟨_, _, h⟩ := ok_of_bind_ok h
  obtain ⟨_, _, h⟩ := ok_of_bind_ok h
  split at h
  · cases h
  · cases h
    rfl

theorem SapSystemInstance.origin_ofReport {agent : AgentId} {report : SapSystemReport}
    {time : Instant} {items : List SapSystemInstance}
    (h : SapSystemInstance.ofReport agent report time = .ok items) :
    ∀ i ∈ items, i.agent = agent ∧ i.updatedAt = time := by
  obtain ⟨-, rfl⟩ := (checks agent time).read_eq_ok.1 h
  exact List.forall_mem_map.2 fun _ _ => ⟨rfl, rfl⟩

theorem SlesSubscription.origin_ofReport {agent : AgentId} {report : SlesReport} {time : Instant}
    {items : List SlesSubscription} (h : SlesSubscription.ofReport agent report time = .ok items) :
    ∀ s ∈ items, s.agent = agent ∧ s.updatedAt = time := by
  obtain ⟨-, rfl⟩ := (checks agent time).read_eq_ok.1 h
  exact List.forall_mem_map.2 fun _ _ => ⟨rfl, rfl⟩

/-- What reports describe, and what is noted in the ledger, is read back from the row that it leaves
just as it was, as long as its times are whole microseconds; nothing keeps it from being sent. A row
with a number out of its range, or with a text that stands for nothing, is refused. -/
theorem stored_rows_read_back (agent : AgentId) (time : Instant) (htime : time.IsMicros) :
    (∀ report host, Host.ofReport agent report time = .ok host →
      (Write.upsertHost host).Passes ∧
        Host.ofRow (host.insertion.row ["last_heartbeat_at"]) = .ok host) ∧
    (∀ report cluster, Cluster.ofReport agent report time = .ok cluster →
      (Write.upsertCluster cluster).Passes ∧
        Cluster.ofRow (cluster.insertion.row []) = .ok cluster) ∧
    (∀ report items, SapSystemInstance.ofReport agent report time = .ok items →
      (Write.replaceSapInstances agent items).Passes ∧
        ∀ i ∈ items, SapSystemInstance.ofRow ((i.insertion agent).row []) = .ok i) ∧
    (∀ report items, SlesSubscription.ofReport agent report time = .ok items →
      (∀ s ∈ items, ∀ expiry ∈ s.expiresAt, expiry.IsMicros) →
      (Write.replaceSlesSubscriptions agent items).Passes ∧
        ∀ s ∈ items, SlesSubscription.ofRow ((s.insertion agent).row []) = .ok s) ∧
    (∀ report result, ChecksResult.ofReport agent report time = .ok result →
      (Write.upsertChecksResult result).Passes ∧
        ChecksResult.ofRow (result.insertion.row []) = .ok result) ∧
    (∀ r : OutcomeRecord, r.processedAt.IsMicros → (Statement.record r).Inserts r.insertion ∧
      Subscription.ofRow (r.insertion.row []) = .ok (.ofRecord r)) ∧
    ∀ row : Row,
      (row.Beyond "cpu_count" UInt32.size ∨ row.Beyond "socket_count" UInt32.size ∨
        row.Beyond "total_memory_mb" UInt64.size → ∃ e, Host.ofRow row = .error e) ∧
      (row.Beyond "resources_number" UInt32.size ∨ row.Beyond "hosts_number" UInt32.size ∨
        row.Strange "cluster_type" ClusterType.text → ∃ e, Cluster.ofRow row = .error e) ∧
      (row.Strange "system_type" SapSystemType.text →
        ∃ e, SapSystemInstance.ofRow row = .error e) ∧
      (row.Strange "health" CheckHealth.text → ∃ e, ChecksResult.ofRow row = .error e) ∧
      (row.Strange "last_outcome" Outcome.kind → ∃ e, Subscription.ofRow row = .error e) := by
  refine ⟨fun report host h => ?_, fun report cluster h => ?_, fun report items h => ?_,
    fun report items h hexpiries => ?_, fun report result h => ?_,
    fun r hprocessed => ⟨r.inserts_record, Subscription.ofRow_row hprocessed⟩, fun row =>
      ⟨Host.refused, Cluster.refused, SapSystemInstance.refused, ChecksResult.refused,
        Subscription.refused⟩⟩
  · obtain ⟨hupdated, hbeat⟩ := Host.times_ofReport h
    exact ⟨Write.passes_upsertHost (Host.valid_ofReport h),
      Host.ofRow_row (hupdated ▸ htime) hbeat⟩
  · exact ⟨Write.passes_upsertCluster cluster,
      Cluster.ofRow_row (Cluster.updatedAt_ofReport h ▸ htime)⟩
  · refine ⟨Write.passes_replaceSapInstances agent items, fun i hi => ?_⟩
    obtain ⟨rfl, rfl⟩ := SapSystemInstance.origin_ofReport h i hi
    exact SapSystemInstance.ofRow_row htime
  · refine ⟨Write.passes_replaceSlesSubscriptions agent items, fun s hs => ?_⟩
    obtain ⟨rfl, rfl⟩ := SlesSubscription.origin_ofReport h s hs
    exact SlesSubscription.ofRow_row htime (hexpiries s hs)
  · exact ⟨Write.passes_upsertChecksResult result,
      ChecksResult.ofRow_row (ChecksResult.updatedAt_ofReport h ▸ htime)⟩

/-- A host with the largest counts there are, a subscription that expires, a failure, and a row with
one more than fits. -/
theorem stored_rows_read_back_largest :
    let time : Instant := ⟨1700000000, 123456000⟩
    let report : HostReport :=
      ⟨"node01", ["10.0.0.1"], "", "", 4294967295, 0, 9223372036854775807⟩
    let sles : SlesReport := ⟨[⟨"SLES", "15.3", "x86_64", "Registered", some time⟩]⟩
    let failure : OutcomeRecord := ⟨⟨"n1"⟩, .hostDiscovered, ⟨7⟩, .failure "gone", time⟩
    let row : Row := ⟨[("cpu_count", .int8 4294967296)]⟩
    time.IsMicros ∧
      (∃ host, Host.ofReport ⟨"n1"⟩ report time = .ok host ∧
        Host.ofRow (host.insertion.row ["last_heartbeat_at"]) = .ok host) ∧
      (∃ items, SlesSubscription.ofReport ⟨"n1"⟩ sles time = .ok items ∧ items.length = 1 ∧
        (∀ s ∈ items, ∀ expiry ∈ s.expiresAt, expiry.IsMicros) ∧
        ∀ s ∈ items, SlesSubscription.ofRow ((s.insertion ⟨"n1"⟩).row []) = .ok s) ∧
      Subscription.ofRow (failure.insertion.row []) = .ok (.ofRecord failure) ∧
      row.Beyond "cpu_count" UInt32.size ∧ ∃ e, Host.ofRow row = .error e := by
  have hreport : Host.ofReport ⟨"n1"⟩
      ⟨"node01", ["10.0.0.1"], "", "", 4294967295, 0, 9223372036854775807⟩
      ⟨1700000000, 123456000⟩ = .ok ⟨⟨"n1"⟩, "node01", ["10.0.0.1"], "", "", 4294967295, 0,
        9223372036854775807, ⟨1700000000, 123456000⟩, none⟩ := rfl
  have hitems : SlesSubscription.ofReport ⟨"n1"⟩
      ⟨[⟨"SLES", "15.3", "x86_64", "Registered", some ⟨1700000000, 123456000⟩⟩]⟩
      ⟨1700000000, 123456000⟩ = .ok [⟨⟨"n1"⟩, "SLES", "15.3", "x86_64", "Registered",
        some ⟨1700000000, 123456000⟩, ⟨1700000000, 123456000⟩⟩] := rfl
  intro time report sles failure row
  have htime : time.IsMicros := ⟨by decide, by decide⟩
  obtain ⟨hhost, -, -, hsles, -, hrecord, hrefused⟩ := stored_rows_read_back ⟨"n1"⟩ time htime
  have hexpiries : ∀ s ∈ ([⟨⟨"n1"⟩, "SLES", "15.3", "x86_64", "Registered", some time, time⟩] :
      List SlesSubscription), ∀ expiry ∈ s.expiresAt, expiry.IsMicros := by
    intro s hs expiry hexpiry
    obtain rfl := List.mem_singleton.1 hs
    obtain rfl := Option.some.inj hexpiry
    exact htime
  have hbeyond : row.Beyond "cpu_count" UInt32.size := ⟨4294967296, rfl, by decide⟩
  exact ⟨htime, ⟨_, hreport, (hhost report _ hreport).2⟩,
    ⟨_, hitems, rfl, hexpiries, (hsles sles _ hitems hexpiries).2⟩, (hrecord failure htime).2, hbeyond,
    (hrefused row).1 (.inl hbeyond)⟩

end AgentFacts
