import AgentFacts.Database.Session
import AgentFacts.ProjectionError

namespace AgentFacts

namespace Row

def read (row : Row) (name : String) (cell : Cell.Reader α) : Except ProjectionError α :=
  (row.get name cell).mapError .database

/-- Reads an unsigned count from a column of signed numbers of 64 bits. -/
def count (row : Row) (name : String) (bound : Nat) : Except ProjectionError Nat := do
  let i ← row.read name Cell.toInt
  if 0 ≤ i ∧ i < bound then return i.toNat
  else throw (.validation (.outOfRange name (toString i)))

def uint32 (row : Row) (name : String) : Except ProjectionError UInt32 :=
  Nat.toUInt32 <$> row.count name (Nat.pow 2 32)

def uint64 (row : Row) (name : String) : Except ProjectionError UInt64 :=
  Nat.toUInt64 <$> row.count name (Nat.pow 2 64)

/-- Reads a name and looks up what it stands for. -/
def named (row : Row) (name : String) (parse : String → Except ValidationError α) :
    Except ProjectionError α := do
  (parse (← row.read name Cell.toText)).mapError .validation

def agent (row : Row) (name : String) : Except ProjectionError AgentId :=
  AgentId.mk <$> row.read name Cell.toText

end Row

/-- The outcome that a row tells; a failure without a reason has an empty one. -/
def Outcome.ofRow (row : Row) : Except ProjectionError Outcome := do
  let kind ← row.read "last_outcome" Cell.toText
  if kind = "success" then return .success
  else if kind = "failure" then
    return .failure ((← row.read "failure_reason" (Cell.toOption Cell.toText)).getD "")
  else throw (.validation (.unknownVariant "outcome" kind))

def Subscription.ofRow (row : Row) : Except ProjectionError Subscription := do
  let outcome ← Outcome.ofRow row
  return {
    source := ← row.agent "source"
    eventType := ⟨← row.read "event_type" Cell.toText⟩
    lastEnvelope := (← row.read "last_envelope_id" (Cell.toOption Cell.toInt)).map EnvelopeId.mk
    lastProcessedAt := ← row.read "last_processed_at" Cell.toInstant
    outcome }

def Host.ofRow (row : Row) : Except ProjectionError Host := do
  return {
    agent := ← row.agent "agent_id"
    hostname := ← row.read "hostname" Cell.toText
    ipAddresses := ← row.read "ip_addresses" Cell.toTexts
    osVersion := ← row.read "os_version" Cell.toText
    agentVersion := ← row.read "agent_version" Cell.toText
    cpuCount := ← row.uint32 "cpu_count"
    socketCount := ← row.uint32 "socket_count"
    totalMemoryMb := ← row.uint64 "total_memory_mb"
    updatedAt := ← row.read "updated_at" Cell.toInstant
    lastHeartbeatAt := ← row.read "last_heartbeat_at" (Cell.toOption Cell.toInstant) }

def Cluster.ofRow (row : Row) : Except ProjectionError Cluster := do
  return {
    id := ← row.read "id" Cell.toText
    name := ← row.read "name" Cell.toText
    clusterType := ← row.named "cluster_type" ClusterType.parse
    sid := ← row.read "sid" (Cell.toOption Cell.toText)
    nodes := ← row.read "nodes" Cell.toTexts
    resourcesNumber := ← row.uint32 "resources_number"
    hostsNumber := ← row.uint32 "hosts_number"
    reportedBy := ← row.agent "reported_by"
    updatedAt := ← row.read "updated_at" Cell.toInstant }

def SapSystemInstance.ofRow (row : Row) : Except ProjectionError SapSystemInstance := do
  return {
    agent := ← row.agent "agent_id"
    sid := ← row.read "sid" Cell.toText
    instanceNumber := ← row.read "instance_number" Cell.toText
    systemType := ← row.named "system_type" SapSystemType.parse
    features := ← row.read "features" Cell.toText
    sapHostname := ← row.read "sap_hostname" Cell.toText
    systemReplication := ← row.read "system_replication" (Cell.toOption Cell.toText)
    updatedAt := ← row.read "updated_at" Cell.toInstant }

def SlesSubscription.ofRow (row : Row) : Except ProjectionError SlesSubscription := do
  return {
    agent := ← row.agent "agent_id"
    identifier := ← row.read "identifier" Cell.toText
    version := ← row.read "version" Cell.toText
    arch := ← row.read "arch" Cell.toText
    status := ← row.read "status" Cell.toText
    expiresAt := ← row.read "expires_at" (Cell.toOption Cell.toInstant)
    updatedAt := ← row.read "updated_at" Cell.toInstant }

namespace CheckResultEntry

def shape : Json.RecordShape where
  name := form.name
  fields := [
    ("check_id", .text), ("agent_id", .text),
    ("result", .variant (CheckHealth.all.map CheckHealth.text))]
  optional := []

def listOfCell : Cell.Reader (List CheckResultEntry) :=
  Cell.toList CheckResultEntry.decode shape.read

end CheckResultEntry

def ChecksResult.ofRow (row : Row) : Except ProjectionError ChecksResult := do
  return {
    groupId := ← row.read "group_id" Cell.toText
    health := ← row.named "health" CheckHealth.parse
    results := ← row.read "results" CheckResultEntry.listOfCell
    reportedBy := ← row.agent "reported_by"
    updatedAt := ← row.read "updated_at" Cell.toInstant }

namespace Session

abbrev ModelStep (α : Type) := Step ProjectionError α

def within (step : ModelStep α) : ModelStep α :=
  .mk fun s =>
    if s.inTransaction then step.run s else (.error .transactionClosed, s)

def begin : ModelStep Unit :=
  withError .database do
    connect
    sendBegin
    modify fun s => { s with inTransaction := true }

/-- Takes note that the transaction is over. -/
def leave : ModelStep Unit :=
  modify fun s => { s with inTransaction := false }

def commit : ModelStep Unit :=
  within do
    leave
    withError .database (endBy sendCommit)

def rollback : ModelStep Unit :=
  within do
    leave
    withError .database (endBy sendRollback)

/-- Lets go of the transaction; one that is open is undone. -/
def drop : StateM Session Unit := do
  let _ ← rollbackOnce.run
where
  rollbackOnce : ModelStep Unit :=
    within do
      leave
      withError .database sendRollback

/-- Sends statements that change rows, whether they find any or not. -/
def change (statements : List Statement) : Step DatabaseError Bool := do
  statements.forM fun statement => do
    let _ ← send statement
  return true

/-- The statements of a transaction that make a change, and whether they found a row to work on; an
insertion needs none. -/
def changeBy : Write → Step DatabaseError Bool
  | .upsertHost host => change [.upsertHost host]
  | .deleteHost agent => changes (.deleteHost agent)
  | .recordHeartbeat agent time => changes (.recordHeartbeat agent time)
  | .upsertCluster cluster => change [.upsertCluster cluster]
  | .replaceSapInstances agent instances =>
    change (.clearSapInstances agent :: instances.map (.addSapInstance agent))
  | .replaceSlesSubscriptions agent subscriptions =>
    change (.clearSlesSubscriptions agent :: subscriptions.map (.addSlesSubscription agent))
  | .upsertChecksResult result => change [.upsertChecksResult result]

/-- Refuses a host whose memory does not fit a column of signed numbers of 64 bits. -/
def checkRange : Write → Except ValidationError Unit
  | .upsertHost host =>
    if host.totalMemoryMb.toNat < Nat.pow 2 63 then .ok ()
    else .error (.outOfRange "total_memory_mb" (toString host.totalMemoryMb.toNat))
  | _ => .ok ()

def write (w : Write) : ModelStep Bool := do
  withError .validation (liftExcept (checkRange w))
  within (withError .database (changeBy w))

/-- The ledger row of a pair, locked. For a pair without a row one is inserted first, so that two
transactions cannot both take it for new. -/
def find (key : LedgerKey) : ModelStep (Option Subscription) :=
  within do
    let claimed ← withError .database (rows (.claim key))
    if claimed.isEmpty then
      let locked ← withError .database (rows (.lockRow key))
      liftExcept (locked.head?.mapM Subscription.ofRow)
    else return none

/-- Writes an outcome and reads the row that comes of it. -/
def upsertOutcome (r : OutcomeRecord) : ModelStep Subscription := do
  let row ← withError .database (row (.record r))
  liftExcept (Subscription.ofRow row)

def recordIn (r : OutcomeRecord) : ModelStep Subscription :=
  within (upsertOutcome r)

def record (r : OutcomeRecord) : ModelStep Subscription := do
  withError .database connect
  upsertOutcome r

def first (question : ModelRead) (ofRow : Row → Except ProjectionError α) :
    ModelStep (Option α) := do
  let rows ← withError .database do
    connect
    rows (.read question)
  liftExcept (rows.head?.mapM ofRow)

def every (question : ModelRead) (ofRow : Row → Except ProjectionError α) :
    ModelStep (List α) := do
  let rows ← withError .database do
    connect
    rows (.read question)
  liftExcept (rows.mapM ofRow)

def read : (r : ModelRead) → ModelStep r.Answer
  | .host agent => first (.host agent) Host.ofRow
  | .hosts => every .hosts Host.ofRow
  | .cluster id => first (.cluster id) Cluster.ofRow
  | .clusters => every .clusters Cluster.ofRow
  | .sapInstances agent => every (.sapInstances agent) SapSystemInstance.ofRow
  | .slesSubscriptions agent => every (.slesSubscriptions agent) SlesSubscription.ofRow
  | .checksResult group => first (.checksResult group) ChecksResult.ofRow
  | .subscription source eventType =>
    first (.subscription source eventType) Subscription.ofRow
  | .subscriptions => every .subscriptions Subscription.ofRow
  | .subscriptionsOf source => every (.subscriptionsOf source) Subscription.ofRow

end Session

end AgentFacts
