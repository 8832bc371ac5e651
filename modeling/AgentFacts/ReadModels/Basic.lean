import AgentFacts.Checks
import AgentFacts.Cluster
import AgentFacts.Host
import AgentFacts.Ledger
import AgentFacts.SlesSubscription
import AgentFacts.Table

namespace AgentFacts

structure ReadModels where
  ledger : Table LedgerKey Subscription
  hosts : Table AgentId Host
  clusters : Table String Cluster
  sapInstances : Table AgentId (List SapSystemInstance)
  slesSubscriptions : Table AgentId (List SlesSubscription)
  checksResults : Table String ChecksResult
deriving DecidableEq, Inhabited

inductive Write where
  | upsertHost (host : Host)
  | deleteHost (agent : AgentId)
  | recordHeartbeat (agent : AgentId) (time : Instant)
  | upsertCluster (cluster : Cluster)
  | replaceSapInstances (agent : AgentId) (instances : List SapSystemInstance)
  | replaceSlesSubscriptions (agent : AgentId) (subscriptions : List SlesSubscription)
  | upsertChecksResult (result : ChecksResult)
deriving DecidableEq

namespace ReadModels

def empty : ReadModels where
  ledger := .empty
  hosts := .empty
  clusters := .empty
  sapInstances := .empty
  slesSubscriptions := .empty
  checksResults := .empty

/-- Puts a host in place of the one that its agent had, whose latest sign of life stays. -/
def upsertHost (m : ReadModels) (host : Host) : ReadModels :=
  let lastHeartbeatAt := (m.hosts.get? host.agent).bind (·.lastHeartbeatAt)
  { m with hosts := m.hosts.insert host.agent { host with lastHeartbeatAt } }

/-- The later of a sign of life and an earlier known one. -/
def latestHeartbeat (known : Option Instant) (time : Instant) : Instant :=
  match known with
  | none => time
  | some earlier => earlier.latest time

/-- Notes a sign of life of a host, if there is that host. -/
def recordHeartbeat (m : ReadModels) (agent : AgentId) (time : Instant) : ReadModels :=
  match m.hosts.get? agent with
  | none => m
  | some host =>
    let lastHeartbeatAt := some (latestHeartbeat host.lastHeartbeatAt time)
    { m with hosts := m.hosts.insert agent { host with lastHeartbeatAt } }

/-- A set in place of an older one; an empty set takes no row. -/
def replaceSet (t : Table AgentId (List α)) (agent : AgentId) (items : List α) :
    Table AgentId (List α) :=
  if items.isEmpty then t.erase agent else t.insert agent items

def write (m : ReadModels) : Write → ReadModels
  | .upsertHost host => m.upsertHost host
  | .deleteHost agent => { m with hosts := m.hosts.erase agent }
  | .recordHeartbeat agent time => m.recordHeartbeat agent time
  | .upsertCluster cluster => { m with clusters := m.clusters.insert cluster.id cluster }
  | .replaceSapInstances agent instances =>
    { m with sapInstances := replaceSet m.sapInstances agent instances }
  | .replaceSlesSubscriptions agent subscriptions =>
    { m with slesSubscriptions := replaceSet m.slesSubscriptions agent subscriptions }
  | .upsertChecksResult result =>
    { m with checksResults := m.checksResults.insert result.groupId result }

/-- Whether a change finds a row to work on; a change that needs none always does. -/
def finds (m : ReadModels) : Write → Bool
  | .deleteHost agent => (m.hosts.get? agent).isSome
  | .recordHeartbeat agent _ => (m.hosts.get? agent).isSome
  | _ => true

/-- The ledger row of a pair after one more outcome. -/
def rowAfter (m : ReadModels) (r : OutcomeRecord) : Subscription :=
  match m.ledger.get? r.key with
  | none => .ofRecord r
  | some row => row.apply r

def record (m : ReadModels) (r : OutcomeRecord) : ReadModels :=
  { m with ledger := m.ledger.insert r.key (m.rowAfter r) }

def subscription? (m : ReadModels) (source : AgentId) (eventType : EventType) :
    Option Subscription :=
  m.ledger.get? ⟨source, eventType⟩

def subscriptionsOf (m : ReadModels) (source : AgentId) : List Subscription :=
  m.ledger.rows.filter (·.source == source)

def sapInstancesOf (m : ReadModels) (agent : AgentId) : List SapSystemInstance :=
  (m.sapInstances.get? agent).getD []

def slesSubscriptionsOf (m : ReadModels) (agent : AgentId) : List SlesSubscription :=
  (m.slesSubscriptions.get? agent).getD []

end ReadModels

end AgentFacts
