import AgentFacts.Program

namespace AgentFacts

abbrev Projection := ExceptT (Halt ProjectionError) Program

structure Projector where
  name : String
  eventTypes : List EventType
  project : Envelope → Projection Unit

namespace Projection

def fail (error : ProjectionError) : Projection α :=
  throw (.error error)

/-- What a step comes to, be it a value or a halt. -/
def settle (step : Projection α) : Projection (Except (Halt ProjectionError) α) :=
  .lift step.run

def begin : Projection Unit := .mk (.ask .begin)

def find (source : AgentId) (eventType : EventType) : Projection (Option Subscription) :=
  .mk (.ask (.find source eventType))

def write (w : Write) : Projection Bool := .mk (.ask (.write w))

def recordIn (r : OutcomeRecord) : Projection Subscription := .mk (.ask (.recordIn r))

def commit : Projection Unit := .mk (.ask .commit)

def rollback : Projection Unit := .mk (.ask .rollback)

def record (r : OutcomeRecord) : Projection Subscription := .mk (.ask (.record r))

end Projection

def Envelope.payloadAs (e : Envelope) (decode : Json → Decoded α) : Except ProjectionError α :=
  (decode e.payload).mapError .deserialization

/-- The change to its agent's host that an envelope asks for. -/
def Envelope.hostChange (e : Envelope) : Except ProjectionError Write :=
  if e.eventType = .hostDiscovered then do
    let report ← e.payloadAs HostReport.decode
    let host ← (Host.ofReport e.source report e.receivedAt).mapError .validation
    return .upsertHost host
  else if e.eventType = .hostHeartbeat then do
    let _ ← e.payloadAs HostHeartbeat.decode
    return .recordHeartbeat e.source e.receivedAt
  else if e.eventType = .hostDeregistered then do
    let _ ← e.payloadAs HostDeregistration.decode
    return .deleteHost e.source
  else .error (.unknownEventType e.eventType)

def Envelope.clusterChange (e : Envelope) : Except ProjectionError Write := do
  let report ← e.payloadAs ClusterReport.decode
  let cluster ← (Cluster.ofReport e.source report e.receivedAt).mapError .validation
  return .upsertCluster cluster

def Envelope.sapChange (e : Envelope) : Except ProjectionError Write := do
  let report ← e.payloadAs SapSystemReport.decode
  let instances ← (SapSystemInstance.ofReport e.source report e.receivedAt).mapError .validation
  return .replaceSapInstances e.source instances

def Envelope.slesChange (e : Envelope) : Except ProjectionError Write := do
  let report ← e.payloadAs SlesReport.decode
  let items ← (SlesSubscription.ofReport e.source report e.receivedAt).mapError .validation
  return .replaceSlesSubscriptions e.source items

def Envelope.checksChange (e : Envelope) : Except ProjectionError Write := do
  let report ← e.payloadAs ChecksReport.decode
  let result ← (ChecksResult.ofReport e.source report e.receivedAt).mapError .validation
  return .upsertChecksResult result

namespace Projector

def unspecifiedReason : String := "unspecified"

def deregistrationReason (e : Envelope) : String :=
  match e.payloadAs HostDeregistration.decode with
  | .ok d => d.reason.getD unspecifiedReason
  | .error _ => unspecifiedReason

/-- Tells what a change to a host came to: whether there was that host. -/
def tell (e : Envelope) (found : Bool) : Write → Program Unit
  | .recordHeartbeat _ _ =>
    if found then return
    else .log .debug "heartbeat for undiscovered host" [("agent_id", .text e.source.text)]
  | .deleteHost _ =>
    .log .info "host deregistered" [("agent_id", .text e.source.text), ("removed", .bool found),
      ("reason", .text (deregistrationReason e))]
  | _ => return

/-- The projector that makes one change for each envelope; one that does not decode or is not valid
asks for none. -/
def ofChange (name : String) (eventTypes : List EventType)
    (change : Envelope → Except ProjectionError Write) : Projector where
  name
  eventTypes
  project e :=
    match change e with
    | .error error => .fail error
    | .ok w => do
      let found ← Projection.write w
      tell e found w

/-- One row for each agent, removed when it is deregistered. A sign of life touches only the row of
a host that has been discovered. -/
def hosts : Projector :=
  ofChange "hosts" [.hostDiscovered, .hostDeregistered, .hostHeartbeat] Envelope.hostChange

def clusters : Projector :=
  ofChange "clusters" [.clusterDiscovered] Envelope.clusterChange

/-- The instances of each agent. One that a report leaves out is removed. -/
def sapInstances : Projector :=
  ofChange "sap_system_instances" [.sapSystemDiscovered] Envelope.sapChange

/-- The subscriptions of each agent. One that a report leaves out is removed. -/
def slesSubscriptions : Projector :=
  ofChange "sles_subscriptions" [.subscriptionDiscovered] Envelope.slesChange

def checksResults : Projector :=
  ofChange "checks_results" [.checksResultReported] Envelope.checksChange

def all : List Projector :=
  [hosts, clusters, sapInstances, slesSubscriptions, checksResults]

def named? (name : String) : Option Projector :=
  all.find? (·.name == name)

end Projector

end AgentFacts
