import AgentFacts.Program

namespace AgentFacts

/-- Why an envelope is not put on the ingress queue. -/
inductive EnqueueError where
  | backpressure (timeout : Span)
  | closed
deriving DecidableEq

namespace EnqueueError

def kind : EnqueueError → String
  | .backpressure _ => "Backpressure"
  | .closed => "Closed"

def message : EnqueueError → String
  | .backpressure timeout => "Ingress queue full after waiting " ++ timeout.text
  | .closed => "Dispatcher is not running"

instance : Reported EnqueueError := ⟨kind, message⟩

end EnqueueError

/-- Puts an envelope on the ingress queue, waiting for room up to a timeout. -/
def enqueue (e : Envelope) (timeout : Span) : Program (Except EnqueueError Unit) := do
  match ← Program.ask (.send e (some timeout)) with
  | .accepted => return .ok ()
  | .closed => return .error .closed
  | .timedOut =>
    .count .backpressure
    return .error (.backpressure timeout)

/-- Puts an envelope on the ingress queue, waiting for room as long as it takes. -/
def enqueueWaiting (e : Envelope) : Program (Except EnqueueError Unit) := do
  match ← Program.ask (.send e none) with
  | .accepted => return .ok ()
  | _ => return .error .closed

structure Ack where
  envelope : EnvelopeId
  receivedAt : Instant
deriving DecidableEq

namespace Ack

def encode (a : Ack) : Json :=
  .ofMembers [("envelope_id", a.envelope.encode), ("received_at", .text a.receivedAt.text)]

end Ack

/-- Why a fact is not taken in. Where an envelope is named, it has been persisted all the same. -/
inductive CollectorError where
  | invalid (reason : String)
  | store (error : EventLogError)
  | backpressure (envelope : EnvelopeId) (timeout : Span)
  | closed (envelope : EnvelopeId)
deriving DecidableEq

namespace CollectorError

def kind : CollectorError → String
  | .invalid _ => "Invalid"
  | .store _ => "Store"
  | .backpressure _ _ => "Backpressure"
  | .closed _ => "Closed"

def message : CollectorError → String
  | .invalid reason => "Invalid submission: " ++ reason
  | .store error => "Failed to persist envelope: " ++ error.message
  | .backpressure envelope timeout =>
    "Envelope " ++ toString envelope ++ " persisted but ingress queue stayed full for " ++
      timeout.text
  | .closed envelope =>
    "Envelope " ++ toString envelope ++ " persisted but dispatcher is not running"

/-- The envelope that was persisted all the same. -/
def envelope? : CollectorError → Option EnvelopeId
  | .backpressure envelope _ => some envelope
  | .closed envelope => some envelope
  | _ => none

def ofEventLog : EventLogError → CollectorError
  | .invalidEnvelope reason => .invalid reason
  | error => .store error

instance : Reported CollectorError := ⟨kind, message⟩

end CollectorError

namespace Collector

abbrev Collecting := ExceptT (Halt CollectorError) Program

/-- Persists an envelope and gives it with its id. -/
def persist (e : NewEnvelope) : Collecting Envelope := do
  match ← (Program.ask (.persist e) : Program (Except (Halt EventLogError) EnvelopeId)) with
  | .ok id => return e.withId id
  | .error .panic => throw .panic
  | .error (.error error) => throw (.error (.ofEventLog error))

/-- Queues a persisted envelope. -/
def hand (e : Envelope) (timeout : Span) : Collecting Ack := do
  let id := ("envelope_id", Json.text (toString e.id))
  match ← (enqueue e timeout : Program (Except EnqueueError Unit)) with
  | .ok () =>
    Program.log .debug "envelope accepted" [id]
    return ⟨e.id, e.receivedAt⟩
  | .error (.backpressure timeout) =>
    Program.log .warn "ingress queue full" [id, ("timeout", .text timeout.text)]
    throw (.error (.backpressure e.id timeout))
  | .error .closed =>
    Program.log .warn "dispatcher not running" [id]
    throw (.error (.closed e.id))

def isNull : Json → Bool
  | .null => true
  | _ => false

/-- Takes in one fact: it is persisted first, and then put on the ingress queue. Once it is
persisted it is never lost; whether it is queued is told apart. A submission without a payload,
source or event type leaves no trace. -/
def submit (payload : Json) (source : AgentId) (eventType : EventType) (timeout : Span) :
    Collecting Ack := do
  if isNull payload then throw (.error (.invalid "payload must not be null"))
  let receivedAt : Instant ← Program.now
  let e : NewEnvelope := { source, eventType, payload, receivedAt }
  match e.validate with
  | .error fault => throw (.error (.invalid fault.message))
  | .ok () => do
    let stored ← persist e
    Program.count .received
    hand stored timeout

end Collector

end AgentFacts
