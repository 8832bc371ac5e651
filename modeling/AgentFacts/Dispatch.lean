import AgentFacts.Registry
import AgentFacts.Retry.Rehearsal

namespace AgentFacts

inductive DispatchOutcome where
  | applied
  | skipped
  | unknownEventType
  | failed (reason : String)
deriving DecidableEq

def DispatchOutcome.label : DispatchOutcome → String
  | .applied => "applied"
  | .skipped => "skipped"
  | .unknownEventType => "unknown_event_type"
  | .failed _ => "failed"

inductive Projected where
  | applied
  | stale
deriving DecidableEq

structure Executor where
  registry : Registry
  retry : RetryPolicy

namespace Executor

def unknownReason : String := "unknown event type"

/-- Whether a failure is worth another attempt. A panic is not. -/
def isRetryable : Halt ProjectionError → Bool
  | .error error => error.isTransient
  | .panic => false

def describe : Halt ProjectionError → String
  | .error error => error.message
  | .panic => ProjectionError.panicked.message

def pause (policy : RetryPolicy) (number : Nat) (halt : Halt ProjectionError) (delay : Span) :
    Program Unit := do
  .ask (.log (policy.pauseEvent number (describe halt) delay))
  .sleep delay

def retrying (x : Executor) (attempt : Nat → Projection α) : Projection α :=
  .mk (x.retry.retry isRetryable (pause x.retry) fun number => (attempt number).run)

/-- Runs a projector; a panic in it becomes an error. -/
def runProjector (projector : Projector) (e : Envelope) : Projection Unit := do
  match ← Projection.settle (projector.project e) with
  | .ok () => return
  | .error (.error error) => .fail error
  | .error .panic =>
    Program.log .error "projector panicked" [("projector", .text projector.name)]
    .fail .panicked

/-- What happens between the opening of a transaction and its end. -/
def projectIn (projector : Projector) (e : Envelope) : Projection Projected := do
  let current ← Projection.find e.source e.eventType
  if current.any (·.isStale e.id) then return .stale
  runProjector projector e
  let processedAt : Instant ← Program.now
  let _ ← Projection.recordIn (.ofEnvelope e .success processedAt)
  return .applied

/-- Ends a transaction by what happened in it. -/
def conclude : Except (Halt ProjectionError) Projected → Projection Projected
  | .ok .applied => do
    Projection.commit
    return .applied
  | .ok .stale => do
    Projection.rollback
    return .stale
  | .error .panic => throw .panic
  | .error (.error error) => do
    match ← Projection.rollback.settle with
    | .ok () => .fail error
    | .error .panic => throw .panic
    | .error (.error second) =>
      Program.log .warn "rollback failed" [("error", .text second.message)]
      .fail error

/-- One attempt at a projection, in a transaction of its own. -/
def projectOnce (projector : Projector) (e : Envelope) : Projection Projected := do
  Projection.begin
  let result ← (projectIn projector e).settle
  let ended ← (conclude result).settle
  Program.drop
  .mk (pure ended)

/-- Notes a failure in the ledger. What goes wrong with that is only told. -/
def recordFailure (x : Executor) (e : Envelope) (reason : String) : Projection Unit := do
  let write (_ : Nat) : Projection Subscription := do
    let processedAt : Instant ← Program.now
    Projection.record (.ofEnvelope e (.failure reason) processedAt)
  match ← (x.retrying write).settle with
  | .ok _ => return
  | .error .panic => throw .panic
  | .error (.error error) =>
    Program.count .ledgerWriteFailed
    Program.log .error "failed to record failure outcome"
      [("error", .text error.message), ("reason", .text reason)]

def project (x : Executor) (projector : Projector) (e : Envelope) :
    Projection DispatchOutcome := do
  let attempt (number : Nat) : Projection Projected := do
    if 1 < number then Program.count .retried
    projectOnce projector e
  match ← (x.retrying attempt).settle with
  | .ok .applied =>
    Program.log .debug "envelope applied" [("projector", .text projector.name)]
    return .applied
  | .ok .stale =>
    Program.log .debug "envelope not newer than last applied, skipped" []
    return .skipped
  | .error .panic => throw .panic
  | .error (.error error) =>
    let reason := error.message
    Program.log .warn "projection failed"
      [("projector", .text projector.name), ("error", .text reason)]
    x.recordFailure e reason
    return .failed reason

def resolve (x : Executor) (e : Envelope) : Projection DispatchOutcome :=
  match x.registry.find? e.eventType with
  | some projector => x.project projector e
  | none => do
    Program.log .warn "no projector registered for event type" []
    x.recordFailure e unknownReason
    return .unknownEventType

/-- Dispatches an envelope. Its projector runs in a transaction together with the ledger entry for
its success, so both are visible or neither is; an envelope that is not newer than the last one that
succeeded is skipped; a failure is noted after the transaction has been undone. Only a panic outside
of the projector keeps it from having an outcome. -/
def dispatch (x : Executor) (e : Envelope) : Projection DispatchOutcome := do
  let outcome ← x.resolve e
  Program.count (.dispatched outcome.label)
  Program.count .dispatchTimed
  return outcome

end Executor

end AgentFacts
