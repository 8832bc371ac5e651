import AgentFacts.Collector

namespace AgentFacts

inductive PipelineError where
  | eventLog (error : EventLogError)
  | projection (error : ProjectionError)
  | enqueue (error : EnqueueError)
deriving DecidableEq

namespace PipelineError

def kind : PipelineError → String
  | .eventLog _ => "EventStore"
  | .projection _ => "Projection"
  | .enqueue _ => "Enqueue"

def message : PipelineError → String
  | .eventLog error => "Event store error: " ++ error.message
  | .projection error => "Projection error: " ++ error.message
  | .enqueue error => "Enqueue error: " ++ error.message

instance : Reported PipelineError := ⟨kind, message⟩

end PipelineError

/-- What a replay has put on the queue. -/
structure ReplayStats where
  enqueued : Nat
  lastEnvelope : Option EnvelopeId
deriving DecidableEq

namespace Replay

abbrev Replaying := ExceptT (Halt PipelineError) Program

/-- Turns a halt of the event log into one of the pipeline. -/
def ofEventLog : Halt EventLogError → Halt PipelineError
  | .error error => .error (.eventLog error)
  | .panic => .panic

/-- Queues the next items of the open stream, and asks for them up to a bound. -/
def feed (stats : ReplayStats) : Nat → Replaying ReplayStats
  | 0 => return stats
  | left + 1 => do
    match ← (Program.ask .nextItem : Program (Option (Except (Halt EventLogError) Envelope))) with
    | none => return stats
    | some (.error halt) => throw (ofEventLog halt)
    | some (.ok e) =>
      match ← (enqueueWaiting e : Program (Except EnqueueError Unit)) with
      | .error error => throw (.error (.enqueue error))
      | .ok () =>
        Program.count .replayed
        feed ⟨stats.enqueued + 1, some e.id⟩ left

def lastText : Option EnvelopeId → String
  | none => "None"
  | some id => "Some(EnvelopeId(" ++ toString id ++ "))"

/-- Queues every envelope after an id, in order. Those that have been applied are skipped when they
are dispatched, so it does no harm to replay all of them. -/
def run (after : Option EnvelopeId) : Replaying ReplayStats := do
  match ← (Program.ask (.openStream after) : Program (Except (Halt EventLogError) Nat)) with
  | .error halt => throw (ofEventLog halt)
  | .ok bound =>
    let stats ← feed ⟨0, none⟩ bound
    Program.log .info "replay complete"
      [("enqueued", .nat stats.enqueued), ("last_envelope_id", .text (lastText stats.lastEnvelope))]
    return stats

end Replay

end AgentFacts
