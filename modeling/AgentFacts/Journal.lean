import AgentFacts.Envelope
import AgentFacts.Table

namespace AgentFacts

inductive Counter where
  | received
  | backpressure
  | persisted
  | replayed
  | retried
  | dispatched (outcome : String)
  | dispatchTimed
  | ledgerWriteFailed
  | collectRequest (status : String)
  | heartbeatRequest (status : String)
deriving DecidableEq

namespace Counter

def labelled (name label value : String) : String :=
  name ++ "\x7b" ++ label ++ "=\"" ++ value ++ "\"\x7d"

def text : Counter → String
  | .received => "collector_envelopes_received_total"
  | .backpressure => "collector_backpressure_total"
  | .persisted => "event_store_envelopes_persisted_total"
  | .replayed => "replay_envelopes_total"
  | .retried => "dispatcher_retries_total"
  | .dispatched outcome => labelled "dispatcher_envelopes_total" "outcome" outcome
  | .dispatchTimed => "dispatcher_projection_seconds_count"
  | .ledgerWriteFailed => "dispatcher_ledger_write_failures_total"
  | .collectRequest status => labelled "http_collect_requests_total" "status" status
  | .heartbeatRequest status => labelled "http_heartbeat_requests_total" "status" status

end Counter

inductive LogLevel where
  | debug
  | info
  | warn
  | error
deriving DecidableEq

def LogLevel.text : LogLevel → String
  | .debug => "DEBUG"
  | .info => "INFO"
  | .warn => "WARN"
  | .error => "ERROR"

structure LogEvent where
  level : LogLevel
  message : String
  fields : List (String × Json)

def LogEvent.encode (e : LogEvent) : Json :=
  .ofMembers [
    ("level", .text e.level.text), ("message", .text e.message), ("fields", .ofMembers e.fields)]

/-- Counts and events, and the calls of projectors that follow a script. -/
structure Journal where
  counts : Table String Nat
  events : List LogEvent
  scripted : List (String × EnvelopeId)
  visits : Table Nat Nat

namespace Journal

def empty : Journal where
  counts := .empty
  events := []
  scripted := []
  visits := .empty

def count (j : Journal) (c : Counter) : Journal :=
  { j with counts := j.counts.insert c.text ((j.counts.get? c.text).getD 0 + 1) }

def counters (j : Journal) : Json :=
  .ofMembers (j.counts.entries.map fun (name, n) => (name, .nat n))

def log (j : Journal) (e : LogEvent) : Journal :=
  { j with events := e :: j.events }

def attend (j : Journal) (script : String) (id : EnvelopeId) : Journal :=
  { j with scripted := (script, id) :: j.scripted }

/-- How often a step was reached before, and one more visit. -/
def visit (j : Journal) (step : Nat) : Nat × Journal :=
  let before := (j.visits.get? step).getD 0
  (before, { j with visits := j.visits.insert step (before + 1) })

/-- The events so far, which are then forgotten. -/
def takeEvents (j : Journal) : List LogEvent × Journal :=
  (j.events.reverse, { j with events := [] })

def takeScripted (j : Journal) : List (String × EnvelopeId) × Journal :=
  (j.scripted.reverse, { j with scripted := [] })

end Journal

end AgentFacts
