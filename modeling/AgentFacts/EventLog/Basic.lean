import AgentFacts.EventLog.Error
import AgentFacts.EventLog.Query

namespace AgentFacts

/-- The event log in memory: envelopes in the order in which they came, numbered from one. -/
structure EventLog where
  envelopes : List Envelope
deriving Inhabited

namespace EventLog

def empty : EventLog := ⟨[]⟩

def nextId (log : EventLog) : EnvelopeId :=
  ⟨log.envelopes.length + 1⟩

def append (log : EventLog) (e : NewEnvelope) : EventLog :=
  ⟨log.envelopes ++ [e.withId log.nextId]⟩

/-- Appends an envelope that is fit for the log; one that is not changes nothing. -/
def persist (log : EventLog) (e : NewEnvelope) : Except EventLogError EnvelopeId × EventLog :=
  match e.validate with
  | .ok () => (.ok log.nextId, log.append e)
  | .error fault => (.error (.invalidEnvelope fault.message), log)

def get? (log : EventLog) (id : EnvelopeId) : Option Envelope :=
  log.envelopes.find? (·.id == id)

def query (log : EventLog) (q : EnvelopeQuery) : List Envelope :=
  q.stretch (log.envelopes.filter q.admits)

def after (log : EventLog) (id : Option EnvelopeId) : List Envelope :=
  log.envelopes.filter fun e => id.all fun bound => decide (bound < e.id)

def count (log : EventLog) : Nat :=
  log.envelopes.length

end EventLog

/-- A question to the event log. -/
inductive LogRead where
  | get (id : EnvelopeId)
  | query (query : EnvelopeQuery)
  | count

def LogRead.Answer : LogRead → Type
  | .get _ => Option Envelope
  | .query _ => List Envelope
  | .count => Nat

def EventLog.answer (log : EventLog) : (r : LogRead) → r.Answer
  | .get id => log.get? id
  | .query q => log.query q
  | .count => log.count

end AgentFacts
