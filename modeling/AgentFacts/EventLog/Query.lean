import AgentFacts.Envelope

namespace AgentFacts

/-- Every condition that is given has to hold. The id that envelopes come after is left out, and
both times are let in. -/
structure EnvelopeQuery where
  source : Option AgentId
  eventTypes : Option (List EventType)
  after : Option EnvelopeId
  earliest : Option Instant
  latest : Option Instant
  limit : Option UInt64
  offset : Option UInt64
deriving DecidableEq, Inhabited

namespace EnvelopeQuery

def all : EnvelopeQuery where
  source := none
  eventTypes := none
  after := none
  earliest := none
  latest := none
  limit := none
  offset := none

def ofSource (source : AgentId) : EnvelopeQuery :=
  { all with source := some source }

def ofEventType (eventType : EventType) : EnvelopeQuery :=
  { all with eventTypes := some [eventType] }

def admits (q : EnvelopeQuery) (e : Envelope) : Bool :=
  q.source.all (· == e.source) &&
    q.eventTypes.all (·.contains e.eventType) &&
    q.after.all (fun id => decide (id < e.id)) &&
    q.earliest.all (fun time => decide (time ≤ e.receivedAt)) &&
    q.latest.all (fun time => decide (e.receivedAt ≤ time))

/-- The stretch of a list that offset and limit leave. -/
def stretch (q : EnvelopeQuery) (envelopes : List α) : List α :=
  let rest := envelopes.drop (q.offset.elim 0 UInt64.toNat)
  match q.limit with
  | none => rest
  | some limit => rest.take limit.toNat

end EnvelopeQuery

end AgentFacts
