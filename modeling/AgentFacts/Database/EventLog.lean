import AgentFacts.Database.EnvelopeStream
import AgentFacts.Database.Session

namespace AgentFacts.Session

def persist (e : NewEnvelope) : Step EventLogError EnvelopeId := do
  match e.validate with
  | .error fault => throw (.invalidEnvelope fault.message)
  | .ok () => withError .database do
    connect
    let row ← row (.persist e)
    EnvelopeId.mk <$> liftExcept (row.scalar Cell.toInt)

/-- A count that is sent as a signed number of 64 bits and read as an unsigned one. -/
def countOf (i : Int) : Nat :=
  (i % Int.pow 2 64).toNat

def readLog : (r : LogRead) → Step DatabaseError r.Answer
  | .get id => do
    connect
    let rows ← rows (.readLog (.get id))
    liftExcept (rows.head?.mapM Envelope.ofRow)
  | .query q => do
    connect
    let rows ← rows (.readLog (.query q))
    liftExcept (rows.mapM Envelope.ofRow)
  | .count => do
    connect
    let row ← row (.readLog .count)
    countOf <$> liftExcept (row.scalar Cell.toInt)

def page (after : Int) : Step DatabaseError (List Row) := do
  connect
  rows (.page after)

/-- The next item of a stream, if there is one, and what is left of the stream. -/
def nextItem (stream : EnvelopeStream) :
    StateM Session (Option (Except DatabaseError Envelope × EnvelopeStream)) :=
  match stream.take?, stream.cursor with
  | some found, _ => return some found
  | none, none => return none
  | none, some after => do
    return (EnvelopeStream.ofPage (← (page after).run)).take?

end AgentFacts.Session
