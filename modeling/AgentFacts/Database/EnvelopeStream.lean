import AgentFacts.Database.Row
import AgentFacts.EventLog.Error
import AgentFacts.Envelope

namespace AgentFacts

def Envelope.ofRow (row : Row) : Except DatabaseError Envelope := do
  return {
    id := ⟨← row.get "id" Cell.toInt⟩
    source := ⟨← row.get "source" Cell.toText⟩
    eventType := ⟨← row.get "event_type" Cell.toText⟩
    payload := ← row.get "payload" Cell.toJson
    receivedAt := ← row.get "received_at" Cell.toInstant }

/-- Envelopes from a table, page by page. A page starts after the last envelope before it that could
be read; the stream ends with a page that is empty, has no such envelope, or fails. -/
structure EnvelopeStream where
  items : List (Except DatabaseError Envelope)
  cursor : Option Int

namespace EnvelopeStream

def empty : EnvelopeStream := ⟨[], none⟩

/-- The stream of the envelopes with a greater id, or of all. -/
def start (after : Option EnvelopeId) : EnvelopeStream :=
  ⟨[], some (after.elim 0 EnvelopeId.value)⟩

def lastId? (items : List (Except DatabaseError Envelope)) : Option Int :=
  items.reverse.findSome? fun
    | .ok e => some e.id.value
    | .error _ => none

def ofPage : Except DatabaseError (List Row) → EnvelopeStream
  | .error error => ⟨[.error error], none⟩
  | .ok rows =>
    let items := rows.map Envelope.ofRow
    ⟨items, lastId? items⟩

/-- Takes the first item. -/
def take? (s : EnvelopeStream) : Option (Except DatabaseError Envelope × EnvelopeStream) :=
  match s.items with
  | [] => none
  | item :: rest => some (item, { s with items := rest })

end EnvelopeStream

end AgentFacts
