import AgentFacts.Identifier

namespace AgentFacts

/-- The number under which an envelope is kept. A greater one was given later. -/
structure EnvelopeId where
  value : Int
deriving DecidableEq, Inhabited, Repr

namespace EnvelopeId

instance : Ord EnvelopeId where
  compare a b := compare a.value b.value

instance : LE EnvelopeId where
  le a b := a.value ≤ b.value

instance : LT EnvelopeId where
  lt a b := a.value < b.value

instance (a b : EnvelopeId) : Decidable (a ≤ b) :=
  inferInstanceAs (Decidable (a.value ≤ b.value))

instance (a b : EnvelopeId) : Decidable (a < b) :=
  inferInstanceAs (Decidable (a.value < b.value))

instance : ToString EnvelopeId where
  toString id := toString id.value

/-- The greater of two ids. -/
def latest (a b : EnvelopeId) : EnvelopeId :=
  if a ≤ b then b else a

def decode (json : Json) : Decoded EnvelopeId :=
  EnvelopeId.mk <$> Decode.int64 json

def encode (id : EnvelopeId) : Json :=
  .int id.value

instance : JsonFormat EnvelopeId := ⟨decode, encode⟩

end EnvelopeId

/-- A fact that has no id yet. -/
structure NewEnvelope where
  source : AgentId
  eventType : EventType
  payload : Json
  receivedAt : Instant
deriving Inhabited

/-- A fact in the event log. It never changes. -/
structure Envelope where
  id : EnvelopeId
  source : AgentId
  eventType : EventType
  payload : Json
  receivedAt : Instant
deriving Inhabited

inductive EnvelopeFault where
  | blankSource
  | blankEventType
deriving DecidableEq, Repr

def EnvelopeFault.message : EnvelopeFault → String
  | .blankSource => "source identifier must not be empty"
  | .blankEventType => "event type must not be empty"

namespace NewEnvelope

def form : RecordForm where
  name := "NewEnvelope"
  fields := ["source", "event_type", "payload", "received_at"]

def decode : Json → Decoded NewEnvelope :=
  form.decode fun source =>
    NewEnvelope.mk <$> form.field source "source" .refuse AgentId.decode
      <*> form.field source "event_type" .refuse EventType.decode
      <*> form.field source "payload" .refuse .ok
      <*> form.field source "received_at" .refuse Decode.instant

def encode (e : NewEnvelope) : Json :=
  .ofMembers [
    ("source", e.source.encode),
    ("event_type", e.eventType.encode),
    ("payload", e.payload),
    ("received_at", .text e.receivedAt.text)]

instance : JsonFormat NewEnvelope := ⟨decode, encode⟩

/-- Refuses an envelope without a source, or else without an event type. -/
def validate (e : NewEnvelope) : Except EnvelopeFault Unit :=
  if e.source.isBlank then .error .blankSource
  else if e.eventType.isBlank then .error .blankEventType
  else .ok ()

def withId (e : NewEnvelope) (id : EnvelopeId) : Envelope where
  id
  source := e.source
  eventType := e.eventType
  payload := e.payload
  receivedAt := e.receivedAt

end NewEnvelope

namespace Envelope

def form : RecordForm where
  name := "Envelope"
  fields := ["id", "source", "event_type", "payload", "received_at"]

def decode : Json → Decoded Envelope :=
  form.decode fun source =>
    Envelope.mk <$> form.field source "id" .refuse EnvelopeId.decode
      <*> form.field source "source" .refuse AgentId.decode
      <*> form.field source "event_type" .refuse EventType.decode
      <*> form.field source "payload" .refuse .ok
      <*> form.field source "received_at" .refuse Decode.instant

def encode (e : Envelope) : Json :=
  .ofMembers [
    ("id", e.id.encode),
    ("source", e.source.encode),
    ("event_type", e.eventType.encode),
    ("payload", e.payload),
    ("received_at", .text e.receivedAt.text)]

instance : JsonFormat Envelope := ⟨decode, encode⟩

end Envelope

end AgentFacts
