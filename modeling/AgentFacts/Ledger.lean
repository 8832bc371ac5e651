import AgentFacts.Envelope

namespace AgentFacts

/-- What became of one envelope. -/
inductive Outcome where
  | success
  | failure (reason : String)
deriving DecidableEq, Inhabited, Repr

namespace Outcome

def isSuccess : Outcome → Bool
  | .success => true
  | .failure _ => false

def reason : Outcome → Option String
  | .success => none
  | .failure reason => some reason

def kind : Outcome → String
  | .success => "success"
  | .failure _ => "failure"

def text : Outcome → String
  | .success => "success"
  | .failure reason => "failure: " ++ reason

def expected : String := "adjacently tagged enum Outcome"

def kinds : List (String × Bool) := [("success", true), ("failure", false)]

/-- The outcome of a kind with what is given as its reason: a success has none or `null`. -/
def decodeReason (succeeded : Bool) : Option Json → Decoded Outcome
  | none => if succeeded then .ok .success else .error (.missingField "reason")
  | some json =>
    if succeeded then
      match json with
      | .null => .ok .success
      | _ => Decode.wrongType json "unit variant Outcome::Success"
    else .failure <$> Decode.text json

def decode : Json → Decoded Outcome
  | .object members =>
    match Json.find? "status" members with
    | none => .error (.missingField "status")
    | some status => do
      let succeeded ← Decode.variant kinds status
      decodeReason succeeded (Json.find? "reason" members)
  | .list [] => .error (.wrongLength 0 expected)
  | .list (status :: rest) => do
    let succeeded ← Decode.variant kinds status
    match rest with
    | [] => .error (.wrongLength 1 expected)
    | reason :: more =>
      let outcome ← decodeReason succeeded (some reason)
      if more.isEmpty then return outcome
      else .error (.wrongLength (more.length + 2) "fewer elements in array")
  | json => Decode.wrongType json expected

def encode : Outcome → Json
  | .success => .ofMembers [("status", .text "success")]
  | .failure reason => .ofMembers [("status", .text "failure"), ("reason", .text reason)]

instance : JsonFormat Outcome := ⟨decode, encode⟩

end Outcome

/-- What a ledger row is about: the envelopes of one type from one agent. -/
structure LedgerKey where
  source : AgentId
  eventType : EventType
deriving DecidableEq, Inhabited, Repr

namespace LedgerKey

/-- By agent, then by event type. -/
instance : Ord LedgerKey where
  compare a b := (compare a.source b.source).then (compare a.eventType b.eventType)

instance : Std.TransOrd LedgerKey :=
  inferInstanceAs
    (Std.TransCmp (compareLex (compareOn LedgerKey.source) (compareOn LedgerKey.eventType)))

instance : Std.LawfulEqOrd LedgerKey where
  compare_self {a} :=
    show compareLex (compareOn LedgerKey.source) (compareOn LedgerKey.eventType) a a = .eq from
      Std.ReflCmp.compare_self
  eq_of_compare {a b} same := by
    obtain ⟨sources, types⟩ := Ordering.then_eq_eq.1 same
    cases a
    cases b
    cases Std.LawfulEqCmp.compare_eq_iff_eq.1 sources
    cases Std.LawfulEqCmp.compare_eq_iff_eq.1 types
    rfl

end LedgerKey

structure OutcomeRecord where
  source : AgentId
  eventType : EventType
  envelope : EnvelopeId
  outcome : Outcome
  processedAt : Instant
deriving DecidableEq, Inhabited

namespace OutcomeRecord

def key (r : OutcomeRecord) : LedgerKey :=
  ⟨r.source, r.eventType⟩

def ofEnvelope (e : Envelope) (outcome : Outcome) (processedAt : Instant) : OutcomeRecord where
  source := e.source
  eventType := e.eventType
  envelope := e.id
  outcome
  processedAt

end OutcomeRecord

/-- The ledger row of an agent and event type. Only a success moves `lastEnvelope`, so that names
the newest envelope whose effects are visible. -/
structure Subscription where
  source : AgentId
  eventType : EventType
  lastEnvelope : Option EnvelopeId
  lastProcessedAt : Instant
  outcome : Outcome
deriving DecidableEq, Inhabited

namespace Subscription

def form : RecordForm where
  name := "Subscription"
  fields := ["source", "event_type", "last_envelope_id", "last_processed_at", "outcome"]

def decode : Json → Decoded Subscription :=
  form.decode fun source =>
    Subscription.mk <$> form.field source "source" .refuse AgentId.decode
      <*> form.field source "event_type" .refuse EventType.decode
      <*> form.field source "last_envelope_id" (.inObjects none) (Decode.option EnvelopeId.decode)
      <*> form.field source "last_processed_at" .refuse Decode.instant
      <*> form.field source "outcome" .refuse Outcome.decode

def encode (s : Subscription) : Json :=
  .ofMembers [
    ("source", s.source.encode),
    ("event_type", s.eventType.encode),
    ("last_envelope_id", .ofOption (s.lastEnvelope.map EnvelopeId.encode)),
    ("last_processed_at", .text s.lastProcessedAt.text),
    ("outcome", s.outcome.encode)]

instance : JsonFormat Subscription := ⟨decode, encode⟩

/-- The row of a pair whose first outcome this is. -/
def ofRecord (r : OutcomeRecord) : Subscription where
  source := r.source
  eventType := r.eventType
  lastEnvelope := if r.outcome.isSuccess then some r.envelope else none
  lastProcessedAt := r.processedAt
  outcome := r.outcome

/-- The row after one more outcome. -/
def apply (s : Subscription) (r : OutcomeRecord) : Subscription :=
  { s with
    lastEnvelope :=
      if r.outcome.isSuccess then
        some (match s.lastEnvelope with
          | none => r.envelope
          | some last => last.latest r.envelope)
      else s.lastEnvelope
    lastProcessedAt := s.lastProcessedAt.latest r.processedAt
    outcome := r.outcome }

/-- Not newer than the newest envelope with visible effects. -/
def isStale (s : Subscription) (id : EnvelopeId) : Bool :=
  match s.lastEnvelope with
  | none => false
  | some last => id ≤ last

end Subscription

end AgentFacts
