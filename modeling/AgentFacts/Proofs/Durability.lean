import AgentFacts.Proofs.Visit
import AgentFacts.Server.Routes

namespace AgentFacts

structure Submission where
  payload : Json
  source : AgentId
  eventType : EventType

namespace Submission

/-- Whether there are a payload, a source and an event type. -/
def IsFit (s : Submission) : Prop :=
  Collector.isNull s.payload = false ∧ s.source.isBlank = false ∧ s.eventType.isBlank = false

/-- Whether an envelope holds the fact. -/
def IsIn (s : Submission) (e : Envelope) : Prop :=
  e.source = s.source ∧ e.eventType = s.eventType ∧ e.payload = s.payload

end Submission

namespace Collector

def submission (s : Submission) (timeout : Span) :
    Program (Except (Halt CollectorError) Ack) :=
  (submit s.payload s.source s.eventType timeout).run

variable {s : Submission} {timeout : Span}

end Collector

/-- The log has been asked, once, and has failed for another reason than the envelope. -/
def Trail.Failed (t : Trail) : Prop :=
  ∃ error, t.answers = [.error (.error error)] ∧ ∀ reason, error ≠ .invalidEnvelope reason

/-- What the result of a submission tells about what it has left behind. -/
structure Submission.Tells (s : Submission) (t : Trail) (result : Except CollectorError Ack) :
    Prop where
  accepted : (∃ ack, result = .ok ack) ↔ ∃ e, t.logged = [e] ∧ t.queued = [e]
  unqueued : ((∃ id timeout, result = .error (.backpressure id timeout)) ∨
    ∃ id, result = .error (.closed id)) ↔ ∃ e, t.logged = [e] ∧ t.queued = []
  refused : ((∃ reason, result = .error (.invalid reason)) ∨
    ∃ error, result = .error (.store error)) ↔ t.Untouched
  invalid : (∃ reason, result = .error (.invalid reason)) ↔
    ¬ s.IsFit ∨ ∃ reason, .error (.error (.invalidEnvelope reason)) ∈ t.answers
  failed : (∃ error, result = .error (.store error)) ↔ t.Failed
  holds : ∀ e ∈ t.logged, s.IsIn e
  ack : ∀ e ∈ t.logged, ∀ ack, result = .ok ack → ack = ⟨e.id, e.receivedAt⟩
  names : ∀ e ∈ t.logged, ∀ error, result = .error error → error.envelope? = some e.id

/-- What a response tells about what the request has left behind. -/
structure Response.Tells (submission : Option Submission) (t : Trail) (r : Response) : Prop where
  accepted : r.status = 202 ↔ ∃ e, t.logged = [e] ∧ t.queued = [e]
  unqueued : r.status = 503 ↔ ∃ e, t.logged = [e] ∧ t.queued = []
  refused : r.status = 400 ∨ r.status = 500 ↔ t.Untouched
  invalid : r.status = 400 ↔ (∀ s, submission = some s → ¬ s.IsFit) ∨
    ∃ reason, .error (.error (.invalidEnvelope reason)) ∈ t.answers
  failed : r.status = 500 ↔ t.Failed
  holds : ∀ e ∈ t.logged, ∃ s, submission = some s ∧ s.IsIn e
  ack : r.status = 202 → ∀ e ∈ t.logged, r.body = .json (Ack.encode ⟨e.id, e.receivedAt⟩)
  names : r.status = 503 → ("retry-after", "5") ∈ r.headers ∧
    ∀ e ∈ t.logged, ∃ message, r.body =
      .json (.ofMembers [("error", .text message), ("envelope_id", e.id.encode)])

namespace Submission

variable {s : Submission} {t : Trail}

end Submission

namespace Server

variable {s : Submission} {t : Trail}

variable {route : Route} {request : Request}

end Server

end AgentFacts
