import AgentFacts.EventLog.Basic
import AgentFacts.Journal
import AgentFacts.ProjectionError
import AgentFacts.ReadModels.Question
import AgentFacts.Time.Span

namespace AgentFacts

/-- How a call ends without a value: by an error, or with the caller torn down, up to where that is
caught. -/
inductive Halt (ε : Type) where
  | error (error : ε)
  | panic
deriving DecidableEq

/-- What becomes of an envelope on its way to the ingress queue. -/
inductive SendResult where
  | accepted
  | timedOut
  | closed
deriving DecidableEq

inductive Call where
  | begin
  /-- The ledger row of a pair, locked for the transaction. -/
  | find (source : AgentId) (eventType : EventType)
  | write (write : Write)
  | recordIn (record : OutcomeRecord)
  | commit
  | rollback
  | drop
  | record (record : OutcomeRecord)
  | read (question : ModelRead)
  | readLog (question : LogRead)
  | persist (envelope : NewEnvelope)
  /-- Opens a stream of the envelopes after an id and tells how often it may be asked at most. -/
  | openStream (after : Option EnvelopeId)
  | nextItem
  /-- Puts an envelope on the ingress queue, waiting for room up to a limit, if there is one. -/
  | send (envelope : Envelope) (limit : Option Span)
  | sleep (span : Span)
  | now
  | count (counter : Counter)
  | log (event : LogEvent)
  | attend (script : String) (envelope : EnvelopeId)
  | visit (step : Nat)

def Call.Reply : Call → Type
  | .begin => Except (Halt ProjectionError) Unit
  | .find _ _ => Except (Halt ProjectionError) (Option Subscription)
  | .write _ => Except (Halt ProjectionError) Bool
  | .recordIn _ => Except (Halt ProjectionError) Subscription
  | .commit => Except (Halt ProjectionError) Unit
  | .rollback => Except (Halt ProjectionError) Unit
  | .drop => Unit
  | .record _ => Except (Halt ProjectionError) Subscription
  | .read question => Except ProjectionError question.Answer
  | .readLog question => Except EventLogError question.Answer
  | .persist _ => Except (Halt EventLogError) EnvelopeId
  | .openStream _ => Except (Halt EventLogError) Nat
  | .nextItem => Option (Except (Halt EventLogError) Envelope)
  | .send _ _ => SendResult
  | .sleep _ => Unit
  | .now => Instant
  | .count _ => Unit
  | .log _ => Unit
  | .attend _ _ => Unit
  | .visit _ => Nat

/-- A program says which calls it makes and how it goes on with each reply; what the calls do is up
to who runs it. So one program serves the stores in memory and those in a database. -/
inductive Program (α : Type) where
  | done (value : α)
  | call (call : Call) (next : call.Reply → Program α)

namespace Program

def bind : Program α → (α → Program β) → Program β
  | .done a, f => f a
  | .call c next, f => .call c fun reply => (next reply).bind f

instance : Monad Program where
  pure := .done
  bind := bind

def ask (c : Call) : Program c.Reply :=
  .call c .done

def drop : Program Unit := ask .drop
def now : Program Instant := ask .now
def sleep (span : Span) : Program Unit := ask (.sleep span)
def count (counter : Counter) : Program Unit := ask (.count counter)

def log (level : LogLevel) (message : String) (fields : List (String × Json)) : Program Unit :=
  ask (.log ⟨level, message, fields⟩)

/-- The items that are left of the open stream, up to a bound. -/
def items : Nat → Program (List (Except (Halt EventLogError) Envelope))
  | 0 => return []
  | left + 1 => do
    match ← ask .nextItem with
    | none => return []
    | some item => return item :: (← items left)

theorem bind_done (p : Program α) : p.bind .done = p := by
  induction p with
  | done a => rfl
  | call c next ih => simp [bind, ih]

theorem bind_assoc (p : Program α) (f : α → Program β) (g : β → Program γ) :
    (p.bind f).bind g = p.bind fun a => (f a).bind g := by
  induction p with
  | done a => rfl
  | call c next ih => simp [bind, ih]

instance : LawfulMonad Program :=
  .mk' Program bind_done (fun _ _ => rfl) bind_assoc

end Program

end AgentFacts
