import AgentFacts.Journal
import AgentFacts.Retry

namespace AgentFacts

namespace RetryPolicy

def pauseEvent (policy : RetryPolicy) (number : Nat) (error : String) (delay : Span) : LogEvent where
  level := .warn
  message := "transient failure, retrying"
  fields := [
    ("attempt", .nat number),
    ("max_attempts", .nat policy.maxAttempts.toNat),
    ("delay_ms", .nat delay.millis),
    ("error", .text error)]

end RetryPolicy

structure Setback where
  error : String
  retryable : Bool
deriving DecidableEq

/-- What happened so far, the latest first. -/
structure Rehearsal where
  elapsed : Span
  attempts : List (Nat × Span)
  events : List LogEvent

namespace Rehearsal

def start : Rehearsal := ⟨.zero, [], []⟩

/-- Makes an attempt; the last result is that of all further attempts. -/
def attempt (script : List (Option Setback)) (number : Nat) :
    StateM Rehearsal (Except Setback Nat) := do
  modify fun r => { r with attempts := (number, r.elapsed) :: r.attempts }
  match script[min number script.length - 1]?.join with
  | none => return .ok number
  | some setback => return .error setback

def pause (policy : RetryPolicy) (number : Nat) (setback : Setback) (delay : Span) :
    StateM Rehearsal Unit :=
  modify fun r => { r with
    elapsed := ⟨r.elapsed.nanos + delay.nanos⟩
    events := policy.pauseEvent number setback.error delay :: r.events }

end Rehearsal

def RetryPolicy.rehearse (policy : RetryPolicy) (script : List (Option Setback)) :
    Except Setback Nat × Rehearsal :=
  (policy.retry Setback.retryable (Rehearsal.pause policy) (Rehearsal.attempt script)).run .start

end AgentFacts
