import AgentFacts.Time.Span

namespace AgentFacts

/-- Attempts are made until `maxAttempts` of them have failed. The pause after the first one is
`baseDelay`; every further pause is twice as long, up to `maxDelay`. -/
structure RetryPolicy where
  maxAttempts : UInt32
  baseDelay : Span
  maxDelay : Span
deriving DecidableEq, Inhabited

namespace RetryPolicy

/-- At least one attempt, and pauses of up to five seconds. -/
def new (maxAttempts : UInt32) (baseDelay : Span) : RetryPolicy where
  maxAttempts := if maxAttempts = 0 then 1 else maxAttempts
  baseDelay
  maxDelay := .ofSeconds 5

def startup : RetryPolicy where
  maxAttempts := 8
  baseDelay := .ofMillis 500
  maxDelay := .ofSeconds 8

def single : RetryPolicy := new 1 .zero

def standard : RetryPolicy := new 3 (.ofMillis 100)

def maxFactor : Nat := Nat.pow 2 32 - 1

/-- Twice as large for each retry after the first, as far as the largest factor allows. -/
def factor (retry : Nat) : Nat :=
  if 33 ≤ retry then maxFactor else Nat.pow 2 (retry - 1)

def delayFor (policy : RetryPolicy) (retry : Nat) : Span :=
  (policy.baseDelay.times (factor retry)).shorter policy.maxDelay

variable {m : Type → Type} [Monad m] {ε α : Type}

/-- Runs `attempt` with the numbers from `number` on until it succeeds, fails for good, or has been
run `left` times more than once. -/
def retryFrom (policy : RetryPolicy) (isRetryable : ε → Bool)
    (pause : Nat → ε → Span → m Unit) (attempt : Nat → m (Except ε α)) :
    Nat → Nat → m (Except ε α)
  | 0, number => attempt number
  | left + 1, number => do
    match ← attempt number with
    | .ok a => return .ok a
    | .error error =>
      if isRetryable error then
        pause number error (policy.delayFor number)
        retryFrom policy isRetryable pause attempt left (number + 1)
      else return .error error

/-- Runs `attempt` with the numbers 1, 2, … under the policy, with pauses between the attempts. -/
def retry (policy : RetryPolicy) (isRetryable : ε → Bool)
    (pause : Nat → ε → Span → m Unit) (attempt : Nat → m (Except ε α)) : m (Except ε α) :=
  retryFrom policy isRetryable pause attempt (policy.maxAttempts.toNat - 1) 1

end RetryPolicy

end AgentFacts
