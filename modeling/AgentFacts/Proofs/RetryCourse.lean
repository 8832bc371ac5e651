import Mathlib.Algebra.Group.Nat.Defs
import Mathlib.Data.Nat.Find
import Mathlib.Order.Bounds.Basic
import Mathlib.Order.MinMax
import AgentFacts.Retry

namespace AgentFacts

namespace RetryPolicy

/-- What is done in the course of a retry. -/
inductive Deed (ε : Type) where
  | attempt (number : Nat)
  | pause (number : Nat) (error : ε) (delay : Span)

namespace Deed

variable {ε : Type}

def attempt? : Deed ε → Option Nat
  | .attempt number => some number
  | .pause _ _ _ => none

def pause? : Deed ε → Option (Nat × Span)
  | .attempt _ => none
  | .pause number _ delay => some (number, delay)

end Deed

variable {ε α : Type} {policy : RetryPolicy} {isRetryable : ε → Bool} {results : Nat → Except ε α}
  {number count k : Nat}

/-- The attempt fails with an error that is worth another attempt. -/
def FailsForNow (isRetryable : ε → Bool) (results : Nat → Except ε α) (number : Nat) : Prop :=
  ∃ error, results number = .error error ∧ isRetryable error = true

/-- How many attempts are made at most. Every policy allows one. -/
def allowed (policy : RetryPolicy) : Nat :=
  max 1 policy.maxAttempts.toNat

/-- A retry is over with an attempt that succeeds, or fails for good, or is the last one allowed. -/
def EndsWith (policy : RetryPolicy) (isRetryable : ε → Bool) (results : Nat → Except ε α)
    (number : Nat) : Prop :=
  (∃ a, results number = .ok a) ∨
    (∃ error, results number = .error error ∧ isRetryable error = false) ∨ number = policy.allowed

/-- The pause that the result of an attempt calls for. -/
def pauseAfter (policy : RetryPolicy) (number : Nat) : Except ε α → List (Deed ε)
  | .ok _ => []
  | .error error => [.pause number error (policy.delayFor number)]

/-- Some attempts, each with its pause, and one attempt more. -/
def deedsFrom (policy : RetryPolicy) (results : Nat → Except ε α) (number count : Nat) :
    List (Deed ε) :=
  (List.range' number count).flatMap
    (fun n => .attempt n :: policy.pauseAfter n (results n)) ++ [.attempt (number + count)]

/-- What is done in a retry that is over with the attempt `k`. -/
def deeds (policy : RetryPolicy) (results : Nat → Except ε α) (k : Nat) : List (Deed ε) :=
  policy.deedsFrom results 1 (k - 1)

theorem not_failsForNow_iff : ¬ FailsForNow isRetryable results number ↔
    (∃ a, results number = .ok a) ∨
      ∃ error, results number = .error error ∧ isRetryable error = false := by
  unfold FailsForNow
  cases results number with
  | ok a => simp
  | error error => simp

theorem endsWith_iff : policy.EndsWith isRetryable results number ↔
    ¬ FailsForNow isRetryable results number ∨ number = policy.allowed := by
  rw [not_failsForNow_iff, EndsWith, or_assoc]

theorem deedsFrom_zero :
    policy.deedsFrom results number 0 = [.attempt number] := rfl

theorem deedsFrom_succ {error : ε} (h : results number = .error error) :
    policy.deedsFrom results number (count + 1) =
      .attempt number :: .pause number error (policy.delayFor number) ::
        policy.deedsFrom results (number + 1) count := by
  simp only [deedsFrom, List.range'_succ, List.flatMap_cons, h, pauseAfter, List.cons_append,
    List.nil_append, Nat.add_right_comm number 1 count, Nat.add_assoc]

/-- Some attempts fail for now, and then comes one more: all are made, and a pause follows each but
the last. -/
theorem shown_deedsFrom (policy : RetryPolicy) (number : Nat)
    (hgoes : ∀ i < count, FailsForNow isRetryable results (number + i)) :
    (policy.deedsFrom results number count).filterMap Deed.attempt? =
        List.range' number (count + 1) ∧
      (policy.deedsFrom results number count).filterMap Deed.pause? =
        (List.range' number count).map fun n => (n, policy.delayFor n) := by
  induction count generalizing number with
  | zero => exact ⟨rfl, rfl⟩
  | succ count ih =>
    obtain ⟨error, he, -⟩ : FailsForNow isRetryable results number := hgoes 0 count.succ_pos
    obtain ⟨hattempts, hpauses⟩ := ih (number + 1) fun i hi => by
      have := hgoes (i + 1) (by omega)
      rwa [← Nat.add_assoc, Nat.add_right_comm] at this
    rw [deedsFrom_succ he, List.range'_succ, List.range'_succ (s := number) (n := count)]
    constructor
    · simp [List.filterMap_cons, Deed.attempt?, hattempts]
    · simp [List.filterMap_cons, Deed.pause?, hpauses]

section Runs

variable {m : Type → Type} [Monad m] {left : Nat}

def perform (act : Nat → m Unit) (pause : Nat → ε → Span → m Unit) : Deed ε → m Unit
  | .attempt number => act number
  | .pause number error delay => pause number error delay

def attemptWith (results : Nat → Except ε α) (act : Nat → m Unit) (number : Nat) :
    m (Except ε α) := do
  act number
  return results number

variable [LawfulMonad m] {act : Nat → m Unit} {pause : Nat → ε → Span → m Unit}

theorem retryFrom_of_ends (h : left = 0 ∨ ¬ FailsForNow isRetryable results number) :
    policy.retryFrom isRetryable pause (attemptWith results act) left number =
      attemptWith results act number := by
  cases left with
  | zero => rfl
  | succ left =>
    obtain ⟨a, ha⟩ | ⟨error, he, hno⟩ := not_failsForNow_iff.1 (h.resolve_left nofun)
    · simp [retryFrom, attemptWith, ha]
    · simp [retryFrom, attemptWith, he, hno]

theorem retryFrom_of_failsForNow {error : ε} (he : results number = .error error)
    (hyes : isRetryable error = true) :
    policy.retryFrom isRetryable pause (attemptWith results act) (left + 1) number = (do
      act number
      pause number error (policy.delayFor number)
      policy.retryFrom isRetryable pause (attemptWith results act) left (number + 1)) := by
  simp [retryFrom, attemptWith, he, hyes]

/-- As long as attempts fail for now and more are allowed, each is made with its pause. -/
theorem retryFrom_eq (left number : Nat)
    (hgoes : ∀ i < count, FailsForNow isRetryable results (number + i))
    (hends : left = count ∨ count < left ∧ ¬ FailsForNow isRetryable results (number + count)) :
    policy.retryFrom isRetryable pause (attemptWith results act) left number = do
      (policy.deedsFrom results number count).forM (perform act pause)
      return results (number + count) := by
  induction count generalizing left number with
  | zero =>
    have hover : left = 0 ∨ ¬ FailsForNow isRetryable results number := hends.imp_right And.right
    rw [retryFrom_of_ends hover, deedsFrom_zero]
    simp [perform, attemptWith]
  | succ count ih =>
    obtain ⟨error, he, hyes⟩ : FailsForNow isRetryable results number := hgoes 0 count.succ_pos
    obtain ⟨left, rfl⟩ : ∃ l, left = l + 1 := ⟨left - 1, by omega⟩
    have hnext : ∀ i, number + 1 + i = number + (i + 1) := fun i => by omega
    have hrest := ih left (number + 1)
      (fun i hi => hnext i ▸ hgoes (i + 1) (by omega))
      (by simpa [hnext] using hends)
    rw [retryFrom_of_failsForNow he hyes, hrest, deedsFrom_succ he]
    simp [perform, hnext]

end Runs

/-- How a retry goes that is over with the attempt `k`: what is done, in whichever way attempts and
pauses are made, and what comes of it. The numbers of the attempts fit into 32 bits. -/
structure Course (policy : RetryPolicy) (isRetryable : ε → Bool) (results : Nat → Except ε α)
    (k : Nat) : Prop where
  first : IsLeast {number | 1 ≤ number ∧ policy.EndsWith isRetryable results number} k
  counted : k < UInt32.size
  runs : ∀ {m : Type → Type} [Monad m] [LawfulMonad m] (act : Nat → m Unit)
    (pause : Nat → ε → Span → m Unit),
    policy.retry isRetryable pause (attemptWith results act) = do
      (policy.deeds results k).forM (perform act pause)
      return results k
  attempts : (policy.deeds results k).filterMap Deed.attempt? = List.range' 1 k
  pauses : (policy.deeds results k).filterMap Deed.pause? =
    (List.range' 1 (k - 1)).map fun number => (number, policy.delayFor number)

theorem allowed_lt (policy : RetryPolicy) : policy.allowed < UInt32.size :=
  Nat.max_lt.2 ⟨by decide, policy.maxAttempts.toNat_lt⟩

theorem exists_first (policy : RetryPolicy) (isRetryable : ε → Bool)
    (results : Nat → Except ε α) :
    ∃ k, IsLeast {number | 1 ≤ number ∧ policy.EndsWith isRetryable results number} k := by
  classical
  have hlast : ∃ number, 1 ≤ number ∧ policy.EndsWith isRetryable results number :=
    ⟨policy.allowed, Nat.le_max_left .., .inr (.inr rfl)⟩
  exact ⟨Nat.find hlast, Nat.find_spec hlast, fun _ h => Nat.find_min' hlast h⟩

theorem exists_course (policy : RetryPolicy) (isRetryable : ε → Bool)
    (results : Nat → Except ε α) : ∃ k, policy.Course isRetryable results k := by
  obtain ⟨k, hk⟩ := policy.exists_first isRetryable results
  have hle : k ≤ policy.allowed := hk.2 ⟨Nat.le_max_left .., .inr (.inr rfl)⟩
  obtain ⟨⟨hone, hends⟩, hleast⟩ := id hk
  have hlast : 1 + (k - 1) = k := by omega
  have hgoes : ∀ i < k - 1, FailsForNow isRetryable results (1 + i) := fun i hi => by
    by_contra hno
    have := hleast ⟨by omega, endsWith_iff.2 (.inl hno)⟩
    omega
  have hstops : policy.maxAttempts.toNat - 1 = k - 1 ∨ k - 1 < policy.maxAttempts.toNat - 1 ∧
      ¬ FailsForNow isRetryable results (1 + (k - 1)) := by
    rw [hlast]
    have hallowed : policy.allowed = max 1 policy.maxAttempts.toNat := rfl
    rcases Nat.eq_or_lt_of_le hle with rfl | hlt
    · left
      omega
    · right
      exact ⟨by omega, (endsWith_iff.1 hends).resolve_right hlt.ne⟩
  obtain ⟨hattempts, hpauses⟩ := shown_deedsFrom policy 1 hgoes
  refine ⟨k, hk, hle.trans_lt policy.allowed_lt, fun act pause => ?_, ?_, hpauses⟩
  · rw [retry, retryFrom_eq _ _ hgoes hstops, hlast, deeds]
  · rw [deeds, hattempts, Nat.sub_add_cancel hone]

theorem factor_eq (number : Nat) : factor number = min (2 ^ (number - 1)) maxFactor := by
  have hmax : maxFactor = 2 ^ 32 - 1 := rfl
  unfold factor
  split
  next h =>
    have : 2 ^ 32 ≤ 2 ^ (number - 1) := Nat.pow_le_pow_right (by decide) (by omega)
    omega
  next h =>
    have : 2 ^ (number - 1) ≤ 2 ^ 31 := Nat.pow_le_pow_right (by decide) (by omega)
    have hpow : Nat.pow 2 (number - 1) = 2 ^ (number - 1) := rfl
    omega

theorem factor_mono {i j : Nat} (h : i ≤ j) : factor i ≤ factor j := by
  rw [factor_eq, factor_eq]
  exact min_le_min_right _ (Nat.pow_le_pow_right (by decide) (Nat.sub_le_sub_right h 1))

theorem nanos_delayFor (policy : RetryPolicy) (number : Nat) :
    (policy.delayFor number).nanos =
      min (min (policy.baseDelay.nanos * factor number) Span.longest.nanos)
        policy.maxDelay.nanos := rfl

theorem delayFor_mono (policy : RetryPolicy) {i j : Nat} (h : i ≤ j) :
    policy.delayFor i ≤ policy.delayFor j := by
  change (policy.delayFor i).nanos ≤ (policy.delayFor j).nanos
  rw [nanos_delayFor, nanos_delayFor]
  exact min_le_min_right _ (min_le_min_right _ (Nat.mul_le_mul_left _ (factor_mono h)))

theorem delayFor_le_maxDelay (policy : RetryPolicy) (number : Nat) :
    policy.delayFor number ≤ policy.maxDelay :=
  Nat.min_le_right ..

/-- Nothing is lost to the largest factor and the longest span where the longest pause is reached
before them. -/
theorem nanos_delayFor_eq (hspan : policy.maxDelay.nanos ≤ Span.longest.nanos)
    (hfactor : policy.baseDelay.nanos = 0 ∨
      policy.maxDelay.nanos ≤ policy.baseDelay.nanos * maxFactor) (number : Nat) :
    (policy.delayFor number).nanos =
      min (policy.baseDelay.nanos * 2 ^ (number - 1)) policy.maxDelay.nanos := by
  rw [nanos_delayFor, min_assoc, min_eq_right hspan, factor_eq]
  rcases Nat.le_total (2 ^ (number - 1)) maxFactor with hle | hle
  · rw [min_eq_left hle]
  · rw [min_eq_right hle]
    rcases hfactor with hzero | hreached
    · rw [hzero, Nat.zero_mul, Nat.zero_mul]
    · rw [min_eq_right hreached,
        min_eq_right (hreached.trans (Nat.mul_le_mul_left _ hle))]

/-- The policies at hand: for some number of attempts with a first pause of whole milliseconds, the
one for the start of a program, and the standard one. -/
inductive AtHand : RetryPolicy → Prop where
  | new (attempts : UInt32) (ms : Nat) : AtHand (.new attempts (.ofMillis ms))
  | startup : AtHand .startup
  | standard : AtHand .standard

/-- From a millisecond on, the largest factor leads beyond any pause of up to eight seconds. -/
theorem maxDelay_le_millis {ms : Nat} (h : policy.baseDelay = .ofMillis ms)
    (hmax : policy.maxDelay ≤ .ofSeconds 8) : policy.baseDelay.nanos = 0 ∨
      policy.maxDelay.nanos ≤ policy.baseDelay.nanos * maxFactor := by
  have hmax : policy.maxDelay.nanos ≤ 8000000000 := hmax
  have hfactor : maxFactor = 4294967295 := rfl
  rw [h, Span.ofMillis]
  cases ms with
  | zero => exact .inl rfl
  | succ ms =>
    right
    dsimp only
    rw [hfactor]
    omega

theorem AtHand.nanos_delayFor (h : policy.AtHand) (number : Nat) :
    (policy.delayFor number).nanos =
      min (policy.baseDelay.nanos * 2 ^ (number - 1)) policy.maxDelay.nanos := by
  have hmillis : ∃ ms, policy.baseDelay = .ofMillis ms := by
    cases h with
    | new attempts ms => exact ⟨ms, rfl⟩
    | startup => exact ⟨500, rfl⟩
    | standard => exact ⟨100, rfl⟩
  have hmax : policy.maxDelay ≤ .ofSeconds 8 := by
    cases h with
    | new attempts ms => exact (by decide : Span.ofSeconds 5 ≤ .ofSeconds 8)
    | startup => exact Nat.le_refl _
    | standard => exact (by decide : Span.ofSeconds 5 ≤ .ofSeconds 8)
  obtain ⟨ms, hms⟩ := hmillis
  exact nanos_delayFor_eq (Nat.le_trans hmax (by decide)) (maxDelay_le_millis hms hmax) number

/-- Under every policy, whatever the attempts result in: a retry makes the attempts from the first
one on up to the one it is over with, pauses once after each that is followed by another, and gives
the last result. The pauses never get shorter nor longer than allowed, and under the policies at
hand they are the exact powers of two up to that. -/
theorem attempts_and_pauses (policy : RetryPolicy) :
    (∀ {ε α : Type} (isRetryable : ε → Bool) (results : Nat → Except ε α),
      ∃ k, policy.Course isRetryable results k) ∧
    (∀ i j, i ≤ j → policy.delayFor i ≤ policy.delayFor j) ∧
    (∀ number, policy.delayFor number ≤ policy.maxDelay) ∧
    (policy.AtHand → ∀ number, 1 ≤ number → (policy.delayFor number).nanos =
      min (policy.baseDelay.nanos * 2 ^ (number - 1)) policy.maxDelay.nanos) :=
  ⟨policy.exists_course, fun _ _ h => policy.delayFor_mono h, policy.delayFor_le_maxDelay,
    fun h number _ => h.nanos_delayFor number⟩

end RetryPolicy

end AgentFacts
