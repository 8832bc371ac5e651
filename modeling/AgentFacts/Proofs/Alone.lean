import AgentFacts.Proofs.FaultPlans

namespace AgentFacts

def Journal.tally (j : Journal) (c : Counter) : Nat :=
  (j.counts.get? c.text).getD 0

namespace World

/-- Lets the time pass that a task waits for, if it is not over. -/
def await (w : World) (task : TaskId) : World :=
  match w.timerOf? task with
  | none => w
  | some deadline => if deadline ≤ w.clock then w else { w with clock := deadline }

/-- Answers a call while nobody else does anything: who has to wait is asked once more when the time
has passed. -/
def answerAlone (w : World) (task : TaskId) (c : Call) : Option (c.Reply × World) :=
  match w.answer task c with
  | .reply reply w' => some (reply, w')
  | .wait w' =>
    match (w'.await task).answer task c with
    | .reply reply w'' => some (reply, w'')
    | .wait _ => none

/-- Runs a program while nobody else does anything, if it does come to an end. -/
def runAlone (w : World) (task : TaskId) : Program α → Option (α × World)
  | .done a => some (a, w)
  | .call c next =>
    match w.answerAlone task c with
    | some (reply, w') => runAlone w' task (next reply)
    | none => none

end World

/-- Nobody waits for the lock. -/
structure ModelStore.Unclaimed (s : ModelStore) : Prop where
  line : s.line = []
  granted : ∀ owner, s.lock ≠ .granted owner

namespace ModelStore

variable {s : ModelStore} {task : TaskId}

theorem Unclaimed.release (h : s.Unclaimed) : s.release.Unclaimed := by
  unfold ModelStore.release
  rw [h.line]
  exact ⟨rfl, fun owner h => by cases h⟩

theorem Unclaimed.hold (h : s.Unclaimed) (task : TaskId) (copy : ReadModels) :
    Unclaimed { s with lock := .held task copy } :=
  ⟨h.line, fun owner h => by cases h⟩

theorem Unclaimed.inTransaction (h : s.Unclaimed) {f : ReadModels → α × ReadModels} :
    (s.inTransaction task f).2.Unclaimed := by
  unfold ModelStore.inTransaction
  split
  · exact h
  · exact h.hold task _

theorem Unclaimed.commit (h : s.Unclaimed) : (s.commit task).2.Unclaimed := by
  unfold ModelStore.commit
  split
  · exact h
  next copy _ => exact Unclaimed.release (s := { s with committed := copy }) ⟨h.line, h.granted⟩

theorem Unclaimed.rollback (h : s.Unclaimed) : (s.rollback task).2.Unclaimed := by
  unfold ModelStore.rollback
  split
  · exact h
  · exact h.release

theorem Unclaimed.drop (h : s.Unclaimed) : (s.drop task).Unclaimed := by
  unfold ModelStore.drop
  split
  · exact h.release
  · exact h

theorem Unclaimed.record (h : s.Unclaimed) (r : OutcomeRecord) : (s.record r).2.Unclaimed :=
  Unclaimed.release (s := { s with committed := s.committed.record r }) ⟨h.line, h.granted⟩

end ModelStore

namespace World

variable {w w' : World} {task : TaskId}

theorem inTransaction_unclaimed {site : ModelSite}
    {f : ModelStore → Except ProjectionError α × ModelStore}
    {reply : Except (Halt ProjectionError) α} (h : w.inTransaction site f = .reply reply w')
    (hu : w.models.Unclaimed) (hf : w.models.Unclaimed → (f w.models).2.Unclaimed) :
    w'.models.Unclaimed := by
  rcases inTransaction_reply h with ⟨_, _, _, hw⟩ | ⟨_, hw⟩
  · rw [hw]
    exact hu
  · rw [hw]
    exact hf hu

theorem withLock_unclaimed {site : ModelSite} {f : ModelStore → α × ModelStore}
    {reply : Except (Halt ProjectionError) α} (h : w.withLock task site f = .reply reply w')
    (hu : w.models.Unclaimed) (hf : w.models.Unclaimed → (f w.models).2.Unclaimed) :
    w'.models.Unclaimed := by
  rcases withLock_reply h with ⟨_, _, _, hw⟩ | ⟨_, _, hw⟩
  · rw [hw]
    exact hu
  · rw [hw]
    exact hf hu

/-- A task that is answered has nobody waiting after it, if nobody waited before. -/
theorem answer_unclaimed {σ : Standing} {c : Call} {reply : c.Reply} (ha : σ.allows c)
    (h : w.answer task c = .reply reply w') (hu : w.models.Unclaimed) : w'.models.Unclaimed := by
  cases c with
  | begin =>
    simp only [answer] at h
    exact withLock_unclaimed h hu fun hu => hu.hold task _
  | record r =>
    simp only [answer] at h
    exact withLock_unclaimed h hu fun hu => hu.record r
  | find source eventType =>
    simp only [answer] at h
    exact inTransaction_unclaimed h hu fun hu => hu.inTransaction
  | write write =>
    simp only [answer] at h
    exact inTransaction_unclaimed h hu fun hu => hu.inTransaction
  | recordIn r =>
    simp only [answer] at h
    exact inTransaction_unclaimed h hu fun hu => hu.inTransaction
  | commit =>
    simp only [answer] at h
    exact inTransaction_unclaimed h hu fun hu => hu.commit
  | rollback =>
    simp only [answer] at h
    exact inTransaction_unclaimed h hu fun hu => hu.rollback
  | drop =>
    cases h
    rw [withModels_models]
    exact hu.drop
  | sleep span =>
    rw [sleep_models h]
    exact hu
  | now =>
    cases h
    exact hu
  | count c =>
    cases h
    exact hu
  | log event =>
    cases h
    exact hu
  | read _ => exact ha.elim
  | readLog _ => exact ha.elim
  | persist _ => exact ha.elim
  | openStream _ => exact ha.elim
  | nextItem => exact ha.elim
  | send _ _ => exact ha.elim
  | attend _ _ => exact ha.elim
  | visit _ => exact ha.elim

end World

namespace Counter

/-- Only that counter counts under the name of the failures that could not be noted. -/
theorem text_ne_ledgerWriteFailed {c : Counter} (h : c ≠ .ledgerWriteFailed) :
    c.text ≠ Counter.ledgerWriteFailed.text := by
  intro ht
  have hl := congrArg String.toList ht
  cases c with
  | ledgerWriteFailed => exact h rfl
  | dispatched outcome => simp [text, labelled] at hl
  | collectRequest status => simp [text, labelled] at hl
  | heartbeatRequest status => simp [text, labelled] at hl
  | _ => exact absurd ht (by decide)

end Counter

namespace Journal

theorem tally_count_self (j : Journal) (c : Counter) : (j.count c).tally c = j.tally c + 1 := by
  unfold tally count
  rw [Table.get?_insert_self]
  rfl

theorem tally_count_ne {j : Journal} {c d : Counter} (h : d.text ≠ c.text) :
    (j.count c).tally d = j.tally d := by
  unfold tally count
  rw [Table.get?_insert_ne h]

end Journal

namespace World

variable {w w' : World} {task : TaskId}

theorem wake_journal (w : World) (task : TaskId) : (w.wake task).journal = w.journal := by
  unfold wake
  split
  · rfl
  · split <;> rfl

@[simp] theorem withModels_journal (w : World) (models : ModelStore) :
    (w.withModels models).journal = w.journal := by
  unfold withModels
  dsimp only
  split
  · split
    · rfl
    · exact wake_journal ..
  · rfl

theorem limitTimer_journal (w : World) (task : TaskId) (limit : Option Span) :
    (w.limitTimer task limit).journal = w.journal := by
  unfold limitTimer
  split
  · rfl
  · split <;> rfl

theorem inTransaction_journal {site : ModelSite}
    {f : ModelStore → Except ProjectionError α × ModelStore}
    {reply : Except (Halt ProjectionError) α} (h : w.inTransaction site f = .reply reply w') :
    w'.journal = w.journal := by
  unfold inTransaction at h
  split at h
  · cases h
    rfl
  · cases h
    exact withModels_journal ..

theorem withLock_journal {site : ModelSite} {f : ModelStore → α × ModelStore}
    {reply : Except (Halt ProjectionError) α} (h : w.withLock task site f = .reply reply w') :
    w'.journal = w.journal := by
  unfold withLock at h
  dsimp only at h
  split at h
  · cases h
    rfl
  · split at h
    · cases h
      exact withModels_journal ..
    · cases h

theorem sleep_journal {span : Span} {reply : Unit} (h : w.sleep task span = .reply reply w') :
    w'.journal = w.journal := by
  unfold sleep at h
  dsimp only at h
  split at h
  · cases h
    exact limitTimer_journal ..
  · cases h

/-- The count of the failures that could not be noted is the task's own count of them. -/
theorem answer_tally {A : Accord} {σ σ' : Standing} {c : Call} {reply : c.Reply} (ha : σ.allows c)
    (h : w.answer task c = .reply reply w') (hr : A.Reacts σ c reply σ') :
    w'.journal.tally .ledgerWriteFailed + σ.lost =
      w.journal.tally .ledgerWriteFailed + σ'.lost := by
  have hsame : w'.journal = w.journal → σ'.lost = σ.lost →
      w'.journal.tally .ledgerWriteFailed + σ.lost =
        w.journal.tally .ledgerWriteFailed + σ'.lost := by
    intro hj hl
    rw [hj, hl]
  cases c with
  | begin =>
    simp only [answer] at h
    exact hsame (withLock_journal h) (A.locking_lost hr fun _ => rfl)
  | record r =>
    simp only [answer] at h
    exact hsame (withLock_journal h) (A.locking_lost hr fun _ => rfl)
  | find source eventType =>
    simp only [answer] at h
    exact hsame (inTransaction_journal h) (A.within_lost hr fun _ => rfl)
  | write write =>
    simp only [answer] at h
    exact hsame (inTransaction_journal h) (A.within_lost hr fun _ => rfl)
  | recordIn r =>
    simp only [answer] at h
    exact hsame (inTransaction_journal h) (A.within_lost hr fun _ => rfl)
  | commit =>
    simp only [answer] at h
    exact hsame (inTransaction_journal h) (A.within_lost hr fun _ => rfl)
  | rollback =>
    simp only [answer] at h
    exact hsame (inTransaction_journal h) (A.within_lost hr fun _ => rfl)
  | drop =>
    cases h
    cases hr
    exact hsame (withModels_journal ..) rfl
  | sleep span =>
    cases hr
    exact hsame (sleep_journal h) rfl
  | now =>
    cases h
    cases hr
    rfl
  | count c =>
    cases h
    cases hr
    unfold Standing.countLost
    by_cases hc : c = .ledgerWriteFailed
    · subst hc
      rw [if_pos ⟨ha rfl, rfl⟩]
      simp only [withJournal, Journal.tally_count_self]
      omega
    · rw [if_neg fun h => hc h.2]
      simp only [withJournal,
        Journal.tally_count_ne (Ne.symm (Counter.text_ne_ledgerWriteFailed hc))]
  | log event =>
    cases h
    cases hr
    rfl
  | read _ => exact ha.elim
  | readLog _ => exact ha.elim
  | persist _ => exact ha.elim
  | openStream _ => exact ha.elim
  | nextItem => exact ha.elim
  | send _ _ => exact ha.elim
  | attend _ _ => exact ha.elim
  | visit _ => exact ha.elim

end World

/-- The terms allow for the failures that are to come. -/
def Accord.Bears (A : Accord) (w : World) : Prop :=
  w.faults ≠ .none → A.faulty

theorem Accord.Bears.answer {A : Accord} {w : World} (h : A.Bears w) (task : TaskId) (c : Call) :
    A.Bears (w.answer task c).world :=
  fun hf => h fun hn => hf (hn ▸ w.within_answer task c).eq_none

/-- A task has the stores to itself; `told` failures had been counted before. -/
structure Lone (A : Accord) (task : TaskId) (told : Nat) (σ : Standing) (w : World) : Prop where
  fits : σ.Fits A task w.models
  unclaimed : w.models.Unclaimed
  held : ∀ {owner copy}, w.models.lock = .held owner copy → owner = task
  tally : w.journal.tally .ledgerWriteFailed = told + σ.lost

namespace Lone

variable {A : Accord} {task : TaskId} {told : Nat} {σ : Standing} {w w' : World}

theorem start (task : TaskId) (h : w.models.lock = .free) (hl : w.models.line = []) :
    Lone A task (w.journal.tally .ledgerWriteFailed) (.fresh w.models.committed) w where
  fits := by
    refine ⟨fun hc => (by cases hc), fun _ => ⟨fun copy hc => ?_, A.drift_refl _⟩⟩
    rw [h] at hc
    cases hc
  unclaimed := by
    refine ⟨hl, fun owner hc => ?_⟩
    rw [h] at hc
    cases hc
  held hh := by
    rw [h] at hh
    cases hh
  tally := rfl

/-- The lock is free whenever the task has no transaction open. -/
theorem lock_free (h : Lone A task told σ w) (hc : σ.copy = none) : w.models.lock = .free := by
  cases hl : w.models.lock with
  | free => rfl
  | granted owner => exact absurd hl (h.unclaimed.granted owner)
  | held owner copy =>
    obtain rfl := h.held hl
    exact absurd hl ((h.fits.outside hc).1 copy)

theorem admits (h : Lone A task told σ w) (hc : σ.copy = none) : w.models.admits task = true := by
  unfold ModelStore.admits
  rw [h.lock_free hc]

theorem reply {c : Call} {reply : c.Reply} (hA : A.Bears w) (h : Lone A task told σ w)
    (ha : σ.allows c) (hr : w.answer task c = .reply reply w') :
    A.Bears w' ∧ ∃ σ', A.Reacts σ c reply σ' ∧ Lone A task told σ' w' := by
  obtain ⟨σ', hre, hfit, hturn, -⟩ := World.answer_reply hA h.fits hr
  have hb : A.Bears (w.answer task c).world := hA.answer task c
  rw [hr] at hb
  refine ⟨hb, σ', hre, hfit, World.answer_unclaimed ha hr h.unclaimed, ?_, ?_⟩
  · intro owner copy hl
    by_cases he : owner = task
    · exact he
    · exact h.held ((hturn.held_iff he).1 hl)
  · have ht := World.answer_tally ha hr hre
    have := h.tally
    omega

theorem await (h : Lone A task told σ w) : Lone A task told σ (w.await task) := by
  unfold World.await
  split
  · exact h
  · split
    · exact h
    · exact ⟨h.fits, h.unclaimed, h.held, h.tally⟩

theorem bears_await (hA : A.Bears w) : A.Bears (w.await task) := by
  unfold World.await
  split
  · exact hA
  · split <;> exact hA

end Lone

namespace World

variable {w w' : World} {task : TaskId}

theorem answerAlone_of_reply {c : Call} {reply : c.Reply} (h : w.answer task c = .reply reply w') :
    w.answerAlone task c = some (reply, w') := by
  unfold answerAlone
  rw [h]

theorem answerAlone_of_wait {c : Call} {reply : c.Reply} {w'' : World}
    (h : w.answer task c = .wait w') (h' : (w'.await task).answer task c = .reply reply w'') :
    w.answerAlone task c = some (reply, w'') := by
  unfold answerAlone
  rw [h]
  dsimp only
  rw [h']

theorem timerOf?_limitTimer (w : World) (task : TaskId) (span : Span) :
    ∃ deadline, (w.limitTimer task (some span)).timerOf? task = some deadline := by
  unfold limitTimer
  dsimp only
  split
  next h => exact Option.isSome_iff_exists.1 h
  next h =>
    have hn : w.timers.find? (·.task == task) = none := by
      simpa [timerOf?] using h
    refine ⟨⟨w.clock.nanos + span.nanos⟩, ?_⟩
    unfold timerOf? setTimer
    rw [List.find?_append, hn]
    simp

theorem isExpired_await {deadline : Span} (h : w.timerOf? task = some deadline) :
    (w.await task).timerOf? task = some deadline ∧ (w.await task).isExpired task = true := by
  unfold await
  rw [h]
  dsimp only
  split
  next hle => exact ⟨h, by simp [isExpired, h, hle]⟩
  next =>
    have ht : timerOf? { w with clock := deadline } task = some deadline := h
    refine ⟨ht, ?_⟩
    unfold isExpired
    rw [ht]
    exact decide_eq_true (Nat.le_refl deadline.nanos)

theorem sleep_of_expired {span : Span} (ht : (w.timerOf? task).isSome = true)
    (he : w.isExpired task = true) : w.sleep task span = .reply () (w.clearTimer task) := by
  have hl : w.limitTimer task (some span) = w := if_pos ht
  unfold sleep
  rw [hl]
  exact if_pos he

/-- Who sleeps is done with it when the time has passed. -/
theorem sleep_await {span : Span} (h : w.sleep task span = .wait w') :
    w'.journal = w.journal ∧
      ∃ w'', (w'.await task).sleep task span = .reply () w'' := by
  unfold sleep at h
  dsimp only at h
  split at h
  · cases h
  · cases h
    refine ⟨limitTimer_journal .., ?_⟩
    obtain ⟨deadline, ht⟩ := timerOf?_limitTimer w task span
    obtain ⟨ht', he⟩ := isExpired_await ht
    exact ⟨_, sleep_of_expired (by rw [ht']; rfl) he⟩

end World

namespace Lone

variable {A : Accord} {task : TaskId} {told : Nat} {σ : Standing} {w : World}

theorem sleep (hA : A.Bears w) (h : Lone A task told σ w) {w' : World} {span : Span}
    (hr : w.sleep task span = .wait w') :
    ∃ w'', w.answerAlone task (.sleep span) = some ((), w'') ∧
      A.Bears w'' ∧ ∃ σ', A.Reacts σ (.sleep span) () σ' ∧ Lone A task told σ' w'' := by
  obtain ⟨hj, w'', hs⟩ := World.sleep_await hr
  have hm := World.sleep_wait hr
  have hspare : World.Spares task w _ := World.spares_sleep w span
  rw [hr] at hspare
  have hb : A.Bears w' := fun hf => hA (hspare.faults ▸ hf)
  have h' : Lone A task told σ w' := by
    refine ⟨?_, ?_, ?_, ?_⟩
    · rw [hm]
      exact h.fits
    · rw [hm]
      exact h.unclaimed
    · rw [hm]
      exact h.held
    · rw [hj]
      exact h.tally
  exact ⟨w'', World.answerAlone_of_wait hr hs, h'.await.reply (bears_await hb) trivial hs⟩

/-- Every call of a task that has the stores to itself is answered. -/
theorem answerAlone {c : Call} (hA : A.Bears w) (h : Lone A task told σ w) (ha : σ.allows c) :
    ∃ reply w', w.answerAlone task c = some (reply, w') ∧
      A.Bears w' ∧ ∃ σ', A.Reacts σ c reply σ' ∧ Lone A task told σ' w' := by
  cases hr : w.answer task c with
  | reply reply w' => exact ⟨reply, w', World.answerAlone_of_reply hr, h.reply hA ha hr⟩
  | wait w' =>
    rcases World.answer_wait_cases hr with ⟨hc, hn, -⟩ | ⟨span, rfl⟩ | ⟨e, limit, rfl⟩
    · rw [h.admits (Standing.copy_of_needsLock ha hc)] at hn
      cases hn
    · obtain ⟨w'', hw⟩ := h.sleep hA hr
      exact ⟨(), w'', hw⟩
    · exact ha.elim

/-- A program that keeps to its terms comes to an end as it promises when nobody else does anything.
Where no store was to fail, none is to fail afterwards. -/
theorem runAlone_bears (hA : A.Bears w) (hd : ∀ {σ c}, A.admits σ c → σ.allows c) {p : Program α}
    {Q : Standing → α → Prop} (hp : p.Meets A Q σ) (h : Lone A task told σ w) :
    ∃ a w', w.runAlone task p = some (a, w') ∧
      A.Bears w' ∧ ∃ σ', Q σ' a ∧ Lone A task told σ' w' := by
  induction p generalizing σ w with
  | done a => exact ⟨a, w, rfl, hA, σ, hp, h⟩
  | call c next ih =>
    obtain ⟨hc, hn⟩ := hp
    obtain ⟨reply, w', hw, hA', σ', hr, h'⟩ := h.answerAlone hA (hd hc.1)
    unfold World.runAlone
    rw [hw]
    exact ih reply hA' (hn reply σ' hr) h'

/-- When the terms allow for failures, it does not matter which of them are to come. -/
theorem runAlone (hA : A.faulty) (hd : ∀ {σ c}, A.admits σ c → σ.allows c) {p : Program α}
    {Q : Standing → α → Prop} (hp : p.Meets A Q σ) (h : Lone A task told σ w) :
    ∃ a w', w.runAlone task p = some (a, w') ∧ ∃ σ', Q σ' a ∧ Lone A task told σ' w' := by
  obtain ⟨a, w', hw, -, hrest⟩ := h.runAlone_bears (fun _ => hA) hd hp
  exact ⟨a, w', hw, hrest⟩

end Lone

end AgentFacts
