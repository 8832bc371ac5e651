import AgentFacts.Dispatch
import AgentFacts.Proofs.Accord
import AgentFacts.Proofs.Staleness

namespace AgentFacts

/-- What a projector may make of an envelope. -/
structure Effect where
  makes : ReadModels → ReadModels → Prop
  fails : ProjectionError → Prop

def Projector.blame : Halt ProjectionError → ProjectionError
  | .error error => error
  | .panic => .panicked

/-- A task is outside of a transaction, and what it could not note is what it was. -/
structure Standing.Idle (A : Accord) (base : ReadModels) (lost : Nat) (σ : Standing) : Prop where
  copy : σ.copy = none
  lost : σ.lost = lost
  drift : A.drift base σ.seen

/-- A task has a transaction open. -/
structure Standing.Open (A : Accord) (base : ReadModels) (lost : Nat) (σ : Standing) : Prop where
  copy : ∃ copy, σ.copy = some copy
  lost : σ.lost = lost
  drift : A.drift base σ.seen

namespace Standing

variable {A : Accord} {base : ReadModels} {lost : Nat} {σ : Standing}

theorem Idle.fresh (A : Accord) (base : ReadModels) : (Standing.fresh base).Idle A base 0 :=
  ⟨rfl, rfl, A.drift_refl base⟩

theorem Idle.hit (h : σ.Idle A base lost) : σ.hit.Idle A base lost :=
  ⟨h.copy, h.lost, h.drift⟩

theorem Open.hit (h : σ.Open A base lost) : σ.hit.Open A base lost :=
  ⟨h.copy, h.lost, h.drift⟩

theorem Open.withCopy (h : σ.Open A base lost) (m : ReadModels) :
    (σ.withCopy m).Open A base lost :=
  ⟨⟨m, rfl⟩, h.lost, h.drift⟩

theorem Open.closed (h : σ.Open A base lost) : (σ.closed σ.seen).Idle A base lost :=
  ⟨rfl, h.lost, h.drift⟩

theorem countLost_of_ne {c : Counter} (h : c ≠ .ledgerWriteFailed) : σ.countLost c = σ :=
  if_neg fun hc => h hc.2

end Standing

/-- A projector does to an open transaction what is said of it, and fails only as is said, unless
the store fails. -/
def Projector.Does (A : Accord) (f : Effect) (p : Projector) (e : Envelope) : Prop :=
  ∀ {base lost σ copy}, Standing.Open A base lost σ → σ.copy = some copy →
    (p.project e).Meets A
      (fun σ' _ => σ'.Open A base lost ∧ σ'.seen = σ.seen ∧
        ∃ copy', σ'.copy = some copy' ∧ f.makes copy copy')
      (fun σ' halt => σ'.Open A base lost ∧ σ'.seen = σ.seen ∧
        (A.faulty ∧ σ'.struck = true ∨ f.fails (blame halt)))
      σ

/-- What a dispatcher asks of the terms on which it works. -/
structure Accord.Serves (A : Accord) (x : Executor) (e : Envelope) (f : Effect) : Prop where
  does : ∀ {p}, x.registry.find? e.eventType = some p → p.Does A f e
  commits : ∀ {m m'} (time : Instant), ¬ m.Stale e → f.makes m m' →
    A.commits m (m'.record (.ofEnvelope e .success time))
  notes : ∀ {σ} (reason : String) (time : Instant),
    σ.struck = true ∨ x.registry.find? e.eventType = none ∨ ¬ σ.seen.Stale e →
    A.notes σ (.ofEnvelope e (.failure reason) time)

namespace Executor

variable {A : Accord} {f : Effect} {x : Executor} {e : Envelope} {base : ReadModels} {lost : Nat}
  {σ : Standing}

/-- Why a projection halts: the store failed, or the projector did on an envelope that was due. -/
def Excused (A : Accord) (f : Effect) (e : Envelope) (σ : Standing)
    (halt : Halt ProjectionError) : Prop :=
  A.faulty ∧ σ.struck = true ∨
    ¬ σ.seen.Stale e ∧ ∃ error, f.fails error ∧ halt = .error error

/-- What a projection comes to, from the time when the read models were `base`. -/
inductive Settled (A : Accord) (f : Effect) (e : Envelope) (base : ReadModels) (lost : Nat) :
    Standing → Projected → Prop where
  | applied {σ : Standing} {m m' : ReadModels} {time : Instant} (drift : A.drift base m)
      (due : ¬ m.Stale e) (made : f.makes m m')
      (seen : σ.seen = m'.record (.ofEnvelope e .success time)) (copy : σ.copy = none)
      (kept : σ.lost = lost) : Settled A f e base lost σ .applied
  | stale {σ : Standing} (idle : σ.Idle A base lost) (stale : σ.seen.Stale e) :
    Settled A f e base lost σ .stale

theorem Settled.closed {result : Projected} (h : Settled A f e base lost σ result) :
    Settled A f e base lost (σ.closed σ.seen) result := by
  have hc : σ.copy = none := by
    cases h with
    | applied _ _ _ _ copy _ => exact copy
    | stale idle _ => exact idle.copy
  rw [Standing.closed_self hc]
  exact h

theorem Excused.hit {halt : Halt ProjectionError} (h : A.faulty) : Excused A f e σ.hit halt :=
  .inl ⟨h, rfl⟩

theorem meets_runProjector {p : Projector} {copy : ReadModels} (hp : p.Does A f e)
    (ho : σ.Open A base lost) (hc : σ.copy = some copy) (hs : ¬ σ.seen.Stale e) :
    (runProjector p e).Meets A
      (fun σ' _ => σ'.Open A base lost ∧ σ'.seen = σ.seen ∧
        ∃ copy', σ'.copy = some copy' ∧ f.makes copy copy')
      (fun σ' halt => σ'.Open A base lost ∧ Excused A f e σ' halt) σ := by
  unfold runProjector
  rw [Projection.meets_bind, Projection.meets_settle]
  refine (hp ho hc).mono (fun _ _ h => h) ?_
  intro σ' halt hpost
  obtain ⟨ho', hseen, hf⟩ := hpost
  have hx : Excused A f e σ' (.error (Projector.blame halt)) := by
    rcases hf with hf | hf
    · exact .inl hf
    · rw [← hseen] at hs
      exact .inr ⟨hs, _, hf, rfl⟩
  cases halt with
  | error error => exact ⟨ho', hx⟩
  | panic =>
    show Projection.Meets A _ _ (_ >>= _) σ'
    rw [Projection.meets_bind, Projection.meets_lift]
    exact Program.meets_log ⟨ho', hx⟩

/-- What an open transaction has come to: nothing for a stale envelope, or else the projector's
change and the note of it. -/
def Prepared (A : Accord) (f : Effect) (e : Envelope) (σ : Standing) :
    Except (Halt ProjectionError) Projected → Prop
  | .ok .applied => ¬ σ.seen.Stale e ∧ ∃ copy time, f.makes σ.seen copy ∧
      σ.copy = some (copy.record (.ofEnvelope e .success time))
  | .ok .stale => σ.seen.Stale e
  | .error halt => Excused A f e σ halt

theorem meets_projectIn {p : Projector} (hp : p.Does A f e) (ho : σ.Open A base lost)
    (hc : σ.copy = some σ.seen) :
    (projectIn p e).Meets A (fun σ' result => σ'.Open A base lost ∧ Prepared A f e σ' (.ok result))
      (fun σ' halt => σ'.Open A base lost ∧ Prepared A f e σ' (.error halt)) σ := by
  unfold projectIn
  rw [Projection.meets_bind]
  refine Projection.meets_find hc ?_ fun hf halt => ⟨ho.hit, .hit hf⟩
  split
  next hs => exact ⟨ho, ReadModels.stale_iff.1 hs⟩
  next hs =>
    have hs : ¬ σ.seen.Stale e := fun h => hs (ReadModels.stale_iff.2 h)
    rw [Projection.meets_bind]
    refine (meets_runProjector hp ho hc hs).mono ?_ fun _ _ h => h
    intro σ' _ hpost
    obtain ⟨ho', hseen, copy', hc', hm⟩ := hpost
    rw [← hseen] at hs hm
    rw [Projection.meets_bind, Projection.meets_lift]
    refine Program.meets_now fun time => ?_
    rw [Projection.meets_bind]
    refine Projection.meets_recordIn hc' ?_ fun hf halt => ⟨ho'.hit, .hit hf⟩
    exact ⟨ho'.withCopy _, hs, copy', time, hm, rfl⟩

/-- However a transaction ends, it is closed at the latest when it is let go. -/
theorem meets_conclude (hA : A.Serves x e f) {result : Except (Halt ProjectionError) Projected}
    (ho : σ.Open A base lost) (hr : Prepared A f e σ result) :
    (conclude result).Meets A (Settled A f e base lost)
      (fun σ' halt => (σ'.closed σ'.seen).Idle A base lost ∧ Excused A f e σ' halt) σ := by
  have hhit : A.faulty → ∀ halt,
      (σ.hit.closed σ.hit.seen).Idle A base lost ∧ Excused A f e σ.hit halt :=
    fun hf _ => ⟨ho.hit.closed, .hit hf⟩
  obtain ⟨copy, hc⟩ := ho.copy
  unfold conclude
  split
  · obtain ⟨hs, copy', time, hm, hc'⟩ := hr
    rw [Projection.meets_bind]
    exact Projection.meets_commit hc' (hA.commits time hs hm)
      (.applied ho.drift hs hm rfl rfl ho.lost) hhit
  · rw [Projection.meets_bind]
    exact Projection.meets_rollback hc (.stale ho.closed hr) hhit
  · exact ⟨ho.closed, hr⟩
  next error =>
    rw [Projection.meets_bind, Projection.meets_settle]
    refine Projection.meets_rollback hc ⟨ho.closed, hr⟩ fun hf halt => ?_
    cases halt with
    | panic => exact hhit hf .panic
    | error second =>
      show Projection.Meets A _ _ (_ >>= _) σ.hit
      rw [Projection.meets_bind, Projection.meets_lift]
      exact Program.meets_log (hhit hf _)

theorem meets_projectOnce (hA : A.Serves x e f) {p : Projector}
    (hp : x.registry.find? e.eventType = some p) (hi : σ.Idle A base lost) :
    (projectOnce p e).Meets A (Settled A f e base lost)
      (fun σ' halt => σ'.Idle A base lost ∧ Excused A f e σ' halt) σ := by
  unfold projectOnce
  rw [Projection.meets_bind]
  refine Projection.meets_begin hi.copy (fun m hd => ?_) fun hf halt => ⟨hi.hit, .hit hf⟩
  have ho : Standing.Open A base lost { σ with seen := m, copy := some m } :=
    ⟨⟨m, rfl⟩, hi.lost, A.drift_trans hi.drift hd⟩
  rw [Projection.meets_bind, Projection.meets_settle]
  have hend : ∀ {σ'} (result : Except (Halt ProjectionError) Projected),
      σ'.Open A base lost ∧ Prepared A f e σ' result →
      Projection.Meets A (Settled A f e base lost)
        (fun σ' halt => σ'.Idle A base lost ∧ Excused A f e σ' halt) (do
          let ended ← (conclude result).settle
          Program.drop
          .mk (pure ended)) σ' := by
    intro σ' result hpost
    obtain ⟨ho', hr⟩ := hpost
    rw [Projection.meets_bind, Projection.meets_settle]
    refine (meets_conclude hA ho' hr).mono (fun σ'' ended h => ?_) fun σ'' halt h => ?_
    all_goals
      rw [Projection.meets_bind, Projection.meets_lift]
      refine Program.meets_drop ?_
      rw [Projection.meets_mk, Program.meets_pure]
    · exact h.closed
    · exact h
  exact (meets_projectIn (hA.does hp) ho rfl).mono (fun _ _ h => hend _ h) fun _ _ h => hend _ h

section Attempts

variable {S : Type} {permits : S → Call → Prop} {reacts : S → (c : Call) → c.Reply → S → Prop}
  {s : S} {Q : S → α → Prop} {E : S → Halt ProjectionError → Prop} {I : S → Prop}
  {attempt : Nat → Projection α}

theorem keeps_retryFrom
    (ha : ∀ {s} number, I s → (attempt number).run.Keeps permits reacts (Projection.Ends Q E) s)
    (hp : ∀ {s} number halt delay, E s halt →
      (pause x.retry number halt delay).Keeps permits reacts (fun s _ => I s) s)
    (left number : Nat) (hi : I s) :
    (x.retry.retryFrom isRetryable (pause x.retry) (fun number => (attempt number).run) left
      number).Keeps permits reacts (Projection.Ends Q E) s := by
  induction left generalizing number s with
  | zero => exact ha number hi
  | succ left ih =>
    unfold RetryPolicy.retryFrom
    rw [Program.keeps_bind]
    refine (ha number hi).mono fun s' result h => ?_
    cases result with
    | ok a => exact h
    | error halt =>
      dsimp only
      split
      · rw [Program.keeps_bind]
        exact (hp number halt _ h).mono fun s' _ hi => ih (number + 1) hi
      · exact h

theorem keeps_retrying
    (ha : ∀ {s} number, I s → (attempt number).run.Keeps permits reacts (Projection.Ends Q E) s)
    (hp : ∀ {s} number halt delay, E s halt →
      (pause x.retry number halt delay).Keeps permits reacts (fun s _ => I s) s) (hi : I s) :
    (x.retrying attempt).run.Keeps permits reacts (Projection.Ends Q E) s :=
  keeps_retryFrom ha hp _ 1 hi

end Attempts

theorem meets_pause {policy : RetryPolicy} {number : Nat} {halt : Halt ProjectionError}
    {delay : Span} {Q : Standing → Unit → Prop} (h : Q σ ()) :
    (pause policy number halt delay).Meets A Q σ := by
  refine ⟨⟨A.admits_allowed trivial, trivial⟩, ?_⟩
  intro _ σ' hσ
  subst hσ
  exact Program.meets_sleep h

theorem meets_retrying {Q : Standing → α → Prop} {E : Standing → Halt ProjectionError → Prop}
    {I : Standing → Prop} {attempt : Nat → Projection α}
    (ha : ∀ {σ} number, I σ → (attempt number).Meets A Q E σ)
    (he : ∀ {σ halt}, E σ halt → I σ) (hi : I σ) : (x.retrying attempt).Meets A Q E σ :=
  keeps_retrying ha (fun _ _ _ h => meets_pause (he h)) hi

/-- How a failure is told: in the ledger, or else by the count of those that could not be noted. -/
def Told (A : Accord) (e : Envelope) (base : ReadModels) (lost : Nat) (reason : String)
    (σ : Standing) : Prop :=
  σ.copy = none ∧
    ((∃ m time, A.drift base m ∧ σ.seen = m.record (.ofEnvelope e (.failure reason) time) ∧
        σ.lost = lost) ∨
      A.faulty ∧ A.drift base σ.seen ∧ σ.lost = lost + 1)

/-- What may be said in the ledger about a failure: the store failed, or nobody handles the
envelope, or it was due. -/
def Due (x : Executor) (e : Envelope) (σ : Standing) : Prop :=
  σ.struck = true ∨ x.registry.find? e.eventType = none ∨ ¬ σ.seen.Stale e

theorem meets_recordFailure (hA : A.Serves x e f) {reason : String} (hi : σ.Idle A base lost)
    (hd : Due x e σ) :
    (x.recordFailure e reason).Meets A (fun σ' _ => Told A e base lost reason σ')
      (fun σ' halt => σ'.Idle A base lost ∧ (A.faulty ∧ σ'.struck = true) ∧ halt = .panic) σ := by
  unfold recordFailure
  rw [Projection.meets_bind, Projection.meets_settle]
  have hw : (x.retrying fun _ => do
      let processedAt : Instant ← Program.now
      Projection.record (.ofEnvelope e (.failure reason) processedAt)).Meets A
        (fun σ' _ => Told A e base lost reason σ')
        (fun σ' _ => σ'.Idle A base lost ∧ Due x e σ' ∧ A.faulty ∧ σ'.struck = true) σ := by
    refine meets_retrying (I := fun σ => σ.Idle A base lost ∧ Due x e σ) ?_
      (fun h => ⟨h.1, h.2.1⟩) ⟨hi, hd⟩
    intro σ' _ hpost
    obtain ⟨hi', hd'⟩ := hpost
    rw [Projection.meets_bind, Projection.meets_lift]
    refine Program.meets_now fun time => ?_
    refine Projection.meets_record hi'.copy (hA.notes reason time hd') (fun m hm => ?_)
      fun hf _ => ⟨hi'.hit, .inl rfl, hf, rfl⟩
    exact ⟨rfl, .inl ⟨m, time, A.drift_trans hi'.drift hm, rfl, hi'.lost⟩⟩
  refine hw.mono (fun _ _ h => h) ?_
  intro σ' halt hpost
  obtain ⟨hi', -, hf⟩ := hpost
  cases halt with
  | panic => exact ⟨hi', hf, rfl⟩
  | error error =>
    show Projection.Meets A _ _ (_ >>= _) σ'
    rw [Projection.meets_bind, Projection.meets_lift]
    refine Program.meets_count (fun _ => hi'.copy) ?_
    rw [Projection.meets_lift]
    refine Program.meets_log ?_
    have hcount : σ'.countLost .ledgerWriteFailed = { σ' with lost := σ'.lost + 1 } :=
      if_pos ⟨hi'.copy, rfl⟩
    rw [hcount]
    exact ⟨hi'.copy, .inr ⟨hf.1, hi'.drift, congrArg (· + 1) hi'.lost⟩⟩

/-- What a dispatch comes to, from the time when the read models were `base`. -/
inductive Dispatched (A : Accord) (f : Effect) (x : Executor) (e : Envelope) (base : ReadModels)
    (lost : Nat) (σ : Standing) : DispatchOutcome → Prop where
  | applied {p : Projector} (found : x.registry.find? e.eventType = some p)
      (settled : Settled A f e base lost σ .applied) : Dispatched A f x e base lost σ .applied
  | skipped {p : Projector} (found : x.registry.find? e.eventType = some p)
      (settled : Settled A f e base lost σ .stale) : Dispatched A f x e base lost σ .skipped
  | failed {p : Projector} {reason : String} (found : x.registry.find? e.eventType = some p)
      (why : A.faulty ∧ σ.struck = true ∨
        ∃ m, A.drift base m ∧ ¬ m.Stale e ∧ ∃ error, f.fails error ∧ reason = error.message)
      (told : Told A e base lost reason σ) : Dispatched A f x e base lost σ (.failed reason)
  | unknown (missing : x.registry.find? e.eventType = none)
      (told : Told A e base lost unknownReason σ) : Dispatched A f x e base lost σ .unknownEventType

/-- A dispatch without an outcome has been torn down by the store, and has changed nothing. -/
def TornDown (A : Accord) (base : ReadModels) (lost : Nat) (σ : Standing)
    (halt : Halt ProjectionError) : Prop :=
  σ.Idle A base lost ∧ (A.faulty ∧ σ.struck = true) ∧ halt = .panic

theorem meets_project (hA : A.Serves x e f) {p : Projector}
    (hp : x.registry.find? e.eventType = some p) (hi : σ.Idle A base lost) :
    (x.project p e).Meets A (Dispatched A f x e base lost) (TornDown A base lost) σ := by
  unfold project
  rw [Projection.meets_bind, Projection.meets_settle]
  have ha : (x.retrying fun number => do
      if 1 < number then Program.count .retried
      projectOnce p e).Meets A (Settled A f e base lost)
        (fun σ' halt => σ'.Idle A base lost ∧ Excused A f e σ' halt) σ := by
    refine meets_retrying (I := fun σ => σ.Idle A base lost) ?_ (fun h => h.1) hi
    intro σ' number hi'
    have ho := meets_projectOnce hA hp hi'
    split
    · rw [Projection.meets_bind, Projection.meets_lift]
      refine Program.meets_count (fun h => by cases h) ?_
      rw [Standing.countLost_of_ne (fun h => by cases h)]
      exact ho
    · exact ho
  refine ha.mono (fun σ' result hs => ?_) ?_
  · cases result with
    | applied =>
      show Projection.Meets A _ _ (_ >>= _) σ'
      rw [Projection.meets_bind, Projection.meets_lift]
      exact Program.meets_log (.applied hp hs)
    | stale =>
      show Projection.Meets A _ _ (_ >>= _) σ'
      rw [Projection.meets_bind, Projection.meets_lift]
      exact Program.meets_log (.skipped hp hs)
  intro σ' halt hpost
  obtain ⟨hi', hx⟩ := hpost
  cases halt with
  | panic =>
    rcases hx with hf | ⟨-, _, _, he⟩
    · exact ⟨hi', hf, rfl⟩
    · cases he
  | error error =>
    show Projection.Meets A _ _ (_ >>= _) σ'
    rw [Projection.meets_bind, Projection.meets_lift]
    refine Program.meets_log ?_
    rw [Projection.meets_bind]
    have hd : Due x e σ' := by
      rcases hx with ⟨-, hs⟩ | ⟨hs, -⟩
      · exact .inl hs
      · exact .inr (.inr hs)
    have hnote : (x.recordFailure e error.message).Meets A _ _ σ' := meets_recordFailure hA hi' hd
    rcases hx with ⟨hf, hs⟩ | ⟨hs, cause, hc, he⟩
    · exact (hnote.struck hs).mono (fun _ _ ht => .failed hp (.inl ⟨hf, ht.2⟩) ht.1)
        fun _ _ h => h.1
    · cases he
      exact hnote.mono (fun _ _ ht => .failed hp (.inr ⟨_, hi'.drift, hs, _, hc, rfl⟩) ht)
        fun _ _ h => h

theorem meets_resolve (hA : A.Serves x e f) (hi : σ.Idle A base lost) :
    (x.resolve e).Meets A (Dispatched A f x e base lost) (TornDown A base lost) σ := by
  unfold resolve
  split
  next p hp => exact meets_project hA hp hi
  next hp =>
    rw [Projection.meets_bind, Projection.meets_lift]
    refine Program.meets_log ?_
    rw [Projection.meets_bind]
    exact (meets_recordFailure hA hi (.inr (.inl hp))).mono (fun _ _ ht => .unknown hp ht)
      fun _ _ h => h

/-- Whatever happens to the calls of a dispatch, it comes to one of its outcomes as a whole. -/
theorem meets_dispatch (hA : A.Serves x e f) (hi : σ.Idle A base lost) :
    (x.dispatch e).Meets A (Dispatched A f x e base lost) (TornDown A base lost) σ := by
  unfold dispatch
  rw [Projection.meets_bind]
  refine (meets_resolve hA hi).mono (fun σ' outcome h => ?_) fun _ _ h => h
  rw [Projection.meets_bind, Projection.meets_lift]
  refine Program.meets_count (fun h => by cases h) ?_
  rw [Standing.countLost_of_ne (fun h => by cases h), Projection.meets_bind, Projection.meets_lift]
  refine Program.meets_count (fun h => by cases h) ?_
  rw [Standing.countLost_of_ne (fun h => by cases h)]
  exact h

end Executor

end AgentFacts
