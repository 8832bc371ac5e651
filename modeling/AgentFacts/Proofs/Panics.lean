import AgentFacts.Proofs.Alone
import AgentFacts.Proofs.DispatchContract

namespace AgentFacts

/-- The read models tear down who calls them. -/
inductive Call.Torn : (c : Call) → c.Reply → ModelSite → Prop where
  | begin : Torn .begin (.error .panic) .begin
  | find (source : AgentId) (eventType : EventType) :
      Torn (.find source eventType) (.error .panic) .find
  | write (write : Write) : Torn (.write write) (.error .panic) .write
  | recordIn (record : OutcomeRecord) : Torn (.recordIn record) (.error .panic) .recordIn
  | commit : Torn .commit (.error .panic) .commit
  | rollback : Torn .rollback (.error .panic) .rollback
  | record (record : OutcomeRecord) : Torn (.record record) (.error .panic) .record

theorem World.planned_of_torn {w w' : World} {task : TaskId} {c : Call} {reply : c.Reply}
    {site : ModelSite} (h : w.answer task c = .reply reply w') (ht : c.Torn reply site) :
    some .panic ∈ w.faults.models site := by
  cases ht with
  | begin => exact planned_withLock (f := fun models => ((), models.begin task)) h
  | record r => exact planned_withLock (f := (·.record r)) h
  | find source eventType =>
    exact planned_inTransaction (f := (·.find task source eventType)) h
  | write write => exact planned_inTransaction (f := (·.write task write)) h
  | recordIn r => exact planned_inTransaction (f := (·.recordIn task r)) h
  | commit => exact planned_inTransaction (f := (·.commit task)) h
  | rollback => exact planned_inTransaction (f := (·.rollback task)) h

/-- Whatever a program does: unless the read models tear it down, it comes to an end of which `Q` is
true. -/
def Program.Endures (Q : α → Prop) (p : Program α) : Prop :=
  p.Keeps (fun _ _ => True) (fun _ c reply _ => ∀ site, ¬ c.Torn reply site)
    (fun (_ : Unit) => Q) ()

theorem Program.endures_all (p : Program α) : p.Endures fun _ => True := by
  induction p with
  | done a => trivial
  | call c next ih => exact ⟨trivial, fun reply _ _ => ih reply⟩

namespace Projection

/-- What is true of a result that is not a panic. -/
def Calm (Q : α → Prop) : Except (Halt ProjectionError) α → Prop :=
  Ends (fun (_ : Unit) => Q) (fun _ halt => halt ≠ .panic) ()

/-- A projection panics only when the read models do. -/
def Endures (Q : α → Prop) (p : Projection α) : Prop :=
  p.run.Endures (Calm Q)

variable {Q : α → Prop} {p : Projection α}

theorem Endures.mono {Q' : α → Prop} (h : p.Endures Q) (hq : ∀ a, Q a → Q' a) :
    p.Endures Q' := by
  apply Program.Keeps.mono h
  intro _ result
  cases result with
  | ok a => exact hq a
  | error halt => exact id

theorem endures_settle (h : p.Endures Q) : p.settle.Endures (Calm Q) := by
  refine keeps_settle.2 (Program.Keeps.mono h fun _ result hr => ?_)
  cases result <;> exact hr

/-- Whatever comes of a projection, it is settled. -/
theorem endures_settle_all (p : Projection α) : p.settle.Endures fun _ => True := by
  refine keeps_settle.2 (Program.Keeps.mono (Program.endures_all p.run) fun _ result _ => ?_)
  cases result <;> trivial

theorem endures_lift (p : Program α) : (liftM p : Projection α).Endures fun _ => True :=
  Program.keeps_map.2 (Program.endures_all p)

theorem Endures.bind {f : α → Projection β} {Q' : β → Prop} (h : p.Endures Q)
    (hf : ∀ a, Q a → (f a).Endures Q') : (p >>= f).Endures Q' :=
  keeps_bind.2 (h.mono hf)

theorem endures_fail (error : ProjectionError) : (fail error : Projection α).Endures Q :=
  fun h => nomatch h

theorem calm_of_ne {reply : Except (Halt ProjectionError) α} (h : reply ≠ .error .panic) :
    Calm (fun _ => True) reply := by
  cases reply with
  | ok a => trivial
  | error halt => exact fun he => h (congrArg _ he)

theorem endures_begin : begin.Endures fun _ => True :=
  ⟨trivial, fun _ _ h => calm_of_ne fun he => h .begin (he ▸ .begin)⟩

theorem endures_find (source : AgentId) (eventType : EventType) :
    (find source eventType).Endures fun _ => True :=
  ⟨trivial, fun _ _ h => calm_of_ne fun he => h .find (he ▸ .find source eventType)⟩

theorem endures_recordIn (r : OutcomeRecord) : (recordIn r).Endures fun _ => True :=
  ⟨trivial, fun _ _ h => calm_of_ne fun he => h .recordIn (he ▸ .recordIn r)⟩

theorem endures_commit : commit.Endures fun _ => True :=
  ⟨trivial, fun _ _ h => calm_of_ne fun he => h .commit (he ▸ .commit)⟩

theorem endures_rollback : rollback.Endures fun _ => True :=
  ⟨trivial, fun _ _ h => calm_of_ne fun he => h .rollback (he ▸ .rollback)⟩

theorem endures_record (r : OutcomeRecord) : (record r).Endures fun _ => True :=
  ⟨trivial, fun _ _ h => calm_of_ne fun he => h .record (he ▸ .record r)⟩

end Projection

namespace Executor

open Projection

variable {x : Executor} {e : Envelope} {p : Projector}

theorem endures_runProjector (p : Projector) (e : Envelope) :
    (runProjector p e).Endures fun _ => True := by
  refine (endures_settle_all (p.project e)).bind fun result _ => ?_
  match result with
  | .ok () => trivial
  | .error (.error error) => exact endures_fail error
  | .error .panic => exact (endures_lift _).bind fun _ _ => endures_fail _

theorem endures_projectIn (p : Projector) (e : Envelope) :
    (projectIn p e).Endures fun _ => True := by
  refine (endures_find e.source e.eventType).bind fun current _ => ?_
  split
  · trivial
  · refine (endures_runProjector p e).bind fun _ _ => ?_
    refine (endures_lift Program.now).bind fun time _ => ?_
    exact (endures_recordIn _).bind fun _ _ => trivial

theorem endures_conclude {result : Except (Halt ProjectionError) Projected}
    (h : Calm (fun _ => True) result) : (conclude result).Endures fun _ => True := by
  match result with
  | .ok .applied => exact endures_commit.bind fun _ _ => trivial
  | .ok .stale => exact endures_rollback.bind fun _ _ => trivial
  | .error .panic => exact absurd rfl h
  | .error (.error error) =>
    refine (endures_settle endures_rollback).bind fun ended hended => ?_
    match ended with
    | .ok () => exact endures_fail error
    | .error .panic => exact absurd rfl hended
    | .error (.error second) => exact (endures_lift _).bind fun _ _ => endures_fail error

theorem endures_projectOnce (p : Projector) (e : Envelope) :
    (projectOnce p e).Endures fun _ => True := by
  refine endures_begin.bind fun _ _ => ?_
  refine (endures_settle (endures_projectIn p e)).bind fun result hr => ?_
  refine (endures_settle (endures_conclude hr)).bind fun ended hended => ?_
  exact (endures_lift Program.drop).bind fun _ _ => hended

theorem endures_retrying {attempt : Nat → Projection α}
    (h : ∀ number, (attempt number).Endures fun _ => True) :
    (x.retrying attempt).Endures fun _ => True :=
  keeps_retrying (I := fun _ => True) (fun number _ => h number)
    (fun _ _ _ _ => Program.endures_all _) trivial

theorem endures_recordFailure (e : Envelope) (reason : String) :
    (x.recordFailure e reason).Endures fun _ => True := by
  have hwrite : (x.retrying fun _ => do
      let processedAt : Instant ← Program.now
      Projection.record (.ofEnvelope e (.failure reason) processedAt)).Endures fun _ => True :=
    endures_retrying fun _ => (endures_lift Program.now).bind fun _ _ => endures_record _
  refine (endures_settle hwrite).bind fun result hr => ?_
  match result with
  | .ok _ => trivial
  | .error .panic => exact absurd rfl hr
  | .error (.error error) =>
    exact (endures_lift _).bind fun _ _ => endures_lift _

theorem endures_project (p : Projector) (e : Envelope) :
    (x.project p e).Endures fun _ => True := by
  have hattempts : (x.retrying fun number => do
      if 1 < number then Program.count .retried
      projectOnce p e).Endures fun _ => True := by
    refine endures_retrying fun number => ?_
    split
    · exact (endures_lift _).bind fun _ _ => endures_projectOnce p e
    · exact endures_projectOnce p e
  refine (endures_settle hattempts).bind fun result hr => ?_
  match result with
  | .ok .applied => exact (endures_lift _).bind fun _ _ => trivial
  | .ok .stale => exact (endures_lift _).bind fun _ _ => trivial
  | .error .panic => exact absurd rfl hr
  | .error (.error error) =>
    refine (endures_lift _).bind fun _ _ => ?_
    exact (endures_recordFailure e error.message).bind fun _ _ => trivial

/-- A dispatch is torn down by the read models or not at all, whatever its projector does. -/
theorem endures_dispatch (x : Executor) (e : Envelope) :
    (x.dispatch e).Endures fun _ => True := by
  have hresolve : (x.resolve e).Endures fun _ => True := by
    unfold resolve
    split
    next p _ => exact endures_project p e
    · refine (endures_lift _).bind fun _ _ => ?_
      exact (endures_recordFailure e unknownReason).bind fun _ _ => trivial
  refine hresolve.bind fun outcome _ => ?_
  refine (endures_lift _).bind fun _ _ => ?_
  exact (endures_lift _).bind fun _ _ => trivial

end Executor

namespace World

variable {w w' : World} {task : TaskId}

theorem faults_await (w : World) (task : TaskId) : (w.await task).faults = w.faults := by
  unfold await
  split
  · rfl
  · split <;> rfl

/-- Who is alone gets a reply at once, or after some time has passed. -/
theorem answerAlone_eq_some {c : Call} {reply : c.Reply}
    (h : w.answerAlone task c = some (reply, w')) :
    ∃ later : World, later.faults.Within w.faults ∧ later.answer task c = .reply reply w' := by
  unfold answerAlone at h
  split at h
  next ha =>
    cases h
    exact ⟨w, .refl _, ha⟩
  next waiting ha =>
    split at h
    next ha' =>
      cases h
      have hw := w.within_answer task c
      rw [ha] at hw
      exact ⟨_, (faults_await waiting task).symm ▸ hw, ha'⟩
    · cases h

/-- Where no panic is planned for the read models, a program that endures all else does so. -/
theorem endures_runAlone {p : Program α} {a : α} {Q : α → Prop} (hp : p.Endures Q)
    (h : w.runAlone task p = some (a, w')) :
    Q a ∨ ∃ site, some .panic ∈ w.faults.models site := by
  induction p generalizing w with
  | done a' =>
    cases h
    exact .inl hp
  | call c next ih =>
    unfold runAlone at h
    split at h
    next reply later ha =>
      obtain ⟨asked, hasked, hr⟩ := answerAlone_eq_some ha
      by_cases ht : ∃ site, c.Torn reply site
      · obtain ⟨site, ht⟩ := ht
        exact .inr ⟨site, (hasked.models site).subset (planned_of_torn hr ht)⟩
      · have hw := asked.within_answer task c
        rw [hr] at hw
        have hnext : (next reply).Endures Q := hp.2 reply () fun site ht' => ht ⟨site, ht'⟩
        refine (ih reply hnext h).imp_right fun ⟨site, hs⟩ => ?_
        exact ⟨site, ((hw.trans hasked).models site).subset hs⟩
    · cases h

end World

end AgentFacts
