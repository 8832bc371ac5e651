import AgentFacts.Proofs.Spares

namespace AgentFacts

/-- A plan that is left of another one: some of the first entries of its queues are gone. -/
structure FaultPlan.Within (plan whole : FaultPlan) : Prop where
  models : ∀ site, plan.models site <:+ whole.models site
  log : ∀ site, plan.log site <:+ whole.log site

namespace FaultPlan

variable {plan plan' whole : FaultPlan}

theorem Within.refl (plan : FaultPlan) : plan.Within plan :=
  ⟨fun _ => List.suffix_rfl, fun _ => List.suffix_rfl⟩

theorem Within.trans (h : plan.Within plan') (h' : plan'.Within whole) : plan.Within whole :=
  ⟨fun site => (h.models site).trans (h'.models site),
    fun site => (h.log site).trans (h'.log site)⟩

/-- Where nothing is to fail, nothing ever is. -/
theorem Within.eq_none (h : plan.Within .none) : plan = .none := by
  obtain ⟨models, log⟩ := plan
  have hmodels : models = fun _ => [] := funext fun site => List.suffix_nil.1 (h.models site)
  have hlog : log = fun _ => [] := funext fun site => List.suffix_nil.1 (h.log site)
  rw [hmodels, hlog]
  rfl

theorem within_nextModel (plan : FaultPlan) (site : ModelSite) :
    (plan.nextModel site).2.Within plan := by
  unfold nextModel
  split
  · exact .refl plan
  next fault rest hs =>
    refine ⟨fun other => ?_, fun _ => List.suffix_rfl⟩
    dsimp only
    split
    next he =>
      rw [he, hs]
      exact List.suffix_cons fault rest
    · exact List.suffix_rfl

theorem within_nextLog (plan : FaultPlan) (site : LogSite) :
    (plan.nextLog site).2.Within plan := by
  unfold nextLog
  split
  · exact .refl plan
  next fault rest hs =>
    refine ⟨fun _ => List.suffix_rfl, fun other => ?_⟩
    dsimp only
    split
    next he =>
      rw [he, hs]
      exact List.suffix_cons fault rest
    · exact List.suffix_rfl

theorem mem_of_nextModel {site : ModelSite} {halt : Halt ProjectionError}
    (h : plan.nextModel site = (some halt, plan')) : some halt ∈ plan.models site := by
  unfold nextModel at h
  split at h
  · cases h
  next rest hs =>
    cases h
    rw [hs]
    exact List.mem_cons_self

theorem mem_of_nextLog {site : LogSite} {halt : Halt EventLogError}
    (h : plan.nextLog site = (some halt, plan')) : some halt ∈ plan.log site := by
  unfold nextLog at h
  split at h
  · cases h
  next rest hs =>
    cases h
    rw [hs]
    exact List.mem_cons_self

end FaultPlan

namespace World

variable {w w' : World} {task : TaskId}

theorem within_inTransaction (w : World) (site : ModelSite)
    (run : ModelStore → Except ProjectionError α × ModelStore) :
    (w.inTransaction site run).world.faults.Within w.faults := by
  have hnext := w.faults.within_nextModel site
  unfold inTransaction
  split
  next halt faults hf =>
    rw [hf] at hnext
    exact hnext
  next faults hf =>
    rw [hf] at hnext
    obtain ⟨woken, hw⟩ := withModels_eq { w with faults } (run w.models).2
    dsimp only
    rw [hw]
    exact hnext

theorem within_withLock (w : World) (task : TaskId) (site : ModelSite)
    (run : ModelStore → α × ModelStore) :
    (w.withLock task site run).world.faults.Within w.faults := by
  have hnext : (if w.models.awaits task then ((none : Option (Halt ProjectionError)), w.faults)
      else w.faults.nextModel site).2.Within w.faults := by
    split
    · exact .refl w.faults
    · exact w.faults.within_nextModel site
  unfold withLock
  generalize (if w.models.awaits task then ((none : Option (Halt ProjectionError)), w.faults)
    else w.faults.nextModel site) = plan at hnext
  obtain ⟨fault, faults⟩ := plan
  dsimp only
  split
  · exact hnext
  · split
    · obtain ⟨woken, hw⟩ := withModels_eq { w with faults } (run w.models).2
      rw [hw]
      exact hnext
    · exact hnext

theorem within_persist (w : World) (e : NewEnvelope) :
    (w.persist e).world.faults.Within w.faults := by
  have hnext := w.faults.within_nextLog .persist
  unfold persist
  split
  next halt faults hf =>
    rw [hf] at hnext
    exact hnext
  next faults hf =>
    rw [hf] at hnext
    split <;> exact hnext

theorem within_openStream (w : World) (task : TaskId) (after : Option EnvelopeId) :
    (w.openStream task after).world.faults.Within w.faults := by
  have hnext := w.faults.within_nextLog .openStream
  unfold openStream
  split
  all_goals
    next hf =>
      rw [hf] at hnext
      exact hnext

theorem within_nextItem (w : World) (task : TaskId) :
    (w.nextItem task).world.faults.Within w.faults := by
  unfold nextItem
  split
  · exact w.faults.within_nextLog .streamEnd
  · have hnext := w.faults.within_nextLog .nextItem
    split
    all_goals
      next hf =>
        rw [hf] at hnext
        exact hnext

theorem faults_send (w : World) (task : TaskId) (e : Envelope) (limit : Option Span) :
    (w.send task e limit).world.faults = w.faults := by
  unfold send
  split
  · rfl
  next queue _ =>
    obtain ⟨woken, hw⟩ := wakeIdle_eq ({ w with queue }.clearTimer task)
    rw [hw]
    rfl
  next queue _ =>
    have h : Spares task { w with queue } _ := spares_limitTimer { w with queue } limit
    dsimp only
    split
    · exact h.faults
    · exact h.faults

/-- With each call at most something of the plan is used up. -/
theorem within_answer (w : World) (task : TaskId) (c : Call) :
    (w.answer task c).world.faults.Within w.faults := by
  have hsame : (w.answer task c).world.faults = w.faults →
      (w.answer task c).world.faults.Within w.faults := by
    intro he
    rw [he]
    exact .refl w.faults
  cases c with
  | begin => exact w.within_withLock task .begin fun models => ((), models.begin task)
  | record r => exact w.within_withLock task .record (·.record r)
  | find source eventType => exact w.within_inTransaction .find (·.find task source eventType)
  | write write => exact w.within_inTransaction .write (·.write task write)
  | recordIn r => exact w.within_inTransaction .recordIn (·.recordIn task r)
  | commit => exact w.within_inTransaction .commit (·.commit task)
  | rollback => exact w.within_inTransaction .rollback (·.rollback task)
  | persist e => exact w.within_persist e
  | openStream after => exact w.within_openStream task after
  | nextItem => exact w.within_nextItem task
  | drop =>
    have h : Spares task w _ := spares_withModels w (w.models.drop task)
    exact hsame h.faults
  | sleep span =>
    have h : Spares task w _ := spares_sleep w span
    exact hsame h.faults
  | read question =>
    refine hsame ?_
    simp only [answer, read]
    split
    · have h : Spares task w _ := spares_withModels w w.models.release
      exact h.faults
    · rfl
  | send e limit => exact hsame (w.faults_send task e limit)
  | readLog _ => exact hsame rfl
  | now => exact hsame rfl
  | count _ => exact hsame rfl
  | log _ => exact hsame rfl
  | attend _ _ => exact hsame rfl
  | visit _ => exact hsame rfl

/-- The store itself does not panic, it only may be made to. -/
theorem planned_inTransaction {site : ModelSite}
    {f : ModelStore → Except ProjectionError α × ModelStore}
    (h : w.inTransaction site f = .reply (.error .panic) w') :
    some .panic ∈ w.faults.models site := by
  unfold inTransaction at h
  split at h
  next halt faults hf =>
    cases h
    exact FaultPlan.mem_of_nextModel hf
  next faults hf =>
    dsimp only at h
    cases hr : (f w.models).1 <;> rw [hr] at h <;> cases h

theorem planned_withLock {site : ModelSite} {f : ModelStore → α × ModelStore}
    (h : w.withLock task site f = .reply (.error .panic) w') :
    some .panic ∈ w.faults.models site := by
  unfold withLock at h
  dsimp only at h
  split at h
  next halt hf =>
    cases h
    split at hf
    · cases hf
    · exact FaultPlan.mem_of_nextModel (Prod.ext hf rfl)
  · split at h <;> cases h

theorem planned_persist {e : NewEnvelope} (h : w.persist e = .reply (.error .panic) w') :
    some .panic ∈ w.faults.log .persist := by
  unfold persist at h
  split at h
  next halt faults hf =>
    cases h
    exact FaultPlan.mem_of_nextLog hf
  · split at h <;> cases h

end World

end AgentFacts
