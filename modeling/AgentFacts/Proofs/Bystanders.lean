import AgentFacts.Proofs.Shift

namespace AgentFacts

/-- What a client can count on while others go on. -/
structure World.Leaves (client : Nat) (w w' : World) : Prop where
  stream : w'.streams.lookup (.client client) = w.streams.lookup (.client client)
  timer : w'.timerOf? (.client client) = w.timerOf? (.client client)
  ascending : w.events.Ascending → w'.events.Ascending
  closed : w.queue.isOpen = false → w'.queue.isOpen = false

namespace World

variable {w w' w'' : World} {client : Nat} {task : TaskId}

theorem Leaves.trans (h : Leaves client w w') (h' : Leaves client w' w'') :
    Leaves client w w'' where
  stream := h'.stream.trans h.stream
  timer := h'.timer.trans h.timer
  ascending ha := h'.ascending (h.ascending ha)
  closed ho := h'.closed (h.closed ho)

/-- Only what a client cannot see has changed, and maybe what is on the queue. -/
theorem leaves_of_same (client : Nat) (hs : w'.streams = w.streams) (ht : w'.timers = w.timers)
    (he : w'.events = w.events) (ho : w'.queue.isOpen = w.queue.isOpen) :
    Leaves client w w' where
  stream := congrArg _ hs
  timer := by
    unfold timerOf?
    rw [ht]
  ascending ha := he ▸ ha
  closed hc := ho.trans hc

theorem Leaves.refl (client : Nat) (w : World) : Leaves client w w :=
  leaves_of_same client rfl rfl rfl rfl

theorem Beside.leaves (h : Beside w w') (client : Nat) : Leaves client w w' :=
  leaves_of_same client h.streams h.timers h.events (congrArg _ h.queue)

theorem Spares.leaves (h : Spares task w w') (ht : task ≠ .client client) :
    Leaves client w w' where
  stream := congrArg _ h.streams
  timer := h.timer _ (Ne.symm ht)
  ascending ha := h.events ▸ ha
  closed ho := (congrArg Ingress.isOpen h.queue).trans ho

theorem leaves_wakeIdle (client : Nat) (w : World) : Leaves client w w.wakeIdle := by
  obtain ⟨woken, hw⟩ := wakeIdle_eq w
  rw [hw]
  exact leaves_of_same client rfl rfl rfl rfl

theorem leaves_clearTimer (ht : task ≠ .client client) (w : World) :
    Leaves client w (w.clearTimer task) :=
  Spares.leaves (Spares.refl task w).clearTimer ht

theorem leaves_persist (client : Nat) (w : World) (e : NewEnvelope) :
    Leaves client w (w.persist e).world := by
  unfold persist EventLog.persist
  split
  · exact leaves_of_same client rfl rfl rfl rfl
  · cases e.validate with
    | error fault => exact leaves_of_same client rfl rfl rfl rfl
    | ok u => exact ⟨rfl, rfl, fun ha => ha.append e, id⟩

/-- Letting go of the stream of one task leaves those of others. -/
theorem lookup_filter_streams (ht : task ≠ .client client)
    (streams : List (TaskId × List Envelope)) :
    (streams.filter (·.1 != task)).lookup (.client client) = streams.lookup (.client client) := by
  induction streams with
  | nil => rfl
  | cons entry rest ih =>
    obtain ⟨owner, items⟩ := entry
    by_cases ho : owner = task
    · subst ho
      rw [List.filter_cons_of_neg (by simp), List.lookup_cons, beq_eq_false_iff_ne.2 (Ne.symm ht)]
      exact ih
    · rw [List.filter_cons_of_pos (by simpa using ho), List.lookup_cons, List.lookup_cons, ih]

theorem lookup_streams (ht : task ≠ .client client) (items : List Envelope) :
    ((task, items) :: w.streams.filter (·.1 != task)).lookup (.client client) =
      w.streams.lookup (.client client) := by
  rw [List.lookup_cons, beq_eq_false_iff_ne.2 (Ne.symm ht)]
  exact lookup_filter_streams ht w.streams

theorem leaves_openStream (ht : task ≠ .client client) (w : World) (after : Option EnvelopeId) :
    Leaves client w (w.openStream task after).world := by
  unfold openStream
  split
  · exact leaves_of_same client rfl rfl rfl rfl
  · exact ⟨lookup_streams ht _, rfl, id, id⟩

theorem leaves_nextItem (ht : task ≠ .client client) (w : World) :
    Leaves client w (w.nextItem task).world := by
  unfold nextItem
  split
  · exact leaves_of_same client rfl rfl rfl rfl
  · split <;> exact ⟨lookup_streams ht _, rfl, id, id⟩

theorem leaves_forget (ht : task ≠ .client client) (w : World) :
    Leaves client w (w.forget task) := by
  obtain ⟨woken, hw⟩ := withModels_eq w (w.models.forget task)
  unfold forget
  rw [hw]
  exact {
    stream := lookup_filter_streams ht w.streams
    timer := timerOf?_clearTimer (w := w) (Ne.symm ht)
    ascending := id
    closed := (w.queue.grows_forget task).isOpen.trans }

/-- A place on the queue has been asked for. -/
theorem leaves_queue {queue : Ingress} {queued : List Envelope}
    (hq : w.queue.Grows queue queued) (client : Nat) : Leaves client w { w with queue } :=
  leaves_of_same client rfl rfl rfl hq.isOpen

theorem leaves_send (ht : task ≠ .client client) (w : World) (e : Envelope)
    (limit : Option Span) : Leaves client w (w.send task e limit).world := by
  have hoffer := w.queue.offer_grows task e
  have hforget (w' : World) :
      Leaves client w' ({ w' with queue := w'.queue.forget task }.clearTimer task) :=
    (leaves_queue (w'.queue.grows_forget task) client).trans (leaves_clearTimer ht _)
  unfold send
  split
  · exact hforget w
  next queue hq =>
    rw [hq] at hoffer
    exact ((leaves_queue hoffer client).trans (leaves_clearTimer ht _)).trans
      (leaves_wakeIdle client _)
  next queue hq =>
    rw [hq] at hoffer
    have hlimit := (leaves_queue hoffer client).trans
      (Spares.leaves (spares_limitTimer { w with queue } limit) ht)
    dsimp only
    split
    · exact hlimit.trans (hforget _)
    · exact hlimit

/-- Whatever another task calls, a client can count on what it could count on before. -/
theorem leaves_answer (ht : task ≠ .client client) (w : World) (c : Call) :
    Leaves client w (w.answer task c).world := by
  cases c with
  | persist e => exact leaves_persist client w e
  | openStream after => exact leaves_openStream ht w after
  | nextItem => exact leaves_nextItem ht w
  | send e limit => exact leaves_send ht w e limit
  | sleep span => exact Spares.leaves (spares_sleep w span) ht
  | _ =>
    refine Beside.leaves ?_ client
    exact w.beside_answer task trivial

end World

namespace Pipeline

variable {p p' : Pipeline} {client : Nat}

theorem leaves_looked {index : Nat} (h : p.Looked index p') :
    World.Leaves client p.world p'.world := by
  cases h with
  | waits idle woken => exact World.leaves_of_same client rfl rfl rfl rfl
  | takes took idle woken =>
    exact World.leaves_of_same client rfl rfl rfl (Ingress.take_eq_some took).2.1
  | stops empty senders idle woken => exact World.leaves_of_same client rfl rfl rfl rfl

theorem leaves_takeEnvelope (p : Pipeline) (client index : Nat) :
    World.Leaves client p.world (p.takeEnvelope index).world := by
  cases hc : p.pool.cancelled with
  | false => exact leaves_looked (looked_takeEnvelope hc index)
  | true =>
    obtain ⟨idle, woken, hs⟩ := stopWorker_eq p index
    unfold takeEnvelope
    rw [if_pos hc, hs]
    exact World.leaves_of_same client rfl rfl rfl rfl

theorem leaves_work (p : Pipeline) (client index : Nat) :
    World.Leaves client p.world (p.work index).world := by
  unfold work
  split
  · exact .refl client _
  · exact .refl client _
  · exact leaves_takeEnvelope p client index
  next e result _ =>
    cases result with
    | ok outcome => exact .refl client _
    | error halt => exact World.leaves_of_same client rfl rfl rfl rfl
  next e c next _ =>
    have hne : TaskId.worker index ≠ .client client := fun he => by cases he
    have h := World.leaves_answer hne p.world c
    cases ha : p.world.answer (.worker index) c with
    | reply reply world =>
      rw [ha] at h
      exact h
    | wait world =>
      rw [ha] at h
      exact h

theorem leaves_finish (p : Pipeline) (client : Nat) :
    World.Leaves client p.world p.finish.world where
  stream := rfl
  timer := World.timerOf?_clearTimer fun he => by cases he
  ascending := id
  closed _ := rfl

theorem leaves_abort (p : Pipeline) (client : Nat) :
    World.Leaves client p.world p.abort.world := by
  have hforget (w : World) (indices : List Nat) : World.Leaves client w
      (indices.foldl (fun w i => w.forget (.worker i)) w) := by
    refine List.foldlRecOn indices _ (motive := World.Leaves client w) (.refl client w) ?_
    intro w' h i _
    exact h.trans (World.leaves_forget (fun he => by cases he) w')
  have htold : World.Leaves client p.world
      (p.world.withJournal (·.log (tellAbort p.pool.remaining))) :=
    World.leaves_of_same client rfl rfl rfl rfl
  have hworkers := htold.trans (hforget _ (List.range p.pool.workers.length))
  unfold abort
  refine (hworkers.trans ?_).trans (leaves_finish _ client)
  exact World.leaves_of_same client rfl rfl rfl rfl

theorem leaves_drainUntil (p : Pipeline) (client : Nat) (deadline : Span) :
    World.Leaves client p.world (p.drainUntil deadline).world := by
  unfold drainUntil
  split
  · exact leaves_finish p client
  · split
    · exact leaves_abort p client
    · dsimp only
      split
      · exact .refl client _
      · exact ⟨rfl, World.timerOf?_setTimer (fun he => by cases he) _, id, id⟩

theorem leaves_runSupervisor (p : Pipeline) (client : Nat) :
    World.Leaves client p.world p.runSupervisor.world := by
  unfold runSupervisor
  split
  · exact .refl client _
  · exact .refl client _
  · exact leaves_drainUntil p client _
  · split
    · exact leaves_finish p client
    · split
      · exact leaves_drainUntil p client _
      · exact .refl client _

theorem leaves_cancel (p : Pipeline) (client : Nat) :
    World.Leaves client p.world p.cancel.world := by
  obtain ⟨woken, hw⟩ := cancel_eq p
  rw [hw]
  exact World.leaves_of_same client rfl rfl rfl rfl

theorem leaves_spawn (p : Pipeline) (client : Nat) :
    World.Leaves client p.world p.spawn.world := by
  obtain ⟨woken, hw⟩ := Drill.spawn_eq p
  rw [hw]
  exact World.leaves_of_same client rfl rfl rfl rfl

theorem leaves_closeSenders (p : Pipeline) (client : Nat) :
    World.Leaves client p.world p.closeSenders.world := by
  obtain ⟨woken, hw⟩ := closeSenders_eq p
  rw [hw]
  exact World.leaves_of_same client rfl rfl rfl rfl

end Pipeline

end AgentFacts
