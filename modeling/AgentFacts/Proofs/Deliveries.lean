import AgentFacts.Proofs.Spares

namespace AgentFacts

namespace Ingress

/-- There is room for all that is on the queue and for all that has been promised a place. -/
def Fits (q : Ingress) : Prop :=
  q.items.length + q.promised.length ≤ q.capacity

/-- Envelopes have been put at the end of a queue that is otherwise as it was, but for those who
wait for room. -/
structure Grows (q q' : Ingress) (queued : List Envelope) : Prop where
  items : q'.items = q.items ++ queued
  capacity : q'.capacity = q.capacity
  isOpen : q'.isOpen = q.isOpen
  hasSenders : q'.hasSenders = q.hasSenders
  fits : q.Fits → q'.Fits
  opened : q.isOpen = false → queued = []

variable {q q' : Ingress} {e : Envelope}

theorem Grows.refl (q : Ingress) : q.Grows q [] :=
  ⟨(List.append_nil _).symm, rfl, rfl, rfl, id, fun _ => rfl⟩

theorem Grows.trans {q'' : Ingress} {queued more : List Envelope} (h : q.Grows q' queued)
    (h' : q'.Grows q'' more) : q.Grows q'' (queued ++ more) where
  items := by rw [h'.items, h.items, List.append_assoc]
  capacity := h'.capacity.trans h.capacity
  isOpen := h'.isOpen.trans h.isOpen
  hasSenders := h'.hasSenders.trans h.hasSenders
  fits hq := h'.fits (h.fits hq)
  opened ho := by rw [h.opened ho, h'.opened (h.isOpen.trans ho), List.append_nil]

/-- Places are promised, or promises given back, as far as there is room. -/
theorem grows_promised {line promised : List TaskId}
    (h : q.Fits → q.items.length + promised.length ≤ q.capacity) :
    q.Grows { q with line, promised } [] :=
  ⟨(List.append_nil _).symm, rfl, rfl, rfl, h, fun _ => rfl⟩

theorem fits_new (capacity : Nat) : (new capacity).Fits :=
  Nat.zero_le _

theorem grows_promise (q : Ingress) : q.Grows q.promise [] := by
  unfold promise
  split
  · exact .refl q
  next next rest _ =>
    split
    next hfree =>
      apply grows_promised
      intro hq
      unfold free at hfree
      unfold Fits at hq
      rw [List.length_append, List.length_singleton]
      omega
    · exact .refl q

theorem grows_forget (q : Ingress) (task : TaskId) : q.Grows (q.forget task) [] := by
  have hle : (q.promised.filter (· != task)).length ≤ q.promised.length :=
    List.length_filter_le _ _
  have hfirst : q.Grows { q with
      line := q.line.filter (· != task), promised := q.promised.filter (· != task) } [] := by
    apply grows_promised
    intro hq
    unfold Fits at hq
    omega
  exact hfirst.trans (grows_promise _)

theorem fits_take (h : q.take = some (e, q')) (hq : q.Fits) : q'.Fits := by
  unfold take at h
  split at h
  · cases h
  next rest hi =>
    cases h
    apply (grows_promise _).fits
    unfold Fits at hq ⊢
    rw [hi, List.length_cons] at hq
    dsimp only
    omega

theorem capacity_take (h : q.take = some (e, q')) : q'.capacity = q.capacity := by
  unfold take at h
  split at h
  · cases h
  · cases h
    exact (grows_promise _).capacity

theorem fits_close (q : Ingress) : q.close.Fits :=
  Nat.zero_le _

/-- What an attempt to put an envelope on a queue comes to. -/
theorem offer_grows (q : Ingress) (task : TaskId) (e : Envelope) :
    match q.offer task e with
    | .accepted q' => q.Grows q' [e]
    | .mustWait q' => q.Grows q' []
    | .closed => q.isOpen = false := by
  unfold offer
  by_cases hopen : q.isOpen = true
  · rw [if_neg (by rw [hopen]; decide)]
    by_cases hp : q.promised.contains task = true
    · rw [if_pos hp]
      have hm : task ∈ q.promised := List.contains_iff_mem.1 hp
      have hlen : (q.promised.erase task).length + 1 = q.promised.length := by
        have hpos := List.length_pos_of_mem hm
        rw [List.length_erase_of_mem hm]
        omega
      refine ⟨rfl, rfl, rfl, rfl, fun hq => ?_, fun ho => (by rw [hopen] at ho; cases ho)⟩
      simp only [Fits, List.length_append, List.length_singleton] at hq ⊢
      omega
    rw [if_neg hp]
    by_cases hl : q.line.contains task = true
    · rw [if_pos hl]
      exact .refl q
    rw [if_neg hl]
    by_cases hfree : 0 < q.free
    · rw [if_pos hfree]
      refine ⟨rfl, rfl, rfl, rfl, fun hq => ?_, fun ho => (by rw [hopen] at ho; cases ho)⟩
      unfold free at hfree
      simp only [Fits, List.length_append, List.length_singleton] at hq ⊢
      omega
    · rw [if_neg hfree]
      exact grows_promised id
  · have hclosed : q.isOpen = false := Bool.eq_false_iff.2 hopen
    rw [if_pos (by rw [hclosed]; rfl)]
    exact hclosed

end Ingress

/-- What a call has put into the log, by its reply. -/
def Call.logged : (c : Call) → c.Reply → List Envelope
  | .persist e, .ok id => [e.withId id]
  | _, _ => []

/-- What a call has put on the queue, by its reply. -/
def Call.queued : (c : Call) → c.Reply → List Envelope
  | .send e _, .accepted => [e]
  | _, _ => []

/-- A call that has to do with neither the log, the queue, the streams nor the timers. -/
def Call.IsBeside : Call → Prop
  | .persist _ | .openStream _ | .nextItem | .send _ _ | .sleep _ => False
  | _ => True

/-- The log and the queue have grown by some envelopes and are otherwise as they were. -/
structure World.Delivers (w w' : World) (logged queued : List Envelope) : Prop where
  events : w'.events.envelopes = w.events.envelopes ++ logged
  queue : w.queue.Grows w'.queue queued

namespace World

variable {w w' : World} {task : TaskId}

theorem Delivers.of_same (he : w'.events = w.events) (hq : w'.queue = w.queue) :
    Delivers w w' [] [] where
  events := by rw [he, List.append_nil]
  queue := by
    rw [hq]
    exact .refl _

theorem Spares.delivers (h : Spares task w w') : Delivers w w' [] [] :=
  .of_same h.events h.queue

/-- The log, the queue, the streams and the timers are as they were. -/
structure Beside (w w' : World) : Prop where
  events : w'.events = w.events
  queue : w'.queue = w.queue
  streams : w'.streams = w.streams
  timers : w'.timers = w.timers

theorem Beside.delivers (h : Beside w w') : Delivers w w' [] [] :=
  .of_same h.events h.queue

theorem beside_withModels (w : World) (models : ModelStore) :
    Beside w (w.withModels models) := by
  obtain ⟨woken, hw⟩ := withModels_eq w models
  rw [hw]
  exact ⟨rfl, rfl, rfl, rfl⟩

theorem beside_inTransaction (w : World) (site : ModelSite)
    (run : ModelStore → Except ProjectionError α × ModelStore) :
    Beside w (w.inTransaction site run).world := by
  unfold inTransaction
  split
  · exact ⟨rfl, rfl, rfl, rfl⟩
  next faults _ =>
    have h := beside_withModels { w with faults } (run w.models).2
    exact ⟨h.events, h.queue, h.streams, h.timers⟩

theorem beside_withLock (w : World) (task : TaskId) (site : ModelSite)
    (run : ModelStore → α × ModelStore) : Beside w (w.withLock task site run).world := by
  unfold withLock
  generalize (if w.models.awaits task then ((none : Option (Halt ProjectionError)), w.faults)
    else w.faults.nextModel site) = plan
  obtain ⟨fault, faults⟩ := plan
  dsimp only
  split
  · exact ⟨rfl, rfl, rfl, rfl⟩
  · split
    · have h := beside_withModels { w with faults } (run w.models).2
      exact ⟨h.events, h.queue, h.streams, h.timers⟩
    · exact ⟨rfl, rfl, rfl, rfl⟩

theorem beside_read (w : World) (task : TaskId) (question : ModelRead) :
    Beside w (w.read task question).world := by
  unfold read
  split
  · exact beside_withModels w w.models.release
  · exact ⟨rfl, rfl, rfl, rfl⟩

/-- Calls on the read models, and those that only ask or tell, leave all the rest alone. -/
theorem beside_answer (w : World) (task : TaskId) {c : Call} (h : c.IsBeside) :
    Beside w (w.answer task c).world := by
  cases c with
  | begin => exact w.beside_withLock task .begin fun models => ((), models.begin task)
  | record r => exact w.beside_withLock task .record (·.record r)
  | read question => exact w.beside_read task question
  | find source eventType => exact w.beside_inTransaction .find (·.find task source eventType)
  | write write => exact w.beside_inTransaction .write (·.write task write)
  | recordIn r => exact w.beside_inTransaction .recordIn (·.recordIn task r)
  | commit => exact w.beside_inTransaction .commit (·.commit task)
  | rollback => exact w.beside_inTransaction .rollback (·.rollback task)
  | drop => exact beside_withModels w (w.models.drop task)
  | readLog _ => exact ⟨rfl, rfl, rfl, rfl⟩
  | now => exact ⟨rfl, rfl, rfl, rfl⟩
  | count _ => exact ⟨rfl, rfl, rfl, rfl⟩
  | log _ => exact ⟨rfl, rfl, rfl, rfl⟩
  | attend _ _ => exact ⟨rfl, rfl, rfl, rfl⟩
  | visit _ => exact ⟨rfl, rfl, rfl, rfl⟩
  | persist _ => exact h.elim
  | openStream _ => exact h.elim
  | nextItem => exact h.elim
  | send _ _ => exact h.elim
  | sleep _ => exact h.elim

theorem delivers_persist {e : NewEnvelope} {reply : Except (Halt EventLogError) EnvelopeId}
    (h : w.persist e = .reply reply w') : Delivers w w' ((Call.persist e).logged reply) [] := by
  unfold persist at h
  split at h
  · cases h
    exact .of_same rfl rfl
  next faults _ =>
    unfold EventLog.persist at h
    cases hv : e.validate with
    | error fault =>
      rw [hv] at h
      cases h
      exact .of_same rfl rfl
    | ok u =>
      rw [hv] at h
      cases h
      exact ⟨rfl, .refl _⟩

theorem delivers_send {e : Envelope} {limit : Option Span} {reply : SendResult}
    (h : w.send task e limit = .reply reply w') :
    Delivers w w' [] ((Call.send e limit).queued reply) := by
  have hoffer := w.queue.offer_grows task e
  unfold send at h
  split at h
  · cases h
    exact ⟨(List.append_nil _).symm, w.queue.grows_forget task⟩
  next queue hq =>
    rw [hq] at hoffer
    obtain ⟨woken, hw⟩ := wakeIdle_eq ({ w with queue }.clearTimer task)
    rw [hw] at h
    cases h
    exact ⟨(List.append_nil _).symm, hoffer⟩
  next queue hq =>
    rw [hq] at hoffer
    have hlimit : Spares task { w with queue } _ := spares_limitTimer { w with queue } limit
    dsimp only at h
    split at h
    · cases h
      refine ⟨(congrArg EventLog.envelopes hlimit.events).trans (List.append_nil _).symm, ?_⟩
      change w.queue.Grows ((({ w with queue } : World).limitTimer task limit).queue.forget task) []
      rw [hlimit.queue]
      exact hoffer.trans (queue.grows_forget task)
    · cases h

theorem delivers_send_wait {e : Envelope} {limit : Option Span}
    (h : w.send task e limit = .wait w') : Delivers w w' [] [] := by
  have hoffer := w.queue.offer_grows task e
  unfold send at h
  split at h
  · cases h
  · cases h
  next queue hq =>
    rw [hq] at hoffer
    have hlimit : Spares task { w with queue } _ := spares_limitTimer { w with queue } limit
    dsimp only at h
    split at h
    · cases h
    · cases h
      refine ⟨(congrArg EventLog.envelopes hlimit.events).trans (List.append_nil _).symm, ?_⟩
      rw [hlimit.queue]
      exact hoffer

theorem delivers_openStream (w : World) (task : TaskId) (after : Option EnvelopeId) :
    Delivers w (w.openStream task after).world [] [] := by
  unfold openStream
  split <;> exact .of_same rfl rfl

theorem delivers_nextItem (w : World) (task : TaskId) :
    Delivers w (w.nextItem task).world [] [] := by
  unfold nextItem
  split
  · exact .of_same rfl rfl
  · split <;> exact .of_same rfl rfl

/-- A call that neither persists nor sends leaves the log and the queue alone. -/
theorem delivers_apart (w : World) (task : TaskId) {c : Call} (hp : ∀ e, c ≠ .persist e)
    (hs : ∀ e limit, c ≠ .send e limit) : Delivers w (w.answer task c).world [] [] := by
  cases c with
  | persist e => exact absurd rfl (hp e)
  | send e limit => exact absurd rfl (hs e limit)
  | sleep span => exact Spares.delivers (spares_sleep w span)
  | openStream after => exact w.delivers_openStream task after
  | nextItem => exact w.delivers_nextItem task
  | _ => exact Beside.delivers (w.beside_answer task trivial)

/-- A call that has been answered has put into the log and on the queue what its reply tells. -/
theorem delivers_reply {c : Call} {reply : c.Reply} (h : w.answer task c = .reply reply w') :
    Delivers w w' (c.logged reply) (c.queued reply) := by
  have hapart : (∀ e, c ≠ .persist e) → (∀ e limit, c ≠ .send e limit) → Delivers w w' [] [] := by
    intro hp hs
    have hd := w.delivers_apart task hp hs
    rw [h] at hd
    exact hd
  cases c with
  | persist e => exact delivers_persist h
  | send e limit => exact delivers_send h
  | _ => exact hapart (fun _ he => by cases he) fun _ _ he => by cases he

/-- Who has to wait has put nothing anywhere. -/
theorem delivers_wait {c : Call} (h : w.answer task c = .wait w') : Delivers w w' [] [] := by
  have hapart : (∀ e, c ≠ .persist e) → (∀ e limit, c ≠ .send e limit) → Delivers w w' [] [] := by
    intro hp hs
    have hd := w.delivers_apart task hp hs
    rw [h] at hd
    exact hd
  cases c with
  | persist e =>
    simp only [answer, persist] at h
    split at h
    · cases h
    · split at h <;> cases h
  | send e limit => exact delivers_send_wait h
  | _ => exact hapart (fun _ he => by cases he) fun _ _ he => by cases he

theorem delivers_forget (w : World) (task : TaskId) : Delivers w (w.forget task) [] [] := by
  obtain ⟨woken, hw⟩ := withModels_eq w (w.models.forget task)
  unfold forget
  rw [hw]
  exact ⟨(List.append_nil _).symm, w.queue.grows_forget task⟩

end World

end AgentFacts
