import AgentFacts.Proofs.Tally

namespace AgentFacts

namespace Shift

variable {settings : PipelineSettings} {s s' : Shift}

/-- The books agree with the pool, and the senders are who they are said to be. -/
structure Sound (settings : PipelineSettings) (s : Shift) : Prop where
  tally : s.books.Tally s.pipeline
  staffed : s.pipeline.Staffed settings
  kept : ∀ {n : Nat} {a : Sending}, s.attempts[n]? = some a →
    a.Kept (s.books.sentBy (.client n))
  unsent : ∀ {n}, s.attempts.length ≤ n → s.books.sentBy (.client n) = []
  gone : s.pipeline.world.queue.hasSenders = false →
    s.senders = 0 ∧ ∀ a ∈ s.attempts, a.isPending = false
  finished : s.pipeline.pool.cancelled = false → ∀ {k how}, (k, how) ∈ s.books.ended →
    how = .finished
  stopped : s.pipeline.pool.cancelled = false → ∀ {i : Nat},
    s.pipeline.pool.workers[i]? = some Worker.stopped →
      s.pipeline.world.queue.hasSenders = false ∧
        (s.books.FromOutside → s.books.left = s.books.entered.length)

/-- What stays as it was. -/
structure Before (s s' : Shift) : Prop where
  books : s.books.Before s'.books
  /-- What an attempt has come to. -/
  outcomes : ∀ {n : Nat} {a : Sending} {outcome : Except EnqueueError Unit},
    s.attempts[n]? = some a → a.outcome? = some outcome → s'.attempts[n]? = some a
  /-- Once the pool is cancelled, nothing leaves the queue. -/
  cancelled : s.pipeline.pool.cancelled = true →
    s'.pipeline.pool.cancelled = true ∧ s'.books.left = s.books.left

namespace Before

theorem refl (s : Shift) : s.Before s where
  books := .refl _
  outcomes h _ := h
  cancelled h := ⟨h, rfl⟩

theorem trans {s'' : Shift} (h : s.Before s') (h' : s'.Before s'') : s.Before s'' where
  books := h.books.trans h'.books
  outcomes ha ho := h'.outcomes (h.outcomes ha ho) ho
  cancelled hc := by
    obtain ⟨hc', hl⟩ := h.cancelled hc
    obtain ⟨hc'', hl'⟩ := h'.cancelled hc'
    exact ⟨hc'', hl'.trans hl⟩

end Before

theorem outcome?_of_isPending {a : Sending} (h : a.isPending = true) : a.outcome? = none := by
  obtain ⟨e, rest⟩ := a
  cases rest with
  | none => rfl
  | some p =>
    cases p with
    | call c next => rfl
    | done result => cases h

theorem observe_eq {p : Pipeline} {queued : List Envelope} (task : TaskId)
    (hq : s.pipeline.world.queue.Grows p.world.queue queued) :
    s.observe task p = { s with pipeline := p, books := s.books.enter task queued } := by
  unfold observe
  rw [hq.items, List.drop_left]

theorem observe_of_le {p : Pipeline} (task : TaskId)
    (hle : p.world.queue.items.length ≤ s.pipeline.world.queue.items.length) :
    s.observe task p = { s with pipeline := p } := by
  unfold observe
  rw [List.drop_eq_nil_of_le hle, Books.enter_nil]

namespace Sound

variable {n i : Nat} {a a' : Sending} {world : World} {queued : List Envelope}

/-- While somebody is about to send there is a sender, and no worker has stopped for want of one. -/
theorem hasSenders (h : s.Sound settings) (ha : s.attempts[n]? = some a)
    (hp : a.isPending = true) : s.pipeline.world.queue.hasSenders = true := by
  cases hs : s.pipeline.world.queue.hasSenders with
  | true => rfl
  | false =>
    have hn := (h.gone hs).2 a (List.mem_of_getElem? ha)
    rw [hp] at hn
    cases hn

/-- An attempt has gone on, or has been given up. -/
theorem sent (h : s.Sound settings) (ha : s.attempts[n]? = some a) (hp : a.isPending = true)
    (hq : s.pipeline.world.queue.Grows world.queue queued)
    (hk : a'.Kept (s.books.sentBy (.client n) ++ queued)) :
    Sound settings { s with
      pipeline := { s.pipeline with world }
      books := s.books.enter (.client n) queued
      attempts := s.attempts.set n a' } where
  tally := h.tally.grow { s.pipeline with world } hq (fun _ => rfl) _
  staffed := h.staffed.grow hq
  kept := by
    intro m b hb
    by_cases he : m = n
    · subst he
      rw [List.getElem?_set_self (List.getElem?_eq_some_iff.1 ha).1] at hb
      obtain rfl := Option.some.inj hb
      rw [Books.sentBy_enter]
      exact hk
    · rw [List.getElem?_set_ne (Ne.symm he)] at hb
      rw [Books.sentBy_enter_ne fun hc => he (TaskId.client.inj hc)]
      exact h.kept hb
  unsent := by
    intro m hm
    rw [List.length_set] at hm
    have hne : m ≠ n := by
      have hlt := (List.getElem?_eq_some_iff.1 ha).1
      omega
    rw [Books.sentBy_enter_ne fun hc => hne (TaskId.client.inj hc)]
    exact h.unsent hm
  gone hs := by
    have hold := h.hasSenders ha hp
    rw [← hq.hasSenders, hs] at hold
    cases hold
  finished := h.finished
  stopped hc := by
    intro i hi
    have hold := (h.stopped hc hi).1
    rw [h.hasSenders ha hp] at hold
    cases hold

theorem before_sent (ha : s.attempts[n]? = some a) (hp : a.isPending = true) (a' : Sending)
    (world : World) (queued : List Envelope) :
    s.Before { s with
      pipeline := { s.pipeline with world }
      books := s.books.enter (.client n) queued
      attempts := s.attempts.set n a' } where
  books := .enter ..
  outcomes := by
    intro m b outcome hb ho
    have hne : n ≠ m := by
      intro he
      subst he
      rw [ha] at hb
      obtain rfl := Option.some.inj hb
      rw [outcome?_of_isPending hp] at ho
      cases ho
    exact (List.getElem?_set_ne hne).trans hb
  cancelled hc := ⟨hc, rfl⟩

theorem attempt (h : s.Sound settings) (n : Nat) :
    (s.attempt n).Sound settings ∧ s.Before (s.attempt n) := by
  unfold Shift.attempt
  split
  next e c next ha =>
    have hp : Sending.isPending ⟨e, some (.call c next)⟩ = true := rfl
    have hkept := h.kept ha
    cases hc : s.pipeline.world.answer (.client n) c with
    | reply reply world =>
      have hq := (World.delivers_reply hc).queue
      have hobserve := observe_eq (p := { s.pipeline with world }) (.client n) hq
      dsimp only
      rw [hobserve]
      exact ⟨h.sent ha hp hq (hkept.2 reply _ rfl), before_sent ha hp _ _ _⟩
    | wait world =>
      have hq := (World.delivers_wait hc).queue
      have hset : s.attempts.set n ⟨e, some (.call c next)⟩ = s.attempts := by
        obtain ⟨hlt, he⟩ := List.getElem?_eq_some_iff.1 ha
        rw [← he, List.set_getElem_self]
      have hkept' : Sending.Kept ⟨e, some (.call c next)⟩ (s.books.sentBy (.client n) ++ []) := by
        rw [List.append_nil]
        exact hkept
      have hnext := h.sent ha hp hq hkept'
      have hbefore := before_sent ha hp ⟨e, some (.call c next)⟩ world []
      have hobserve := observe_eq (p := { s.pipeline with world }) (.client n) hq
      rw [hset] at hnext hbefore
      dsimp only
      rw [hobserve]
      exact ⟨hnext, hbefore⟩
  · exact ⟨h, .refl s⟩

theorem giveUp (h : s.Sound settings) (n : Nat) :
    (s.giveUp n).Sound settings ∧ s.Before (s.giveUp n) := by
  unfold Shift.giveUp
  split
  next e c next ha =>
    have hp : Sending.isPending ⟨e, some (.call c next)⟩ = true := rfl
    have hnone : s.books.sentBy (.client n) = [] := (h.kept ha).1
    have hq := (s.pipeline.world.delivers_forget (.client n)).queue
    have hobserve := observe_eq
      (p := { s.pipeline with world := s.pipeline.world.forget (.client n) }) (.client n) hq
    rw [hobserve]
    refine ⟨h.sent ha hp hq ?_, before_sent ha hp _ _ _⟩
    rw [hnone]
    rfl
  · exact ⟨h, .refl s⟩

/-- Something is put on the queue by a worker, who is not from outside. -/
theorem stopped_of_worker (h : s.Sound settings) (hc : s.pipeline.pool.cancelled = false)
    (hi : s.pipeline.pool.workers[i]? = some Worker.stopped) (index : Nat)
    (queued : List Envelope) :
    s.pipeline.world.queue.hasSenders = false ∧
      ((s.books.enter (.worker index) queued).FromOutside →
        s.books.left = (s.books.enter (.worker index) queued).entered.length) := by
  obtain ⟨hs, hl⟩ := h.stopped hc hi
  refine ⟨hs, fun hout => ?_⟩
  cases queued with
  | nil =>
    rw [Books.enter_nil] at hout ⊢
    exact hl hout
  | cons e rest =>
    have hm : (TaskId.worker index, e) ∈ (s.books.enter (.worker index) (e :: rest)).entered :=
      List.mem_append_right _ List.mem_cons_self
    obtain ⟨n, hn⟩ := hout _ hm
    cases hn

/-- When nothing is left on the queue, all that has entered it has left it. -/
theorem left_eq (h : s.Sound settings) (hq : s.pipeline.world.queue.items = [])
    (ho : s.pipeline.world.queue.isOpen = true) : s.books.left = s.books.entered.length := by
  have hw := h.tally.queued ho
  rw [hq] at hw
  have hdrop := List.map_eq_nil_iff.1 hw.symm
  have hle := List.drop_eq_nil_iff.1 hdrop
  exact Nat.le_antisymm h.tally.kept.bound hle

/-- As long as a worker has not stopped, the pool has its queue. -/
theorem isOpen_of_idle (h : s.Sound settings) {worker : Worker}
    (hi : s.pipeline.pool.workers[i]? = some worker) (hn : worker ≠ .stopped) :
    s.pipeline.world.queue.isOpen = true := by
  cases ho : s.pipeline.world.queue.isOpen with
  | true => rfl
  | false =>
    have hidle := h.staffed.drained (h.staffed.isOpen.1 ho)
    rw [Pipeline.isIdle_eq_false hi hn] at hidle
    cases hidle

/-- The pipeline has gone on, and neither the queue nor the hands of the workers have changed. -/
theorem same (h : s.Sound settings) {p : Pipeline} (hq : p.world.queue = s.pipeline.world.queue)
    (hh : ∀ i, p.inHand? i = s.pipeline.inHand? i) (hstaffed : p.Staffed settings)
    (hc : p.pool.cancelled = false → s.pipeline.pool.cancelled = false)
    (hstopped : p.pool.cancelled = false → ∀ {i : Nat},
      p.pool.workers[i]? = some Worker.stopped →
        s.pipeline.world.queue.hasSenders = false ∧
          (s.books.FromOutside → s.books.left = s.books.entered.length)) :
    Sound settings { s with pipeline := p } where
  tally := h.tally.same hq hh
  staffed := hstaffed
  kept := h.kept
  unsent := h.unsent
  gone hs := by
    rw [hq] at hs
    exact h.gone hs
  finished hf := h.finished (hc hf)
  stopped hf := by
    intro i hi
    rw [hq]
    exact hstopped hf hi

end Sound

section Work

variable {index : Nat} {e e' : Envelope}

theorem pipeline_work (s : Shift) (index : Nat) :
    (s.work index).pipeline = s.pipeline.work index := by
  unfold work
  dsimp only
  split <;> rfl

theorem work_rested (hi : s.pipeline.inHand? index = none)
    (hi' : (s.pipeline.work index).inHand? index = none) :
    s.work index = s.observe (.worker index) (s.pipeline.work index) := by
  unfold work
  dsimp only
  rw [hi, hi']

theorem work_took (hi : s.pipeline.inHand? index = none)
    (hi' : (s.pipeline.work index).inHand? index = some e) :
    s.work index = { s.observe (.worker index) (s.pipeline.work index) with
      books := (s.observe (.worker index) (s.pipeline.work index)).books.take index } := by
  unfold work
  dsimp only
  rw [hi, hi']

theorem work_finished (hi : s.pipeline.inHand? index = some e)
    (hi' : (s.pipeline.work index).inHand? index = none) :
    s.work index = { s.observe (.worker index) (s.pipeline.work index) with
      books := (s.observe (.worker index) (s.pipeline.work index)).books.finish index } := by
  unfold work
  dsimp only
  rw [hi, hi']

theorem work_held (hi : s.pipeline.inHand? index = some e)
    (hi' : (s.pipeline.work index).inHand? index = some e') :
    s.work index = s.observe (.worker index) (s.pipeline.work index) := by
  unfold work
  dsimp only
  rw [hi, hi']

end Work

namespace Sound

variable {index : Nat} {p : Pipeline} {world : World} {e : Envelope}
  {rest rest' : Program (Except (Halt ProjectionError) DispatchOutcome)}

/-- A worker has taken the oldest envelope. -/
theorem took (h : s.Sound settings) (hi : s.pipeline.pool.workers[index]? = some .idle)
    (hc : s.pipeline.pool.cancelled = false)
    (hq : s.pipeline.world.queue.take = some (e, world.queue))
    (hp : p = { world, pool :=
      s.pipeline.pool.setWorker index (.busy e (s.pipeline.pool.executor.dispatch e).run) }) :
    Sound settings { s with pipeline := p, books := s.books.take index } ∧
      s.Before { s with pipeline := p, books := s.books.take index } := by
  subst hp
  have hlt := (List.getElem?_eq_some_iff.1 hi).1
  have hwent : s.pipeline.Went index _ := .takes hi hc hq
  have hfree : s.pipeline.inHand? index = none := Pipeline.inHand?_eq hi
  obtain ⟨-, -, hsenders⟩ := Ingress.take_eq_some hq
  obtain ⟨hleft, htally⟩ := h.tally.take hq hfree (Pipeline.inHand?_setWorker hlt)
    fun j hj => hwent.inHand_ne hj
  constructor
  · exact {
      tally := htally
      staffed := h.staffed.went hwent
      kept := h.kept
      unsent := h.unsent
      gone := by
        intro hs
        rw [hsenders] at hs
        exact h.gone hs
      finished := h.finished
      stopped := by
        intro hf i hst
        have hold := Pipeline.stopped_of_setWorker (fun he => by cases he) hst
        obtain ⟨hs, hl⟩ := h.stopped hf hold
        refine ⟨hsenders.trans hs, fun hout => ?_⟩
        have hall := hl hout
        omega }
  · exact {
      books := .take (h.tally.hand_eq_none.1 hfree)
      outcomes := fun ha _ => ha
      cancelled := by
        intro ht
        rw [hc] at ht
        cases ht }

theorem done (h : s.Sound settings) {result : Except (Halt ProjectionError) DispatchOutcome}
    (hi : s.pipeline.pool.workers[index]? = some (.busy e (.done result)))
    (hq : world.queue = s.pipeline.world.queue)
    (hp : p = { world, pool := s.pipeline.pool.setWorker index .idle }) :
    Sound settings { s with pipeline := p, books := s.books.finish index } ∧
      s.Before { s with pipeline := p, books := s.books.finish index } := by
  subst hp
  have hlt := (List.getElem?_eq_some_iff.1 hi).1
  have hwent := Pipeline.Went.finishes hq hi
  constructor
  · exact {
      tally := h.tally.finish hq (Pipeline.inHand?_eq hi) (Pipeline.inHand?_setWorker hlt)
        fun j hj => hwent.inHand_ne hj
      staffed := h.staffed.went hwent
      kept := h.kept
      unsent := h.unsent
      gone := by
        intro hs
        rw [hq] at hs
        exact h.gone hs
      finished := by
        intro hf k how hm
        rcases List.mem_append.1 hm with hm | hm
        · exact h.finished hf hm
        · obtain ⟨_, -, he⟩ := List.mem_map.1 hm
          exact (Prod.mk.inj he).2.symm
      stopped := by
        intro hf i hst
        rw [hq]
        exact h.stopped hf (Pipeline.stopped_of_setWorker (fun he => by cases he) hst) }
  · exact {
      books := .finish s.books index
      outcomes := fun ha _ => ha
      cancelled := fun hc => ⟨hc, rfl⟩ }

theorem called (h : s.Sound settings) {queued : List Envelope}
    (hi : s.pipeline.pool.workers[index]? = some (.busy e rest))
    (hq : s.pipeline.world.queue.Grows world.queue queued) (hr : rest.Leads rest')
    (hp : p = { world, pool := s.pipeline.pool.setWorker index (.busy e rest') }) :
    Sound settings { s with pipeline := p, books := s.books.enter (.worker index) queued } ∧
      s.Before { s with pipeline := p, books := s.books.enter (.worker index) queued } := by
  subst hp
  have hhands : ∀ i, Pipeline.inHand?
      { world, pool := s.pipeline.pool.setWorker index (.busy e rest') } i =
        s.pipeline.inHand? i := Pipeline.inHand?_setWorker_same hi rfl
  constructor
  · exact {
      tally := h.tally.grow _ hq hhands _
      staffed := h.staffed.went (.calls hi hq hr)
      kept := by
        intro n a ha
        rw [Books.sentBy_enter_ne fun he => by cases he]
        exact h.kept ha
      unsent := by
        intro n hn
        rw [Books.sentBy_enter_ne fun he => by cases he]
        exact h.unsent hn
      gone := by
        intro hs
        rw [hq.hasSenders] at hs
        exact h.gone hs
      finished := h.finished
      stopped := by
        intro hf i hst
        rw [hq.hasSenders]
        have hold := Pipeline.stopped_of_setWorker (fun he => by cases he) hst
        exact h.stopped_of_worker hf hold index queued }
  · exact {
      books := .enter ..
      outcomes := fun ha _ => ha
      cancelled := fun hc => ⟨hc, rfl⟩ }

/-- A worker without an envelope has stopped. -/
theorem stops (h : s.Sound settings) (hi : s.pipeline.pool.workers[index]? = some .idle)
    (hq : world.queue = s.pipeline.world.queue)
    (hclosing : s.pipeline.pool.cancelled = true ∨
      s.pipeline.world.queue.items = [] ∧ s.pipeline.world.queue.hasSenders = false)
    (hp : p = { world, pool := s.pipeline.pool.setWorker index .stopped }) :
    Sound settings { s with pipeline := p } := by
  subst hp
  refine h.same hq (Pipeline.inHand?_setWorker_same hi rfl)
    (h.staffed.went (.stops hq hi hclosing)) id ?_
  intro hf i hst
  rcases Pipeline.getElem?_of_set hst with hold | -
  · exact h.stopped hf hold
  · rcases hclosing with hc | ⟨hitems, hsenders⟩
    · rw [show s.pipeline.pool.cancelled = false from hf] at hc
      cases hc
    · exact ⟨hsenders, fun _ => h.left_eq hitems (h.isOpen_of_idle hi fun he => by cases he)⟩

theorem work (h : s.Sound settings) (index : Nat) :
    (s.work index).Sound settings ∧ s.Before (s.work index) := by
  have hwent := Pipeline.went_work s.pipeline index
  generalize hp : s.pipeline.work index = p at hwent
  cases hwent with
  | @rests world hq hfree =>
    have hhand : s.pipeline.inHand? index = none := by
      unfold Pipeline.inHand?
      rw [hfree]
      rfl
    have hsame : ∀ i, Pipeline.inHand? { s.pipeline with world } i = s.pipeline.inHand? i :=
      fun i => rfl
    rw [work_rested hhand (by rw [hp, hsame]; exact hhand), hp,
      observe_of_le _ (Nat.le_of_eq (congrArg (fun q => q.items.length) hq))]
    exact ⟨h.same hq hsame (h.staffed.same hq) id fun hc _ hi => h.stopped hc hi,
      ⟨.refl _, fun ha _ => ha, fun hc => ⟨hc, rfl⟩⟩⟩
  | @stops world hq hi hclosing =>
    have hlt := (List.getElem?_eq_some_iff.1 hi).1
    have hhand : s.pipeline.inHand? index = none := Pipeline.inHand?_eq hi
    have hhand' : (s.pipeline.work index).inHand? index = none := by
      rw [hp]
      exact Pipeline.inHand?_setWorker hlt
    rw [work_rested hhand hhand', hp,
      observe_of_le _ (Nat.le_of_eq (congrArg (fun q => q.items.length) hq))]
    exact ⟨h.stops hi hq hclosing rfl, ⟨.refl _, fun ha _ => ha, fun hc => ⟨hc, rfl⟩⟩⟩
  | @takes world e hi hc hq =>
    have hlt := (List.getElem?_eq_some_iff.1 hi).1
    have hhand : s.pipeline.inHand? index = none := Pipeline.inHand?_eq hi
    have hhand' : (s.pipeline.work index).inHand? index = some e := by
      rw [hp]
      exact Pipeline.inHand?_setWorker hlt
    have hitems := (Ingress.take_eq_some hq).1
    rw [work_took hhand hhand', hp, observe_of_le _ (by rw [hitems]; exact Nat.le_succ _)]
    exact h.took hi hc hq rfl
  | @finishes world e result hq hi =>
    have hlt := (List.getElem?_eq_some_iff.1 hi).1
    have hhand : s.pipeline.inHand? index = some e := Pipeline.inHand?_eq hi
    have hhand' : (s.pipeline.work index).inHand? index = none := by
      rw [hp]
      exact Pipeline.inHand?_setWorker hlt
    rw [work_finished hhand hhand', hp,
      observe_of_le _ (Nat.le_of_eq (congrArg (fun q => q.items.length) hq))]
    exact h.done hi hq rfl
  | @calls world e rest rest' queued hi hq hr =>
    have hlt := (List.getElem?_eq_some_iff.1 hi).1
    have hhand : s.pipeline.inHand? index = some e := Pipeline.inHand?_eq hi
    have hhand' : (s.pipeline.work index).inHand? index = some e := by
      rw [hp]
      exact Pipeline.inHand?_setWorker hlt
    rw [work_held hhand hhand', hp, observe_eq _ hq]
    exact h.called hi hq hr rfl

/-- What workers hold when the pool ends is given up, which happens only if it was cancelled. -/
theorem ended (h : s.Sound settings) {p : Pipeline} (hs : s.pipeline.Supervised p)
    (he : p.pool.supervision = .ended) :
    Sound settings { s with
      pipeline := p, books := s.books.abort s.pipeline.pool.workers.length } := by
  have hstaffed := h.staffed.supervised hs
  have hopen := hstaffed.isOpen.2 he
  have hcancelled : p.pool.cancelled = s.pipeline.pool.cancelled := by
    cases hs <;> rfl
  have hfinished : p.pool.cancelled = false → ∀ i, s.pipeline.inHand? i = none := by
    intro hc
    cases hs with
    | rests => exact Pipeline.inHand?_of_isIdle (h.staffed.drained he)
    | drains _ _ _ => cases he
    | ends _ hidle => exact Pipeline.inHand?_of_isIdle hidle
    | aborts _ _ hclosing =>
      have hc' := h.staffed.cancelled_of_closing hclosing
      rw [← hcancelled, hc] at hc'
      cases hc'
  have hqueue : p.world.queue.items = [] ∧
      p.world.queue.hasSenders = s.pipeline.world.queue.hasSenders := by
    cases hs with
    | rests => exact ⟨h.tally.closed hopen, rfl⟩
    | drains _ _ _ => cases he
    | ends hq _ => exact hq ▸ ⟨rfl, rfl⟩
    | aborts hq hc _ => exact hc ▸ ⟨rfl, hq.hasSenders⟩
  exact {
    tally := h.tally.abort hopen hqueue.1 (Pipeline.inHand?_of_isIdle (hstaffed.drained he))
    staffed := hstaffed
    kept := h.kept
    unsent := h.unsent
    gone := by
      intro hs
      rw [hqueue.2] at hs
      exact h.gone hs
    finished := by
      intro hc k how hm
      rcases List.mem_append.1 hm with hm | hm
      · exact h.finished (hcancelled.symm.trans hc) hm
      · obtain ⟨k', hk, -⟩ := List.mem_map.1 hm
        obtain ⟨i, -, hi⟩ := List.mem_filterMap.1 hk
        rw [h.tally.hand_eq_none.1 (hfinished hc i)] at hi
        cases hi
    stopped := by
      intro hc i hi
      rw [hqueue.2]
      have hold : s.pipeline.pool.workers[i]? = some Worker.stopped := by
        cases hs with
        | rests => exact hi
        | drains _ _ _ => cases he
        | ends _ _ => exact hi
        | aborts _ _ hclosing =>
          have hc' := h.staffed.cancelled_of_closing hclosing
          rw [← hcancelled, hc] at hc'
          cases hc'
      exact h.stopped (hcancelled.symm.trans hc) hold }

theorem supervise (h : s.Sound settings) :
    s.supervise.Sound settings ∧ s.Before s.supervise := by
  have hs := Pipeline.supervised_runSupervisor s.pipeline
  unfold Shift.supervise
  generalize s.pipeline.runSupervisor = p at hs ⊢
  have hcancelled : p.pool.cancelled = s.pipeline.pool.cancelled := by
    cases hs <;> rfl
  have hlength : p.pool.workers.length = s.pipeline.pool.workers.length := by
    cases hs with
    | aborts _ _ _ => exact List.length_map _
    | _ => rfl
  dsimp only
  split
  next he =>
    rw [hlength]
    refine ⟨h.ended hs he, ⟨.abort h.tally.lt_length, fun ha _ => ha, fun hc => ?_⟩⟩
    exact ⟨hcancelled.trans hc, rfl⟩
  next he =>
    refine ⟨?_, ⟨.refl _, fun ha _ => ha, fun hc => ⟨hcancelled.trans hc, rfl⟩⟩⟩
    have hstaffed := h.staffed.supervised hs
    cases hs with
    | rests => exact h
    | drains hq _ _ => exact h.same hq (fun _ => rfl) hstaffed id fun hc _ hi => h.stopped hc hi
    | ends _ _ => exact absurd rfl he
    | aborts _ _ _ => exact absurd rfl he

theorem letGo (h : s.Sound settings) : s.letGo.Sound settings ∧ s.Before s.letGo := by
  unfold Shift.letGo
  split
  next hsenders =>
    refine ⟨{ h with gone := fun hs => ?_ }, ⟨.refl _, fun ha _ => ha, fun hc => ⟨hc, rfl⟩⟩⟩
    have hnone := (h.gone hs).1
    omega
  split
  · exact ⟨h, .refl s⟩
  next hpending =>
    obtain ⟨woken, hp⟩ := Pipeline.closeSenders_eq s.pipeline
    rw [hp]
    refine ⟨?_, ⟨.refl _, fun ha _ => ha, fun hc => ⟨hc, rfl⟩⟩⟩
    have hall : ∀ a ∈ s.attempts, a.isPending = false := by
      intro a ha
      apply Bool.eq_false_iff.2
      intro hp
      exact hpending (List.any_eq_true.2 ⟨a, ha, hp⟩)
    exact {
      tally := ⟨h.tally.kept, h.tally.queued, h.tally.closed, h.tally.hands⟩
      staffed := { h.staffed with fits := h.staffed.fits }
      kept := h.kept
      unsent := h.unsent
      gone := fun _ => ⟨rfl, hall⟩
      finished := h.finished
      stopped := fun hc _ hi => ⟨rfl, (h.stopped hc hi).2⟩ }

theorem send (h : s.Sound settings) (hsenders : 0 < s.senders) (e : Envelope)
    (timeout : Option Span) :
    Sound settings { s with attempts := s.attempts ++ [sending e timeout] } ∧
      s.Before { s with attempts := s.attempts ++ [sending e timeout] } := by
  constructor
  · exact { h with
      kept := by
        intro n a ha
        by_cases hlt : n < s.attempts.length
        · rw [List.getElem?_append_left hlt] at ha
          exact h.kept ha
        · have hle := Nat.le_of_not_lt hlt
          rw [List.getElem?_append_right hle] at ha
          obtain rfl := List.mem_singleton.1 (List.mem_of_getElem? ha)
          rw [h.unsent hle]
          exact Sending.kept_sending e timeout
      unsent := by
        intro n hn
        rw [List.length_append] at hn
        exact h.unsent (Nat.le_trans (Nat.le_add_right _ _) hn)
      gone := by
        intro hs
        have hnone := (h.gone hs).1
        omega }
  · refine ⟨.refl _, fun ha _ => ?_, fun hc => ⟨hc, rfl⟩⟩
    exact (List.getElem?_append_left (List.getElem?_eq_some_iff.1 ha).1).trans ha

theorem cancel (h : s.Sound settings) :
    Sound settings { s with pipeline := s.pipeline.cancel } ∧
      s.Before { s with pipeline := s.pipeline.cancel } := by
  obtain ⟨woken, hp⟩ := Pipeline.cancel_eq s.pipeline
  rw [hp]
  have hstaffed : Pipeline.Staffed settings
      { world := { s.pipeline.world with woken }
        pool := { s.pipeline.pool with cancelled := true } } :=
    { h.staffed with draining := fun _ => rfl }
  exact ⟨h.same rfl (fun _ => rfl) hstaffed (fun hc => (by cases hc)) fun hc => (by cases hc),
    ⟨.refl _, fun ha _ => ha, fun _ => ⟨rfl, rfl⟩⟩⟩

theorem spawn (h : s.Sound settings) (hr : s.pipeline.pool.supervision = .ready) :
    Sound settings { s with pipeline := s.pipeline.spawn } ∧
      s.Before { s with pipeline := s.pipeline.spawn } := by
  obtain ⟨woken, hp⟩ := Drill.spawn_eq s.pipeline
  rw [hp]
  have hnone := h.staffed.ready hr
  have hworkers : ∀ (i : Nat) (worker : Worker), ((List.range s.pipeline.pool.size).map
      fun _ => Worker.idle)[i]? = some worker → worker = Worker.idle := by
    intro i worker hi
    obtain ⟨_, -, rfl⟩ := List.mem_map.1 (List.mem_of_getElem? hi)
    rfl
  have hopen : s.pipeline.world.queue.isOpen = true := by
    cases ho : s.pipeline.world.queue.isOpen with
    | true => rfl
    | false =>
      have he := h.staffed.isOpen.1 ho
      rw [hr] at he
      cases he
  refine ⟨h.same rfl ?_ ?_ id ?_, ⟨.refl _, fun ha _ => ha, fun hc => ⟨hc, rfl⟩⟩⟩
  · intro i
    unfold Pipeline.inHand?
    rw [hnone]
    cases hi : ((List.range s.pipeline.pool.size).map fun _ => Worker.idle)[i]? with
    | none => rfl
    | some worker =>
      rw [hworkers i worker hi]
      rfl
  · exact {
      fits := h.staffed.fits
      capacity := h.staffed.capacity
      size := h.staffed.size
      workers := .inr (by rw [List.length_map, List.length_range])
      ready := fun hr => by cases hr
      isOpen := by
        rw [hopen]
        exact ⟨fun he => (by cases he), fun he => (by cases he)⟩
      draining := fun hd => by cases hd
      drained := fun he => by cases he }
  · intro hc i hi
    cases hworkers i _ hi

theorem dropPool (h : s.Sound settings) (hr : s.pipeline.pool.supervision = .ready) :
    Sound settings { s with pipeline := s.pipeline.dropPool } ∧
      s.Before { s with pipeline := s.pipeline.dropPool } := by
  have hnone := h.staffed.ready hr
  have hidle : s.pipeline.pool.isIdle = true := by
    unfold Pool.isIdle
    rw [hnone]
    rfl
  have hstaffed : s.pipeline.dropPool.Staffed settings :=
    h.staffed.supervised (.ends rfl hidle)
  refine ⟨?_, ⟨.refl _, fun ha _ => ha, fun hc => ⟨hc, rfl⟩⟩⟩
  exact {
    tally := {
      kept := h.tally.kept
      queued := fun ho => by cases ho
      closed := fun _ => rfl
      hands := h.tally.hands }
    staffed := hstaffed
    kept := h.kept
    unsent := h.unsent
    gone := h.gone
    finished := h.finished
    stopped := fun hc _ hi => h.stopped hc hi }

theorem step (h : s.Sound settings) (move : Move) :
    (s.step move).Sound settings ∧ s.Before (s.step move) := by
  cases move with
  | clone =>
    simp only [Shift.step]
    split
    next hsenders =>
      refine ⟨{ h with gone := fun hs => ?_ }, ⟨.refl _, fun ha _ => ha, fun hc => ⟨hc, rfl⟩⟩⟩
      have hnone := (h.gone hs).1
      omega
    · exact ⟨h, .refl s⟩
  | letGo => exact h.letGo
  | send e timeout =>
    simp only [Shift.step]
    split
    next hsenders => exact h.send hsenders e timeout
    · exact ⟨h, .refl s⟩
  | attempt n => exact h.attempt n
  | giveUp n => exact h.giveUp n
  | spawn =>
    simp only [Shift.step]
    split
    next hr => exact h.spawn hr
    · exact ⟨h, .refl s⟩
  | dropPool =>
    simp only [Shift.step]
    split
    next hr => exact h.dropPool hr
    · exact ⟨h, .refl s⟩
  | work index => exact h.work index
  | cancel => exact h.cancel
  | supervise => exact h.supervise
  | turn world =>
    have hstaffed : Pipeline.Staffed settings { s.pipeline with
        world := { world with queue := s.pipeline.world.queue } } :=
      h.staffed.same rfl
    exact ⟨h.same rfl (fun _ => rfl) hstaffed id fun hc _ hi => h.stopped hc hi,
      ⟨.refl _, fun ha _ => ha, fun hc => ⟨hc, rfl⟩⟩⟩

theorem play (h : s.Sound settings) (moves : List Move) :
    (s.play moves).Sound settings ∧ s.Before (s.play moves) := by
  induction moves generalizing s with
  | nil => exact ⟨h, .refl s⟩
  | cons move moves ih =>
    obtain ⟨hnext, hbefore⟩ := h.step move
    obtain ⟨hlast, hafter⟩ := ih hnext
    exact ⟨hlast, hbefore.trans hafter⟩

end Sound

/-- What the books tell is all that has become of the envelopes that were sent. -/
structure Accounted (x : Executor) (settings : PipelineSettings) (s : Shift) : Prop where
  /-- The queue never holds more than it has room for. -/
  room : s.pipeline.world.queue.items.length ≤ max settings.queueCapacity 1
  workers : s.pipeline.pool.workers = [] ∨
    s.pipeline.pool.workers.length = max settings.workers 1
  /-- An attempt that has come to a success has put its envelope on the queue, once; any other has
  put nothing there. -/
  sent : ∀ {n : Nat} {a : Sending}, s.attempts[n]? = some a →
    s.books.sentBy (.client n) = a.accepted
  /-- Whatever has entered the queue is at one place, and at no other. -/
  placed : ∀ {k}, k < s.books.entered.length → ∃! place, s.books.At k place
  once : (s.books.ended.map (·.1)).Nodup
  /-- The queue, as long as there is one, holds what the books say, in order. -/
  queued : s.pipeline.world.queue.isOpen = true →
    s.pipeline.world.queue.items = s.books.waiting
  /-- Each worker holds what the books say, which is at most one envelope. -/
  hands : ∀ i, s.books.held i = s.pipeline.inHand? i
  /-- Envelopes leave the queue one at a time, the oldest first, to a worker who holds none. -/
  takes : ∀ move, (s.step move).books.left = s.books.left ∨
    s.pipeline.pool.cancelled = false ∧ ∃ i, move = .work i ∧ s.books.hand i = none ∧
      (s.step move).books.hand i = some s.books.left ∧
      (s.step move).books.left = s.books.left + 1
  /-- Whoever takes an envelope begins to dispatch it. -/
  begins : ∀ {i k}, s.books.hand i = none → (s.step (.work i)).books.hand i = some k →
    ∃ task e, (s.step (.work i)).books.entered[k]? = some (task, e) ∧
      (s.step (.work i)).pipeline.pool.workers[i]? = some (.busy e (x.dispatch e).run)
  /-- A worker does nothing else with an envelope than to dispatch it. -/
  dispatches : ∀ {i : Nat} {e rest}, s.pipeline.pool.workers[i]? = some (.busy e rest) →
    (x.dispatch e).run.Leads rest
  /-- It makes the next call of the dispatch, and goes on with the reply when there is one. -/
  proceeds : ∀ {i : Nat} {e : Envelope} {c : Call}
    {next : c.Reply → Program (Except (Halt ProjectionError) DispatchOutcome)},
    s.pipeline.pool.workers[i]? = some (.busy e (.call c next)) →
      (s.step (.work i)).pipeline.pool.workers[i]? = some (.busy e
        (match s.pipeline.world.answer (.worker i) c with
          | .reply reply _ => next reply
          | .wait _ => .call c next))
  /-- A worker lets go of an envelope only when its dispatch has come to an end. -/
  finishes : ∀ {i k}, s.books.hand i = some k → (s.step (.work i)).books.hand i ≠ some k →
    ∃ e result, s.pipeline.pool.workers[i]? = some (.busy e (.done result))
  /-- A pool that has been at work and ends without being cancelled has finished all there was. -/
  drained : s.pipeline.pool.supervision = .ended → s.pipeline.pool.cancelled = false →
    s.pipeline.pool.workers ≠ [] → s.books.FromOutside →
      ∀ {k}, k < s.books.entered.length → s.books.At k (.ended .finished)

theorem sound_start (w : World) (x : Executor) (settings : PipelineSettings) :
    (start w x settings).Sound settings where
  tally := {
    kept := .empty
    queued := fun _ => rfl
    closed := fun _ => rfl
    hands := fun _ => rfl }
  staffed := {
    fits := Ingress.fits_new _
    capacity := rfl
    size := rfl
    workers := .inl rfl
    ready := fun _ => rfl
    isOpen := ⟨fun h => (by cases h), fun h => (by cases h)⟩
    draining := fun h => by cases h
    drained := fun h => by cases h }
  kept h := by cases h
  unsent _ := rfl
  gone h := by cases h
  finished _ {_ _} h := by cases h
  stopped _ {_} h := by cases h

theorem dispatches_start (w : World) (x : Executor) (settings : PipelineSettings) :
    (start w x settings).pipeline.pool.Dispatches x where
  executor := rfl
  leads hi := by cases hi

/-- Whoever is at work dispatches its envelope, whatever move is made. -/
theorem dispatches_step {x : Executor} (h : s.pipeline.pool.Dispatches x) (move : Move) :
    (s.step move).pipeline.pool.Dispatches x := by
  cases move with
  | clone =>
    simp only [step]
    split <;> exact h
  | letGo =>
    simp only [step, letGo]
    split
    · exact h
    · split <;> exact h
  | send e timeout =>
    simp only [step]
    split <;> exact h
  | attempt n =>
    simp only [step, attempt]
    split
    · split <;> exact h
    · exact h
  | giveUp n =>
    simp only [step, giveUp]
    split <;> exact h
  | spawn =>
    simp only [step]
    split
    · refine h.staff .running fun worker hm => ?_
      obtain ⟨_, -, rfl⟩ := List.mem_map.1 hm
      rfl
    · exact h
  | dropPool =>
    simp only [step]
    split <;> exact ⟨h.executor, h.leads⟩
  | work index =>
    simp only [step]
    rw [pipeline_work]
    exact h.went (Pipeline.went_work s.pipeline index)
  | cancel => exact ⟨h.executor, h.leads⟩
  | supervise =>
    have hs := h.supervised (Pipeline.supervised_runSupervisor s.pipeline)
    simp only [step, supervise]
    split <;> exact hs
  | turn world => exact h

theorem dispatches_play {x : Executor} (h : s.pipeline.pool.Dispatches x) (moves : List Move) :
    (s.play moves).pipeline.pool.Dispatches x := by
  induction moves generalizing s with
  | nil => exact h
  | cons move moves ih => exact ih (dispatches_step h move)

/-- The moves of senders and of the supervisor take nothing from the queue. -/
theorem left_step {move : Move} (hm : ∀ i, move ≠ .work i) :
    (s.step move).books.left = s.books.left := by
  cases move with
  | work i => exact absurd rfl (hm i)
  | clone =>
    simp only [step]
    split <;> rfl
  | letGo =>
    simp only [step, letGo]
    split
    · rfl
    · split <;> rfl
  | send e timeout =>
    simp only [step]
    split <;> rfl
  | attempt n =>
    simp only [step, attempt]
    split
    · split <;> rfl
    · rfl
  | giveUp n =>
    simp only [step, giveUp]
    split <;> rfl
  | spawn =>
    simp only [step]
    split <;> rfl
  | dropPool =>
    simp only [step]
    split <;> rfl
  | cancel => rfl
  | supervise =>
    simp only [step, supervise]
    split <;> rfl
  | turn world => rfl

/-- A step of a worker takes nothing from the queue, or else the oldest envelope. -/
theorem left_work (h : s.Sound settings) (index : Nat) :
    (s.work index).books.left = s.books.left ∨
      s.pipeline.pool.cancelled = false ∧ s.books.hand index = none ∧
        (s.work index).books.hand index = some s.books.left ∧
        (s.work index).books.left = s.books.left + 1 := by
  cases hi : s.pipeline.inHand? index with
  | some e =>
    left
    cases hi' : (s.pipeline.work index).inHand? index with
    | none =>
      rw [work_finished hi hi']
      rfl
    | some e' =>
      rw [work_held hi hi']
      rfl
  | none =>
    cases hi' : (s.pipeline.work index).inHand? index with
    | none =>
      left
      rw [work_rested hi hi']
      rfl
    | some e =>
      right
      refine ⟨?_, h.tally.hand_eq_none.1 hi, ?_, ?_⟩
      · apply Bool.eq_false_iff.2
        intro hc
        have hleft := ((h.work index).2.cancelled hc).2
        rw [work_took hi hi'] at hleft
        have hleft : s.books.left + 1 = s.books.left := hleft
        omega
      · rw [work_took hi hi']
        exact Books.assign_self _ index _
      · rw [work_took hi hi']
        rfl

/-- A worker who has taken an envelope is at the beginning of its dispatch. -/
theorem begins_of_took (h : s.Sound settings) {index k : Nat} (hi : s.books.hand index = none)
    (hi' : (s.work index).books.hand index = some k) :
    ∃ task e, (s.work index).books.entered[k]? = some (task, e) ∧
      (s.work index).pipeline.pool.workers[index]? =
        some (.busy e (s.pipeline.pool.executor.dispatch e).run) := by
  have hfree := h.tally.hand_eq_none.2 hi
  have hheld := (h.work index).1.tally.hands index
  cases he : (s.work index).pipeline.inHand? index with
  | none =>
    have hn := (h.work index).1.tally.hand_eq_none.1 he
    rw [hi'] at hn
    cases hn
  | some e =>
    rw [he] at hheld
    unfold Books.held at hheld
    rw [hi', Option.bind_some] at hheld
    obtain ⟨⟨task, e'⟩, hentry, rfl⟩ := Option.map_eq_some_iff.1 hheld
    rw [pipeline_work] at he ⊢
    exact ⟨task, e', hentry, (Pipeline.went_work s.pipeline index).begins hfree he⟩

/-- A worker who does not hold any more what it held has come to the end of the dispatch. -/
theorem isDone_of_finished (h : s.Sound settings) {index k : Nat}
    (hi : s.books.hand index = some k) (hi' : (s.work index).books.hand index ≠ some k) :
    ∃ e result, s.pipeline.pool.workers[index]? = some (.busy e (.done result)) := by
  have hwent := Pipeline.went_work s.pipeline index
  have hbusy : s.pipeline.inHand? index ≠ none := by
    intro hn
    rw [h.tally.hand_eq_none.1 hn] at hi
    cases hi
  generalize hp : s.pipeline.work index = p at hwent
  cases hwent with
  | rests _ hfree =>
    have hnone : s.pipeline.inHand? index = none := by
      unfold Pipeline.inHand?
      rw [hfree]
      rfl
    exact absurd hnone hbusy
  | stops _ hidle _ => exact absurd (Pipeline.inHand?_eq hidle) hbusy
  | takes hidle _ _ => exact absurd (Pipeline.inHand?_eq hidle) hbusy
  | finishes _ hdone => exact ⟨_, _, hdone⟩
  | @calls world e rest rest' queued hcall hq hr =>
    have hhand : s.pipeline.inHand? index = some e := Pipeline.inHand?_eq hcall
    have hhand' : (s.pipeline.work index).inHand? index = some e := by
      rw [hp]
      exact Pipeline.inHand?_setWorker (List.getElem?_eq_some_iff.1 hcall).1
    rw [work_held hhand hhand'] at hi'
    exact absurd hi hi'

theorem accounted_of_sound {x : Executor} (h : s.Sound settings)
    (hx : s.pipeline.pool.Dispatches x) : s.Accounted x settings where
  room := by
    have hfits := h.staffed.fits
    unfold Ingress.Fits at hfits
    rw [h.staffed.capacity] at hfits
    omega
  workers := by
    rw [← h.staffed.size]
    exact h.staffed.workers
  sent ha := (h.kept ha).accepted
  placed hk := h.tally.kept.exists_unique_place hk
  once := h.tally.kept.once
  queued := h.tally.queued
  hands := h.tally.hands
  takes move := by
    by_cases hm : ∃ i, move = .work i
    · obtain ⟨i, rfl⟩ := hm
      rcases left_work h i with hleft | ⟨hc, hnone, hsome, hleft⟩
      · exact .inl hleft
      · exact .inr ⟨hc, i, rfl, hnone, hsome, hleft⟩
    · exact .inl (left_step fun i hi => hm ⟨i, hi⟩)
  begins hi hi' := hx.executor ▸ begins_of_took h hi hi'
  dispatches hi := hx.leads hi
  proceeds hi := by
    simp only [step]
    rw [pipeline_work]
    exact Pipeline.busy_work hi
  finishes hi hi' := isDone_of_finished h hi hi'
  drained he hc hw hout := by
    intro k hk
    have hidle := h.staffed.drained he
    have hpos : 0 < s.pipeline.pool.workers.length := List.length_pos_iff.2 hw
    have hleft := (h.stopped hc (Pool.stopped_of_isIdle hidle hpos)).2 hout
    rcases h.tally.kept.found (hleft ▸ hk) with ⟨i, hi⟩ | ⟨how, hm⟩
    · rw [h.tally.hand_eq_none.1 (Pipeline.inHand?_of_isIdle hidle i)] at hi
      cases hi
    · obtain rfl := h.finished hc hm
      exact hm

/-- However senders, workers and the supervisor go on, and whatever fails on the way: the pool loses
nothing that it has accepted, does nothing twice and keeps to the order of the queue; and what has
become of an envelope by some point of the run is so in the rest of it. -/
theorem pool_accounts (w : World) (x : Executor) (settings : PipelineSettings)
    (moves more : List Move) :
    ((start w x settings).play moves).Accounted x settings ∧
      ((start w x settings).play moves).Before ((start w x settings).play (moves ++ more)) := by
  have hsound := ((sound_start w x settings).play moves).1
  have hplay : (start w x settings).play (moves ++ more) =
      ((start w x settings).play moves).play more := List.foldl_append
  have hdispatches : ((start w x settings).play moves).pipeline.pool.Dispatches x :=
    dispatches_play (dispatches_start w x settings) moves
  refine ⟨accounted_of_sound hsound hdispatches, ?_⟩
  rw [hplay]
  exact (hsound.play more).2

end Shift

end AgentFacts
