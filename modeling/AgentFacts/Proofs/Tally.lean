import AgentFacts.Proofs.Shift

namespace AgentFacts

namespace Books

variable {b : Books} {i j k : Nat} {e : Envelope}

theorem Kept.isSome_entered (h : b.Kept) (hi : b.hand i = some k) :
    ∃ entry, b.entered[k]? = some entry := by
  have hlt := Nat.lt_of_lt_of_le (h.left hi) h.bound
  exact ⟨_, List.getElem?_eq_getElem hlt⟩

theorem Kept.held_eq_none (h : b.Kept) : b.held i = none ↔ b.hand i = none := by
  unfold held
  constructor
  · intro hn
    cases hi : b.hand i with
    | none => rfl
    | some k =>
      obtain ⟨entry, he⟩ := h.isSome_entered hi
      rw [hi, Option.bind_some, he] at hn
      cases hn
  · intro hn
    rw [hn]
    rfl

theorem Kept.held_enter (h : b.Kept) (task : TaskId) (envelopes : List Envelope) (i : Nat) :
    (b.enter task envelopes).held i = b.held i := by
  have hhand : (b.enter task envelopes).hand i = b.hand i := rfl
  unfold held
  rw [hhand]
  cases hi : b.hand i with
  | none => rfl
  | some k =>
    have hlt := Nat.lt_of_lt_of_le (h.left hi) h.bound
    rw [Option.bind_some, Option.bind_some, getElem?_enter hlt]

theorem held_take (b : Books) (i : Nat) :
    (b.take i).held i = b.entered[b.left]?.map (·.2) := by
  unfold held take
  dsimp only
  rw [assign_self]
  rfl

theorem held_take_ne (h : j ≠ i) : (b.take i).held j = b.held j := by
  unfold held take
  dsimp only
  rw [assign_ne h]
  rfl

theorem held_finish (b : Books) (i : Nat) : (b.finish i).held i = none := by
  unfold held finish
  dsimp only
  rw [assign_self]
  rfl

theorem held_finish_ne (h : j ≠ i) : (b.finish i).held j = b.held j := by
  unfold held finish
  dsimp only
  rw [assign_ne h]
  rfl

/-- Everything has been put on the queue by somebody who is not a worker. -/
def FromOutside (b : Books) : Prop :=
  ∀ entry ∈ b.entered, ∃ n, entry.1 = .client n

/-- The books agree with what can be seen of the queue and of the workers. -/
structure Tally (b : Books) (p : Pipeline) : Prop where
  kept : b.Kept
  queued : p.world.queue.isOpen = true → p.world.queue.items = b.waiting
  closed : p.world.queue.isOpen = false → p.world.queue.items = []
  hands : ∀ i, b.held i = p.inHand? i

namespace Tally

variable {p p' : Pipeline}

theorem hand_eq_none (h : b.Tally p) : p.inHand? i = none ↔ b.hand i = none := by
  rw [← h.hands i]
  exact h.kept.held_eq_none

theorem lt_length (h : b.Tally p) (hi : b.hand i = some k) : i < p.pool.workers.length := by
  apply Nat.lt_of_not_le
  intro hle
  have hn : p.inHand? i = none := by
    unfold Pipeline.inHand?
    rw [List.getElem?_eq_none hle]
    rfl
  rw [h.hand_eq_none.1 hn] at hi
  cases hi

/-- Something is put at the end of the queue, or nothing is. -/
theorem grow (h : b.Tally p) (p' : Pipeline) {queued : List Envelope}
    (hq : p.world.queue.Grows p'.world.queue queued) (hh : ∀ i, p'.inHand? i = p.inHand? i)
    (task : TaskId) : (b.enter task queued).Tally p' where
  kept := h.kept.enter task queued
  queued ho := by
    rw [waiting_enter h.kept.bound, hq.items, h.queued (hq.isOpen.symm.trans ho)]
  closed ho := by
    have hold := hq.isOpen.symm.trans ho
    rw [hq.items, h.closed hold, hq.opened hold]
    rfl
  hands i := by
    rw [h.kept.held_enter, h.hands, hh]

theorem same (h : b.Tally p) (hq : p'.world.queue = p.world.queue)
    (hh : ∀ i, p'.inHand? i = p.inHand? i) : b.Tally p' := by
  have hgrows : p.world.queue.Grows p'.world.queue [] := by
    rw [hq]
    exact .refl _
  rw [← b.enter_nil .supervisor]
  exact h.grow p' hgrows hh .supervisor

theorem take (h : b.Tally p) (hq : p.world.queue.take = some (e, p'.world.queue))
    (hi : p.inHand? i = none) (hi' : p'.inHand? i = some e)
    (hne : ∀ j, j ≠ i → p'.inHand? j = p.inHand? j) :
    b.left < b.entered.length ∧ (b.take i).Tally p' := by
  obtain ⟨hitems, hopen, -⟩ := Ingress.take_eq_some hq
  have hisOpen : p.world.queue.isOpen = true := by
    cases ho : p.world.queue.isOpen with
    | true => rfl
    | false =>
      rw [h.closed ho] at hitems
      cases hitems
  have hwaiting : b.waiting = e :: p'.world.queue.items := (h.queued hisOpen).symm.trans hitems
  obtain ⟨hlt, hfirst, hrest⟩ := entered_of_waiting (i := i) hwaiting
  refine ⟨hlt, ?_⟩
  exact {
    kept := h.kept.take hlt (h.hand_eq_none.1 hi)
    queued := fun _ => hrest.symm
    closed := by
      intro ho
      rw [hopen, hisOpen] at ho
      cases ho
    hands := by
      intro j
      by_cases he : j = i
      · subst he
        rw [held_take, hfirst, hi']
      · rw [held_take_ne he, h.hands, hne j he] }

theorem finish (h : b.Tally p) (hq : p'.world.queue = p.world.queue) (hi : p.inHand? i = some e)
    (hi' : p'.inHand? i = none) (hne : ∀ j, j ≠ i → p'.inHand? j = p.inHand? j) :
    (b.finish i).Tally p' where
  kept := by
    cases hk : b.hand i with
    | none =>
      rw [h.hand_eq_none.2 hk] at hi
      cases hi
    | some k => exact h.kept.finish hk
  queued ho := by
    rw [hq] at ho ⊢
    exact h.queued ho
  closed ho := by
    rw [hq] at ho ⊢
    exact h.closed ho
  hands j := by
    by_cases he : j = i
    · subst he
      rw [held_finish, hi']
    · rw [held_finish_ne he, h.hands, hne j he]

/-- The pool has ended. -/
theorem abort (h : b.Tally p) (ho : p'.world.queue.isOpen = false)
    (hq : p'.world.queue.items = []) (hn : ∀ i, p'.inHand? i = none) :
    (b.abort p.pool.workers.length).Tally p' where
  kept := h.kept.abort h.lt_length
  queued ho' := by
    rw [ho] at ho'
    cases ho'
  closed _ := hq
  hands i := (hn i).symm

end Tally

end Books

namespace Pipeline

variable {p p' : Pipeline} {settings : PipelineSettings} {i : Nat}

/-- The pool is of the size that has been set, and so is its queue. -/
structure Staffed (settings : PipelineSettings) (p : Pipeline) : Prop where
  fits : p.world.queue.Fits
  capacity : p.world.queue.capacity = max settings.queueCapacity 1
  size : p.pool.size = max settings.workers 1
  workers : p.pool.workers = [] ∨ p.pool.workers.length = p.pool.size
  ready : p.pool.supervision = .ready → p.pool.workers = []
  isOpen : p.world.queue.isOpen = false ↔ p.pool.supervision = .ended
  draining : ∀ {d}, p.pool.supervision = .draining d → p.pool.cancelled = true
  drained : p.pool.supervision = .ended → p.pool.isIdle = true

namespace Staffed

theorem grow (h : p.Staffed settings) {world : World} {queued : List Envelope}
    (hq : p.world.queue.Grows world.queue queued) : Staffed settings { p with world } :=
  { h with
    fits := hq.fits h.fits
    capacity := hq.capacity.trans h.capacity
    isOpen := by
      rw [hq.isOpen]
      exact h.isOpen }

theorem same (h : p.Staffed settings) {world : World} (hq : world.queue = p.world.queue) :
    Staffed settings { p with world } := by
  have hgrows : p.world.queue.Grows world.queue [] := by
    rw [hq]
    exact .refl _
  exact h.grow hgrows

/-- A worker who has not stopped goes on. -/
theorem set (h : p.Staffed settings) {old worker : Worker}
    (hi : p.pool.workers[i]? = some old) (hn : old ≠ .stopped) :
    Staffed settings { p with pool := p.pool.setWorker i worker } where
  fits := h.fits
  capacity := h.capacity
  size := h.size
  workers := by
    right
    refine List.length_set.trans (h.workers.resolve_left fun hw => ?_)
    rw [hw] at hi
    cases hi
  ready hr := by
    rw [h.ready hr] at hi
    cases hi
  isOpen := h.isOpen
  draining := h.draining
  drained he := by
    have hidle := h.drained he
    rw [isIdle_eq_false hi hn] at hidle
    cases hidle

theorem took (h : p.Staffed settings) {world : World} {e : Envelope}
    (hq : p.world.queue.take = some (e, world.queue)) : Staffed settings { p with world } :=
  { h with
    fits := Ingress.fits_take hq h.fits
    capacity := (Ingress.capacity_take hq).trans h.capacity
    isOpen := by
      rw [(Ingress.take_eq_some hq).2.1]
      exact h.isOpen }

theorem went (h : p.Staffed settings) (hw : p.Went i p') : p'.Staffed settings := by
  cases hw with
  | rests hq _ => exact h.same hq
  | stops hq hi _ => exact (h.same hq).set hi fun he => by cases he
  | takes hi _ hq => exact (h.took hq).set hi fun he => by cases he
  | finishes hq hi => exact (h.same hq).set hi fun he => by cases he
  | calls hi hq _ => exact (h.grow hq).set hi fun he => by cases he

/-- The pool has ended, and the queue is closed. -/
theorem ended (h : p.Staffed settings) {world : World} {queue : Ingress} {workers : List Worker}
    (hq : p.world.queue.Grows queue []) (hc : world.queue = queue.close)
    (hl : workers = [] ∨ workers.length = p.pool.size)
    (hi : workers.all Worker.isStopped = true) :
    Staffed settings { world, pool := { p.pool with supervision := .ended, workers } } where
  fits := by
    rw [hc]
    exact queue.fits_close
  capacity := by
    rw [hc]
    exact hq.capacity.trans h.capacity
  size := h.size
  workers := hl
  ready hr := by cases hr
  isOpen := by
    rw [hc]
    exact ⟨fun _ => rfl, fun _ => rfl⟩
  draining hd := by cases hd
  drained _ := hi

theorem cancelled_of_closing (h : p.Staffed settings)
    (ho : p.pool.cancelled = true ∨ ∃ d, p.pool.supervision = .draining d) :
    p.pool.cancelled = true := by
  rcases ho with hc | ⟨d, hd⟩
  · exact hc
  · exact h.draining hd

theorem supervised (h : p.Staffed settings) (hs : p.Supervised p') : p'.Staffed settings := by
  cases hs with
  | rests => exact h
  | drains hq active ho =>
    have hsame := h.same hq
    exact {
      fits := hsame.fits
      capacity := hsame.capacity
      size := h.size
      workers := h.workers
      ready := fun hr => by cases hr
      isOpen := by
        rw [hq, h.isOpen]
        exact ⟨fun he => absurd he active.2, fun he => by cases he⟩
      draining := fun _ => h.cancelled_of_closing ho
      drained := fun he => by cases he }
  | ends hq hi => exact h.ended (.refl _) hq h.workers hi
  | aborts hq hc _ =>
    refine h.ended hq hc ?_ ?_
    · rcases h.workers with hw | hw
      · exact .inl (by rw [hw]; rfl)
      · exact .inr ((List.length_map _).trans hw)
    · apply List.all_eq_true.2
      intro worker hm
      obtain ⟨_, -, rfl⟩ := List.mem_map.1 hm
      rfl

end Staffed

theorem Went.inHand_ne {j : Nat} (hw : p.Went i p') (h : j ≠ i) : p'.inHand? j = p.inHand? j := by
  cases hw with
  | rests _ _ => rfl
  | stops _ _ _ => exact inHand?_setWorker_ne h
  | takes _ _ _ => exact inHand?_setWorker_ne h
  | finishes _ _ => exact inHand?_setWorker_ne h
  | calls _ _ _ => exact inHand?_setWorker_ne h

/-- Whoever holds an envelope and held none before is at the beginning of its dispatch. -/
theorem Went.begins {e : Envelope} (hw : p.Went i p') (hn : p.inHand? i = none)
    (he : p'.inHand? i = some e) :
    p'.pool.workers[i]? = some (.busy e (p.pool.executor.dispatch e).run) := by
  cases hw with
  | rests _ _ => exact absurd (hn.symm.trans he) fun h => by cases h
  | stops _ hi _ =>
    rw [inHand?_setWorker (List.getElem?_eq_some_iff.1 hi).1] at he
    cases he
  | takes hi _ _ =>
    rw [inHand?_setWorker (List.getElem?_eq_some_iff.1 hi).1] at he
    obtain rfl := Option.some.inj he
    exact Drill.getElem?_setWorker _ hi
  | finishes _ hi =>
    rw [inHand?_eq hi] at hn
    cases hn
  | calls hi _ _ =>
    rw [inHand?_eq hi] at hn
    cases hn

end Pipeline

namespace Pool

variable {pool : Pool} {x : Executor} {index : Nat}

/-- Each worker with an envelope is at some point of what the executor does with it. -/
structure Dispatches (x : Executor) (pool : Pool) : Prop where
  executor : pool.executor = x
  leads : ∀ {i : Nat} {e : Envelope}
    {rest : Program (Except (Halt ProjectionError) DispatchOutcome)},
    pool.workers[i]? = some (.busy e rest) → (x.dispatch e).run.Leads rest

namespace Dispatches

theorem set (h : pool.Dispatches x) {worker : Worker}
    (hw : ∀ {e rest}, worker = .busy e rest → (x.dispatch e).run.Leads rest) :
    (pool.setWorker index worker).Dispatches x where
  executor := h.executor
  leads {i e rest} hi := by
    rcases Pipeline.getElem?_of_set hi with hold | hnew
    · exact h.leads hold
    · exact hw hnew

/-- The workers come to hold nothing. -/
theorem staff (h : pool.Dispatches x) {workers : List Worker} (supervision : Supervision)
    (hw : ∀ worker ∈ workers, worker.inHand? = none) :
    Dispatches x { pool with supervision, workers } where
  executor := h.executor
  leads hi := by
    have hn := hw _ (List.mem_of_getElem? hi)
    cases hn

theorem went {p p' : Pipeline} (h : p.pool.Dispatches x) (hw : p.Went index p') :
    p'.pool.Dispatches x := by
  cases hw with
  | rests _ _ => exact h
  | stops _ _ _ => exact h.set fun he => by cases he
  | takes _ _ _ =>
    refine h.set fun he => ?_
    cases he
    rw [h.executor]
    exact .refl
  | finishes _ _ => exact h.set fun he => by cases he
  | calls hi _ hr =>
    refine h.set fun he => ?_
    cases he
    exact (h.leads hi).trans hr

theorem supervised {p p' : Pipeline} (h : p.pool.Dispatches x) (hs : p.Supervised p') :
    p'.pool.Dispatches x := by
  cases hs with
  | rests => exact h
  | drains _ _ _ => exact ⟨h.executor, h.leads⟩
  | ends _ _ => exact ⟨h.executor, h.leads⟩
  | aborts _ _ _ =>
    refine h.staff .ended fun worker hm => ?_
    obtain ⟨_, -, rfl⟩ := List.mem_map.1 hm
    rfl

end Dispatches

end Pool

namespace Sending

variable {a : Sending} {sent : List Envelope}

/-- An attempt makes calls only as long as it has put nothing on the queue, and comes to a success
only if it has put its envelope there, once. -/
def Kept (a : Sending) (sent : List Envelope) : Prop :=
  match a.rest with
  | none => sent = []
  | some p =>
    p.Keeps (fun sent _ => sent = []) (fun sent c reply sent' => sent' = sent ++ c.queued reply)
      (fun sent result => sent = match result with
        | .ok () => [a.envelope]
        | .error _ => []) sent

theorem kept_sending (e : Envelope) (timeout : Option Span) :
    (Shift.sending e timeout).Kept [] := by
  cases timeout with
  | none =>
    refine ⟨rfl, ?_⟩
    intro reply sent hs
    subst hs
    cases reply with
    | accepted => rfl
    | timedOut => rfl
    | closed => rfl
  | some span =>
    refine ⟨rfl, ?_⟩
    intro reply sent hs
    subst hs
    cases reply with
    | accepted => rfl
    | closed => rfl
    | timedOut =>
      refine ⟨rfl, ?_⟩
      intro reply sent hs
      exact hs

theorem Kept.accepted (h : a.Kept sent) : sent = a.accepted := by
  obtain ⟨e, rest⟩ := a
  cases rest with
  | none => exact h
  | some p =>
    cases p with
    | call c next => exact h.1
    | done result =>
      cases result with
      | ok u => exact h
      | error error => exact h

end Sending

end AgentFacts
