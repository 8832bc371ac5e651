import AgentFacts.Collector
import AgentFacts.Proofs.Deliveries
import AgentFacts.Proofs.Schedules
import AgentFacts.Proofs.Whereabouts

namespace AgentFacts

/-- An attempt to put an envelope on the queue: what is left of it, unless it has been given up. -/
structure Sending where
  envelope : Envelope
  rest : Option (Program (Except EnqueueError Unit))

namespace Sending

def outcome? (a : Sending) : Option (Except EnqueueError Unit) :=
  a.rest.bind Pipeline.value?

def isPending (a : Sending) : Bool :=
  a.rest.any fun p => !Pipeline.isDone p

/-- What the attempt has to have put on the queue, by what it has come to. -/
def accepted (a : Sending) : List Envelope :=
  match a.outcome? with
  | some (.ok ()) => [a.envelope]
  | _ => []

end Sending

/-- The envelope in the hands of a worker. -/
def Pipeline.inHand? (p : Pipeline) (index : Nat) : Option Envelope :=
  (p.pool.workers[index]?.bind Worker.inHand?).map (·.1)

structure Shift where
  pipeline : Pipeline
  senders : Nat
  attempts : List Sending
  books : Books

namespace Shift

inductive Move where
  | clone
  /-- A sender is let go; the last one only when nobody is about to send. -/
  | letGo
  | send (envelope : Envelope) (timeout : Option Span)
  | attempt (number : Nat)
  | giveUp (number : Nat)
  | spawn
  | dropPool
  | work (index : Nat)
  | cancel
  | supervise
  /-- Something happens that does not concern the queue: time passes, or other calls fail. -/
  | turn (world : World)

/-- A new pool with one sender, and nothing on its queue. -/
def start (w : World) (x : Executor) (settings : PipelineSettings) : Shift where
  pipeline := Pipeline.rewire ⟨w, .new x settings⟩ settings
  senders := 1
  attempts := []
  books := .empty

/-- The pipeline has gone on; what is new at the end of the queue has been put there by a task. -/
def observe (s : Shift) (task : TaskId) (p : Pipeline) : Shift :=
  { s with
    pipeline := p
    books := s.books.enter task
      (p.world.queue.items.drop s.pipeline.world.queue.items.length) }

/-- How an envelope is sent. -/
def sending (e : Envelope) (timeout : Option Span) : Sending where
  envelope := e
  rest := some (match timeout with
    | some span => enqueue e span
    | none => enqueueWaiting e)

def attempt (s : Shift) (n : Nat) : Shift :=
  match s.attempts[n]? with
  | some ⟨e, some (.call c next)⟩ =>
    match s.pipeline.world.answer (.client n) c with
    | .reply reply world =>
      { s.observe (.client n) { s.pipeline with world } with
        attempts := s.attempts.set n ⟨e, some (next reply)⟩ }
    | .wait world => s.observe (.client n) { s.pipeline with world }
  | _ => s

def giveUp (s : Shift) (n : Nat) : Shift :=
  match s.attempts[n]? with
  | some ⟨e, some (.call _ _)⟩ =>
    { s.observe (.client n) { s.pipeline with world := s.pipeline.world.forget (.client n) } with
      attempts := s.attempts.set n ⟨e, none⟩ }
  | _ => s

/-- A worker who holds something afterwards and held nothing before has taken it from the queue; one
who held something and does not any more has finished it. -/
def work (s : Shift) (index : Nat) : Shift :=
  let p := s.pipeline.work index
  let s' := s.observe (.worker index) p
  match s.pipeline.inHand? index, p.inHand? index with
  | none, some _ => { s' with books := s'.books.take index }
  | some _, none => { s' with books := s'.books.finish index }
  | _, _ => s'

/-- What workers hold when the pool ends is given up. -/
def supervise (s : Shift) : Shift :=
  let p := s.pipeline.runSupervisor
  if p.pool.supervision = .ended then
    { s with pipeline := p, books := s.books.abort p.pool.workers.length }
  else { s with pipeline := p }

def letGo (s : Shift) : Shift :=
  if 1 < s.senders then { s with senders := s.senders - 1 }
  else if s.attempts.any (·.isPending) then s
  else { s with senders := 0, pipeline := s.pipeline.closeSenders }

def step (s : Shift) : Move → Shift
  | .clone => if 0 < s.senders then { s with senders := s.senders + 1 } else s
  | .letGo => s.letGo
  | .send e timeout =>
    if 0 < s.senders then { s with attempts := s.attempts ++ [sending e timeout] } else s
  | .attempt n => s.attempt n
  | .giveUp n => s.giveUp n
  | .spawn =>
    if s.pipeline.pool.supervision = .ready then { s with pipeline := s.pipeline.spawn } else s
  | .dropPool =>
    if s.pipeline.pool.supervision = .ready then { s with pipeline := s.pipeline.dropPool } else s
  | .work index => s.work index
  | .cancel => { s with pipeline := s.pipeline.cancel }
  | .supervise => s.supervise
  | .turn world =>
    { s with pipeline :=
        { s.pipeline with world := { world with queue := s.pipeline.world.queue } } }

def play (s : Shift) (moves : List Move) : Shift :=
  moves.foldl step s

end Shift

/-- By replies to its calls, a program comes to what is left of it. -/
inductive Program.Leads (p : Program α) : Program α → Prop where
  | refl : Leads p p
  | reply {c : Call} {next : c.Reply → Program α} (h : Leads p (.call c next))
      (reply : c.Reply) : Leads p (next reply)

theorem Program.Leads.trans {p q r : Program α} (h : p.Leads q) (h' : q.Leads r) :
    p.Leads r := by
  induction h' with
  | refl => exact h
  | reply _ reply ih => exact .reply ih reply

namespace Pipeline

/-- What one step of a worker comes to. -/
inductive Went (p : Pipeline) (index : Nat) : Pipeline → Prop where
  | rests {world : World} (queue : world.queue = p.world.queue)
      (free : p.pool.workers[index]?.bind Worker.inHand? = none) : Went p index { p with world }
  | stops {world : World} (queue : world.queue = p.world.queue)
      (idle : p.pool.workers[index]? = some .idle)
      (closing : p.pool.cancelled = true ∨
        p.world.queue.items = [] ∧ p.world.queue.hasSenders = false) :
      Went p index { world, pool := p.pool.setWorker index .stopped }
  | takes {world : World} {e : Envelope} (idle : p.pool.workers[index]? = some .idle)
      (active : p.pool.cancelled = false)
      (took : p.world.queue.take = some (e, world.queue)) :
      Went p index { world, pool :=
        p.pool.setWorker index (.busy e (p.pool.executor.dispatch e).run) }
  | finishes {world : World} {e : Envelope}
      {result : Except (Halt ProjectionError) DispatchOutcome}
      (queue : world.queue = p.world.queue)
      (busy : p.pool.workers[index]? = some (.busy e (.done result))) :
      Went p index { world, pool := p.pool.setWorker index .idle }
  | calls {world : World} {e : Envelope}
      {rest rest' : Program (Except (Halt ProjectionError) DispatchOutcome)}
      {queued : List Envelope} (busy : p.pool.workers[index]? = some (.busy e rest))
      (grows : p.world.queue.Grows world.queue queued) (leads : rest.Leads rest') :
      Went p index { world, pool := p.pool.setWorker index (.busy e rest') }

/-- What one step of the supervisor comes to. -/
inductive Supervised (p : Pipeline) : Pipeline → Prop where
  | rests : Supervised p p
  | drains {world : World} {deadline : Span} (queue : world.queue = p.world.queue)
      (active : p.pool.supervision ≠ .ready ∧ p.pool.supervision ≠ .ended)
      (closing : p.pool.cancelled = true ∨ ∃ d, p.pool.supervision = .draining d) :
      Supervised p { world, pool := { p.pool with supervision := .draining deadline } }
  | ends {world : World} (queue : world.queue = p.world.queue.close)
      (idle : p.pool.isIdle = true) :
      Supervised p { world, pool := { p.pool with supervision := .ended } }
  | aborts {world : World} {queue : Ingress} (grows : p.world.queue.Grows queue [])
      (closed : world.queue = queue.close)
      (closing : p.pool.cancelled = true ∨ ∃ d, p.pool.supervision = .draining d) :
      Supervised p { world, pool := { p.pool with
        supervision := .ended, workers := p.pool.workers.map fun _ => .stopped } }

variable {p : Pipeline} {index : Nat}

theorem went_takeEnvelope (hn : p.pool.workers[index]? = some .idle) :
    p.Went index (p.takeEnvelope index) := by
  have hfree : p.pool.workers[index]?.bind Worker.inHand? = none := by
    rw [hn]
    rfl
  cases hc : p.pool.cancelled with
  | true =>
    obtain ⟨idle, woken, hs⟩ := stopWorker_eq p index
    unfold takeEnvelope
    rw [if_pos hc, hs]
    exact .stops rfl hn (.inl hc)
  | false =>
    have hlooked := looked_takeEnvelope hc index
    generalize p.takeEnvelope index = p' at hlooked
    cases hlooked with
    | waits idle woken => exact .rests rfl hfree
    | takes took idle woken => exact .takes hn hc took
    | stops empty senders idle woken => exact .stops rfl hn (.inr ⟨empty, senders⟩)

theorem went_work (p : Pipeline) (index : Nat) : p.Went index (p.work index) := by
  unfold work
  cases hn : p.pool.workers[index]? with
  | none => exact .rests rfl (by rw [hn]; rfl)
  | some worker =>
    cases worker with
    | stopped => exact .rests rfl (by rw [hn]; rfl)
    | idle => exact went_takeEnvelope hn
    | busy e rest =>
      cases rest with
      | done result =>
        cases result with
        | ok outcome => exact .finishes rfl hn
        | error halt => exact .finishes rfl hn
      | call c next =>
        dsimp only
        cases ha : p.world.answer (.worker index) c with
        | reply reply world =>
          exact .calls hn (World.delivers_reply ha).queue (.reply .refl reply)
        | wait world =>
          have hcalls : p.Went index
              { world, pool := p.pool.setWorker index (.busy e (.call c next)) } :=
            .calls hn (World.delivers_wait ha).queue .refl
          rw [Drill.setWorker_self hn] at hcalls
          exact hcalls

/-- A worker with a call to make goes on with the reply, or has to ask again. -/
theorem busy_work {e : Envelope} {c : Call}
    {next : c.Reply → Program (Except (Halt ProjectionError) DispatchOutcome)}
    (h : p.pool.workers[index]? = some (.busy e (.call c next))) :
    (p.work index).pool.workers[index]? = some (.busy e
      (match p.world.answer (.worker index) c with
        | .reply reply _ => next reply
        | .wait _ => .call c next)) := by
  unfold work
  rw [h]
  dsimp only
  cases p.world.answer (.worker index) c with
  | reply reply world => exact Drill.getElem?_setWorker _ h
  | wait world => exact h

theorem grows_forgetAll (w : World) (indices : List Nat) :
    w.queue.Grows (indices.foldl (fun w i => w.forget (.worker i)) w).queue [] := by
  refine List.foldlRecOn indices _ (motive := fun w' : World => w.queue.Grows w'.queue [])
    (.refl _) ?_
  intro w' hw i _
  exact hw.trans (World.delivers_forget w' (.worker i)).queue

theorem supervised_abort
    (hclosing : p.pool.cancelled = true ∨ ∃ d, p.pool.supervision = .draining d) :
    p.Supervised p.abort := by
  unfold abort finish
  exact .aborts (grows_forgetAll (p.world.withJournal _) _) rfl hclosing

theorem supervised_drainUntil (deadline : Span)
    (hactive : p.pool.supervision ≠ .ready ∧ p.pool.supervision ≠ .ended)
    (hclosing : p.pool.cancelled = true ∨ ∃ d, p.pool.supervision = .draining d) :
    p.Supervised (p.drainUntil deadline) := by
  unfold drainUntil
  split
  next hidle => exact .ends rfl hidle
  · split
    · exact supervised_abort hclosing
    · refine .drains ?_ hactive hclosing
      split <;> rfl

theorem supervised_runSupervisor (p : Pipeline) : p.Supervised p.runSupervisor := by
  unfold runSupervisor
  cases hs : p.pool.supervision with
  | ready => exact .rests
  | ended => exact .rests
  | draining deadline =>
    refine supervised_drainUntil deadline ⟨?_, ?_⟩ (.inr ⟨deadline, hs⟩)
    · rw [hs]
      intro h
      cases h
    · rw [hs]
      intro h
      cases h
  | running =>
    have hactive : p.pool.supervision ≠ .ready ∧ p.pool.supervision ≠ .ended := by
      rw [hs]
      exact ⟨fun h => (by cases h), fun h => (by cases h)⟩
    dsimp only
    split
    next hidle => exact .ends rfl hidle
    · split
      next hc => exact supervised_drainUntil _ hactive (.inl hc)
      · exact .rests

/-- Cancelling the pool leaves the queue and the workers alone. -/
theorem cancel_eq (p : Pipeline) : ∃ woken, p.cancel =
    { world := { p.world with woken }, pool := { p.pool with cancelled := true } } := by
  have hw : ∃ woken, p.world.idle.foldl (fun (w : World) i => w.wake (.worker i))
      (p.world.wake .supervisor) = { p.world with woken } := by
    refine List.foldlRecOn _ _ (motive := fun w : World => ∃ woken, w = { p.world with woken })
      (World.wake_eq p.world .supervisor) ?_
    intro w hw i _
    obtain ⟨woken, rfl⟩ := hw
    obtain ⟨woken', hw⟩ := World.wake_eq { p.world with woken } (.worker i)
    exact ⟨woken', hw⟩
  obtain ⟨woken, hw⟩ := hw
  unfold cancel
  dsimp only
  rw [hw]
  exact ⟨woken, rfl⟩

theorem closeSenders_eq (p : Pipeline) : ∃ woken, p.closeSenders = { p with
    world := { p.world with queue := { p.world.queue with hasSenders := false }, woken } } := by
  obtain ⟨woken, hw⟩ := World.wakeIdle_eq
    { p.world with queue := { p.world.queue with hasSenders := false } }
  unfold closeSenders
  rw [hw]
  exact ⟨woken, rfl⟩

theorem isIdle_eq_false {worker : Worker} (h : p.pool.workers[index]? = some worker)
    (hw : worker ≠ .stopped) : p.pool.isIdle = false := by
  apply Bool.eq_false_iff.2
  intro hidle
  have hlt := (List.getElem?_eq_some_iff.1 h).1
  rw [Pool.stopped_of_isIdle hidle hlt] at h
  exact hw (Option.some.inj h).symm

theorem inHand?_eq {worker : Worker} (h : p.pool.workers[index]? = some worker) :
    p.inHand? index = worker.inHand?.map (·.1) := by
  unfold inHand?
  rw [h]
  rfl

theorem inHand?_of_isIdle (h : p.pool.isIdle = true) (index : Nat) : p.inHand? index = none := by
  by_cases hlt : index < p.pool.workers.length
  · exact inHand?_eq (Pool.stopped_of_isIdle h hlt)
  · unfold inHand?
    rw [List.getElem?_eq_none (Nat.le_of_not_lt hlt)]
    rfl

theorem inHand?_setWorker {worker : Worker} {world : World}
    (h : index < p.pool.workers.length) :
    inHand? { world, pool := p.pool.setWorker index worker } index =
      worker.inHand?.map (·.1) := by
  unfold inHand? Pool.setWorker
  rw [List.getElem?_set_self h]
  rfl

theorem inHand?_setWorker_ne {worker : Worker} {world : World} {other : Nat}
    (h : other ≠ index) :
    inHand? { world, pool := p.pool.setWorker index worker } other = p.inHand? other := by
  unfold inHand? Pool.setWorker
  rw [List.getElem?_set_ne (Ne.symm h)]

/-- A worker has gone on who holds what it held before. -/
theorem inHand?_setWorker_same {old worker : Worker} {world : World}
    (h : p.pool.workers[index]? = some old)
    (hw : worker.inHand?.map (·.1) = old.inHand?.map (·.1)) (i : Nat) :
    inHand? { world, pool := p.pool.setWorker index worker } i = p.inHand? i := by
  by_cases he : i = index
  · subst he
    rw [inHand?_setWorker (List.getElem?_eq_some_iff.1 h).1, inHand?_eq h, hw]
  · exact inHand?_setWorker_ne he

/-- When a worker goes on without stopping, those who have stopped had stopped before. -/
theorem stopped_of_setWorker {worker : Worker} {i : Nat} (hw : worker ≠ .stopped)
    (h : (p.pool.setWorker index worker).workers[i]? = some Worker.stopped) :
    p.pool.workers[i]? = some Worker.stopped :=
  (getElem?_of_set h).resolve_right hw

end Pipeline

end AgentFacts
