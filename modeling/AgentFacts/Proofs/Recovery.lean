import AgentFacts.Proofs.Feeder

namespace AgentFacts

theorem Pool.stopped_of_isIdle {pool : Pool} (hi : pool.isIdle = true) {index : Nat}
    (h : index < pool.workers.length) : pool.workers[index]? = some Worker.stopped := by
  have hs := List.all_eq_true.1 hi _ (List.getElem_mem h)
  rw [List.getElem?_eq_getElem h]
  cases hw : pool.workers[index] with
  | stopped => rfl
  | _ =>
    rw [hw] at hs
    cases hs

theorem Pipeline.work_of_isIdle {p : Pipeline} (hi : p.pool.isIdle = true) (index : Nat) :
    p.work index = p := by
  unfold work
  by_cases hlt : index < p.pool.workers.length
  · rw [Pool.stopped_of_isIdle hi hlt]
  · rw [List.getElem?_eq_none (Nat.le_of_not_lt hlt)]

theorem Pipeline.moveClock_eq (w : World) (time : Span) :
    ∃ woken, Pipeline.moveClock w time = { w with clock := time, woken } := by
  unfold Pipeline.moveClock
  dsimp only
  refine List.foldlRecOn _ _
    (motive := fun w' : World => ∃ woken, w' = { w with clock := time, woken }) ⟨w.woken, rfl⟩ ?_
  intro w' hw timer _
  obtain ⟨woken, rfl⟩ := hw
  obtain ⟨woken', hw⟩ := World.wake_eq { w with clock := time, woken } timer.task
  exact ⟨woken', hw⟩

namespace Feed.Fits

variable {log : EventLog} {client : Nat} {φ : Feed} {p p' : Pipeline}

theorem worked (h : φ.Fits log client p.world) (hw : p.Worked p') : φ.Fits log client p'.world where
  events := hw.events.trans h.events
  faults := hw.faults.trans h.faults
  stream := by
    rw [hw.streams]
    exact h.stream
  timer := (hw.timer client).trans h.timer

/-- What is left of an earlier stream does not matter to a client who starts over. -/
theorem fresh {w : World} (h : φ.Fits log client w) : Fits log client ⟨φ.rest, []⟩ w :=
  ⟨h.events, h.faults, h.stream, h.timer⟩

theorem supervised (h : φ.Fits log client p.world) : φ.Fits log client p.finish.world :=
  ⟨h.events, h.faults, h.stream,
    (World.timerOf?_clearTimer (fun hc => by cases hc)).trans h.timer⟩

end Feed.Fits

/-- A pool at work while a client replays the log. -/
structure Drill where
  pipeline : Pipeline
  feeder : Program (Except (Halt PipelineError) ReplayStats)

namespace Drill

inductive Turn where
  | feed
  | work (index : Nat)
  | close
  | supervise
  | elapse (time : Span)
  | rouse (woken : List TaskId)

/-- A new pool and a new queue, and a client about to replay the log from the start. -/
def start (w : World) (r : Registry) (settings : PipelineSettings) : Drill where
  pipeline := (Pipeline.rewire ⟨w, .new ⟨r, settings.retry⟩ settings⟩ settings).spawn
  feeder := (Replay.run none).run

def feed (client : Nat) (d : Drill) : Drill :=
  match d.feeder with
  | .done _ => d
  | .call c next =>
    match d.pipeline.world.answer (.client client) c with
    | .reply reply world => { pipeline := { d.pipeline with world }, feeder := next reply }
    | .wait world => { d with pipeline := { d.pipeline with world } }

def step (client : Nat) (d : Drill) : Turn → Drill
  | .feed => d.feed client
  | .work index => { d with pipeline := d.pipeline.work index }
  | .close =>
    if Pipeline.isDone d.feeder then { d with pipeline := d.pipeline.closeSenders } else d
  | .supervise => { d with pipeline := d.pipeline.runSupervisor }
  | .elapse time =>
    { d with pipeline := { d.pipeline with world := Pipeline.moveClock d.pipeline.world time } }
  | .rouse woken =>
    { d with pipeline := { d.pipeline with world := { d.pipeline.world with woken } } }

def play (client : Nat) (d : Drill) (turns : List Turn) : Drill :=
  turns.foldl (step client) d

theorem feed_of_isDone {client : Nat} {d : Drill} (h : Pipeline.isDone d.feeder = true) :
    d.feed client = d := by
  unfold feed
  cases hf : d.feeder with
  | done result => rfl
  | call c next =>
    rw [hf] at h
    cases h

/-- The client may send something in its turn, and goes on as one who feeds the log. -/
theorem exists_fed {log : EventLog} {client : Nat} {d : Drill} {φ : Feed}
    (hfeeds : d.feeder.Feeds log φ) (hφ : φ.Fits log client d.pipeline.world)
    (ho : Pipeline.isDone d.feeder = false → d.pipeline.world.queue.isOpen = true) :
    ∃ world feeder sent φ',
      d.feed client = { pipeline := { d.pipeline with world }, feeder } ∧
        World.Fed log sent d.pipeline.world world ∧ feeder.Feeds log φ' ∧
        φ'.Fits log client world ∧ φ'.handed = φ.handed ++ sent := by
  unfold feed
  cases hf : d.feeder with
  | done result =>
    exact ⟨_, _, [], φ, rfl, .of_queue rfl rfl, hfeeds, hφ, (List.append_nil _).symm⟩
  | call c next =>
    rw [hf] at hfeeds ho
    dsimp only
    rcases World.answer_feed hφ (ho rfl) hfeeds.1 with
      ⟨reply, world, φ', sent, ha, hw, hr, hφ', hsent⟩ | ⟨world, ha, hw, hφ'⟩
    · rw [ha]
      exact ⟨world, _, sent, φ', rfl, hw, hfeeds.2 reply φ' hr, hφ', hsent⟩
    · rw [ha]
      exact ⟨world, _, [], φ, rfl, hw, hf ▸ hfeeds, hφ', (List.append_nil _).symm⟩

theorem step_close (client : Nat) (d : Drill) :
    d.step client .close = d ∨ Pipeline.isDone d.feeder = true ∧ ∃ woken,
      d.step client .close = { d with
        pipeline := { d.pipeline with
          world := { d.pipeline.world with
            queue := { d.pipeline.world.queue with hasSenders := false }, woken } } } := by
  obtain ⟨woken, hw⟩ := World.wakeIdle_eq { d.pipeline.world with
    queue := { d.pipeline.world.queue with hasSenders := false } }
  unfold step Pipeline.closeSenders
  dsimp only
  rw [hw]
  split
  next hn => exact .inr ⟨hn, woken, rfl⟩
  next => exact .inl rfl

theorem step_elapse (client : Nat) (d : Drill) (time : Span) : ∃ woken,
    d.step client (.elapse time) = { d with
      pipeline := { d.pipeline with world := { d.pipeline.world with clock := time, woken } } } := by
  obtain ⟨woken, hw⟩ := Pipeline.moveClock_eq d.pipeline.world time
  unfold step
  dsimp only
  rw [hw]
  exact ⟨woken, rfl⟩

/-- Everything has been put on the queue, and nothing is left on it or in the hands of a worker. -/
structure Drained (d : Drill) : Prop where
  fed : Pipeline.isDone d.feeder = true
  empty : d.pipeline.world.queue.items = []
  idle : ∀ index : Nat, d.pipeline.pool.workers[index]?.bind Worker.inHand? = none

theorem Drained.of_isIdle {d : Drill} (hf : Pipeline.isDone d.feeder = true)
    (hq : d.pipeline.world.queue.items = []) (hi : d.pipeline.pool.isIdle = true) :
    d.Drained := by
  refine ⟨hf, hq, fun index => ?_⟩
  by_cases hlt : index < d.pipeline.pool.workers.length
  · rw [Pool.stopped_of_isIdle hi hlt]
    rfl
  · rw [List.getElem?_eq_none (Nat.le_of_not_lt hlt)]
    rfl

/-- What is known of a pool that nobody cancels, while no store fails. -/
structure Sound (log : EventLog) (client : Nat) (d : Drill) : Prop where
  registry : Registry.standard = .ok d.pipeline.pool.executor.registry
  cancelled : d.pipeline.pool.cancelled = false
  staffed : 0 < d.pipeline.pool.workers.length
  supervision : d.pipeline.pool.supervision = .running ∧ d.pipeline.world.queue.isOpen = true ∨
    d.pipeline.pool.supervision = .ended ∧ d.pipeline.pool.isIdle = true
  stopped : ∀ {i : Nat}, d.pipeline.pool.workers[i]? = some Worker.stopped →
    d.pipeline.world.queue.items = [] ∧ d.pipeline.world.queue.hasSenders = false
  senders : d.pipeline.world.queue.hasSenders = false → Pipeline.isDone d.feeder = true
  items : ∀ e ∈ d.pipeline.world.queue.items, e ∈ log.envelopes
  crew : ∃ c : Crew, c.Mirrors d.pipeline ∧
    c.Sound (.standard d.pipeline.pool.executor False (· ∈ log.envelopes))
  faithful : d.pipeline.world.models.committed.Faithful log
  feed : ∃ φ : Feed, d.feeder.Feeds log φ ∧ φ.Fits log client d.pipeline.world ∧
    ∀ e ∈ φ.handed, d.pipeline.Accounts e

namespace Sound

variable {log : EventLog} {client : Nat} {d : Drill}

theorem drained_of_ended (h : d.Sound log client)
    (he : d.pipeline.pool.supervision = .ended) : d.Drained := by
  have hi : d.pipeline.pool.isIdle = true := by
    rcases h.supervision with ⟨hrun, -⟩ | ⟨-, hi⟩
    · rw [he] at hrun
      cases hrun
    · exact hi
  obtain ⟨hempty, hsenders⟩ := h.stopped (Pool.stopped_of_isIdle hi h.staffed)
  exact .of_isIdle (h.senders hsenders) hempty hi

/-- When nothing is left to do, every valid envelope of the log is visible or overtaken. -/
theorem stale_of_drained (h : d.Sound log client) (hd : d.Drained) :
    ∀ e ∈ log.envelopes, e.isValid = true → d.pipeline.world.models.committed.Stale e := by
  intro e he hv
  obtain ⟨φ, hfeeds, -, hacc⟩ := h.feed
  cases hacc e (hfeeds.complete hd.fed ▸ he) with
  | queued hm =>
    rw [hd.empty] at hm
    cases hm
  | inHand hw =>
    rw [hd.idle] at hw
    cases hw
  | settled hs => exact hs hv

/-- When nothing is left to do, the read models are what the log makes of them. -/
theorem recovered (h : d.Sound log client) (hasc : log.Ascending) (hd : d.Drained) :
    d.pipeline.world.models.committed.Recovered log :=
  h.faithful.recovered hasc (h.stale_of_drained hd)

/-- While the client has something to do, the queue is open, with a sender. -/
theorem open_of_call (h : d.Sound log client) (hn : Pipeline.isDone d.feeder = false) :
    d.pipeline.world.queue.isOpen = true ∧ d.pipeline.world.queue.hasSenders = true := by
  have hs : d.pipeline.world.queue.hasSenders = true := by
    cases hs : d.pipeline.world.queue.hasSenders with
    | true => rfl
    | false =>
      rw [h.senders hs] at hn
      cases hn
  rcases h.supervision with ⟨-, ho⟩ | ⟨-, hi⟩
  · exact ⟨ho, hs⟩
  · rw [(h.stopped (Pool.stopped_of_isIdle hi h.staffed)).2] at hs
    cases hs

theorem crew_same (h : d.Sound log client) {p : Pipeline}
    (hm : p.world.models = d.pipeline.world.models)
    (hw : p.pool.workers = d.pipeline.pool.workers) :
    ∃ c : Crew, c.Mirrors p ∧
      c.Sound (.standard d.pipeline.pool.executor False (· ∈ log.envelopes)) := by
  obtain ⟨c, hc, hs⟩ := h.crew
  have hm' := hm.trans (congrArg World.models hc.world).symm
  exact ⟨{ c with world := p.world }, ⟨rfl, fun i => hw ▸ hc.errand i, hc.others⟩,
    hs.same (congrArg _ hm') (congrArg _ hm')⟩

theorem fed (h : d.Sound log client) (hn : Pipeline.isDone d.feeder = false)
    {sent : List Envelope} {world : World}
    {feeder : Program (Except (Halt PipelineError) ReplayStats)}
    (hw : World.Fed log sent d.pipeline.world world)
    (hf : ∃ φ : Feed, feeder.Feeds log φ ∧ φ.Fits log client world ∧
      ∀ e ∈ φ.handed, Pipeline.Accounts { d.pipeline with world } e) :
    Sound log client { pipeline := { d.pipeline with world }, feeder } := by
  obtain ⟨ho, hs⟩ := h.open_of_call hn
  exact {
    registry := h.registry
    cancelled := h.cancelled
    staffed := h.staffed
    supervision := h.supervision.imp_left fun hr => ⟨hr.1, hw.isOpen.trans hr.2⟩
    stopped := fun hst => absurd ((h.stopped hst).2.symm.trans hs) Bool.false_ne_true
    senders := fun hf => absurd ((hw.hasSenders.symm.trans hf).symm.trans hs) Bool.false_ne_true
    items := fun e he => by
      rw [hw.items] at he
      exact (List.mem_append.1 he).elim (h.items e) (hw.logged e)
    crew := h.crew_same hw.models rfl
    faithful := hw.models ▸ h.faithful
    feed := hf }

theorem feed_turn (h : d.Sound log client) : (d.feed client).Sound log client := by
  obtain ⟨φ, hfeeds, hφ, hacc⟩ := h.feed
  cases hn : Pipeline.isDone d.feeder with
  | true =>
    rw [feed_of_isDone hn]
    exact h
  | false =>
    obtain ⟨world, feeder, sent, φ', heq, hw, hfeeds', hφ', hsent⟩ :=
      exists_fed hfeeds hφ fun _ => (h.open_of_call hn).1
    rw [heq]
    refine h.fed hn hw ⟨φ', hfeeds', hφ', fun e he => ?_⟩
    rw [hsent] at he
    rcases List.mem_append.1 he with he | he
    · refine (hacc e he).same rfl (by rw [hw.models]; exact .refl _) fun hq => ?_
      rw [hw.items]
      exact List.mem_append_left _ hq
    · refine .queued ?_
      rw [hw.items]
      exact List.mem_append_right _ he

/-- A worker goes on as a member of a sound crew can. -/
theorem mirrored (h : d.Sound log client) (index : Nat) :
    ∃ c : Crew, c.Mirrors d.pipeline ∧ d.pipeline.Mirrored
      (.standard d.pipeline.pool.executor False (· ∈ log.envelopes)) c (d.pipeline.work index) := by
  obtain ⟨φ, -, hφ, -⟩ := h.feed
  obtain ⟨c, hc, hs⟩ := h.crew
  exact ⟨c, hc, hc.work h.registry hs hφ.faults h.cancelled h.items index⟩

theorem work_turn (h : d.Sound log client) (hasc : log.Ascending) (index : Nat) :
    Sound log client { d with pipeline := d.pipeline.work index } := by
  obtain ⟨φ, hfeeds, hφ, hacc⟩ := h.feed
  obtain ⟨c, hc, ⟨⟨c', hc', hs', hd⟩, hw, hkeep⟩⟩ := h.mirrored index
  obtain ⟨workers, hpool⟩ := hw.pool
  have hexec := congrArg Pool.executor hpool
  have hnever : ∀ {i : Nat}, (d.pipeline.work index).pool.workers[i]? = some Worker.stopped →
      (d.pipeline.work index).world.queue.items = [] ∧
        (d.pipeline.work index).world.queue.hasSenders = false := by
    intro i hst
    rcases hw.stopped hst with hst | hst
    · obtain ⟨hi, hn⟩ := h.stopped hst
      refine ⟨List.eq_nil_iff_forall_not_mem.2 fun e he => ?_, hw.hasSenders.trans hn⟩
      have hm := hw.items e he
      rw [hi] at hm
      cases hm
    · exact hst
  exact {
    registry := by
      rw [hexec]
      exact h.registry
    cancelled := (congrArg Pool.cancelled hpool).trans h.cancelled
    staffed := hw.length.symm ▸ h.staffed
    supervision := by
      rcases h.supervision with ⟨hr, ho⟩ | ⟨he, hi⟩
      · exact .inl ⟨(congrArg Pool.supervision hpool).trans hr, hw.isOpen.trans ho⟩
      · rw [Pipeline.work_of_isIdle hi]
        exact .inr ⟨he, hi⟩
    stopped := hnever
    senders := fun hn => h.senders (hw.hasSenders.symm.trans hn)
    items := fun e he => h.items e (hw.items e he)
    crew := by
      rw [hexec]
      exact ⟨c', hc', hs'⟩
    faithful := by
      rw [← hc'.committed]
      refine Crew.faithful_did hasc ?_ hd
      rw [hc.committed]
      exact h.faithful
    feed := ⟨φ, hfeeds, hφ.worked hw, fun e he => hkeep (hacc e he)⟩ }

theorem close_turn (h : d.Sound log client) (hn : Pipeline.isDone d.feeder = true)
    (woken : List TaskId) :
    Sound log client { d with
      pipeline := { d.pipeline with
        world := { d.pipeline.world with
          queue := { d.pipeline.world.queue with hasSenders := false }, woken } } } := by
  obtain ⟨φ, hfeeds, hφ, hacc⟩ := h.feed
  exact {
    registry := h.registry
    cancelled := h.cancelled
    staffed := h.staffed
    supervision := h.supervision
    stopped := fun hst => ⟨(h.stopped hst).1, rfl⟩
    senders := fun _ => hn
    items := h.items
    crew := h.crew_same rfl rfl
    faithful := h.faithful
    feed := ⟨φ, hfeeds, ⟨hφ.events, hφ.faults, hφ.stream, hφ.timer⟩,
      fun e he => (hacc e he).same rfl (.refl _) id⟩ }

theorem elapse_turn (h : d.Sound log client) (time : Span) (woken : List TaskId) :
    Sound log client { d with
      pipeline := { d.pipeline with
        world := { d.pipeline.world with clock := time, woken } } } := by
  obtain ⟨φ, hfeeds, hφ, hacc⟩ := h.feed
  exact {
    registry := h.registry
    cancelled := h.cancelled
    staffed := h.staffed
    supervision := h.supervision
    stopped := h.stopped
    senders := h.senders
    items := h.items
    crew := h.crew_same rfl rfl
    faithful := h.faithful
    feed := ⟨φ, hfeeds, ⟨hφ.events, hφ.faults, hφ.stream, hφ.timer⟩,
      fun e he => (hacc e he).same rfl (.refl _) id⟩ }

/-- The supervisor does nothing before all workers have stopped. -/
theorem supervised (h : d.Sound log client) :
    d.pipeline.runSupervisor = d.pipeline ∨
      d.pipeline.runSupervisor = d.pipeline.finish ∧ d.pipeline.pool.isIdle = true := by
  unfold Pipeline.runSupervisor
  rcases h.supervision with ⟨hr, -⟩ | ⟨he, -⟩
  · rw [hr, h.cancelled]
    dsimp only
    split
    next hi => exact .inr ⟨rfl, hi⟩
    next => exact .inl (if_neg Bool.false_ne_true)
  · rw [he]
    exact .inl rfl

theorem supervise_turn (h : d.Sound log client) :
    Sound log client { d with pipeline := d.pipeline.runSupervisor } := by
  rcases h.supervised with heq | ⟨heq, hi⟩
  · rw [heq]
    exact h
  obtain ⟨φ, hfeeds, hφ, hacc⟩ := h.feed
  obtain ⟨hempty, hsenders⟩ := h.stopped (Pool.stopped_of_isIdle hi h.staffed)
  rw [heq]
  unfold Pipeline.finish
  exact {
    registry := h.registry
    cancelled := h.cancelled
    staffed := h.staffed
    supervision := .inr ⟨rfl, hi⟩
    stopped := fun _ => ⟨rfl, hsenders⟩
    senders := h.senders
    items := fun _ he => absurd he List.not_mem_nil
    crew := h.crew_same rfl rfl
    faithful := h.faithful
    feed := ⟨φ, hfeeds, hφ.supervised,
      fun e he => (hacc e he).same rfl (.refl _) fun hq => by
        rw [hempty] at hq
        cases hq⟩ }

theorem step (h : d.Sound log client) (hasc : log.Ascending) (turn : Turn) :
    (d.step client turn).Sound log client := by
  cases turn with
  | feed => exact h.feed_turn
  | work index => exact h.work_turn hasc index
  | close =>
    rcases step_close client d with heq | ⟨hn, woken, heq⟩
    · rw [heq]
      exact h
    · rw [heq]
      exact h.close_turn hn woken
  | supervise => exact h.supervise_turn
  | elapse time =>
    obtain ⟨woken, heq⟩ := step_elapse client d time
    rw [heq]
    exact h.elapse_turn time woken
  | rouse woken => exact h.elapse_turn d.pipeline.world.clock woken

theorem play (h : d.Sound log client) (hasc : log.Ascending) (turns : List Turn) :
    (d.play client turns).Sound log client :=
  List.foldlRecOn turns (Drill.step client) h fun _ hd turn _ => hd.step hasc turn

end Sound

/-- Spawning the workers wakes them, and changes nothing else in the world. -/
theorem spawn_eq (p : Pipeline) : ∃ woken, p.spawn = {
    world := { p.world with woken }
    pool := { p.pool with
      supervision := .running
      workers := (List.range p.pool.size).map fun _ => .idle } } := by
  have hw : ∃ woken, (List.range p.pool.size).foldl (fun (w : World) i => w.wake (.worker i))
      (p.world.wake .supervisor) = { p.world with woken } := by
    refine List.foldlRecOn _ _ (motive := fun w : World => ∃ woken, w = { p.world with woken })
      (World.wake_eq p.world .supervisor) ?_
    intro w hw i _
    obtain ⟨woken, rfl⟩ := hw
    obtain ⟨woken', hw⟩ := World.wake_eq { p.world with woken } (.worker i)
    exact ⟨woken', hw⟩
  obtain ⟨woken, hw⟩ := hw
  unfold Pipeline.spawn
  dsimp only
  rw [hw]
  exact ⟨woken, rfl⟩

/-- A drill starts out sound when the read models are faithful to the log and nobody is at work. -/
theorem sound_start {log : EventLog} {client : Nat} {c : Crew} {r : Registry} {K : Charter}
    (hr : Registry.standard = .ok r) (hs : c.Sound K)
    (hidle : ∀ task, c.errand task = none) (hc : c.committed.Faithful log)
    (hlog : c.world.events = log) (hf : c.world.faults = .none)
    (ht : c.world.timerOf? (.client client) = none) (settings : PipelineSettings) :
    (start c.world r settings).Sound log client := by
  obtain ⟨woken, hp⟩ := spawn_eq
    (Pipeline.rewire ⟨c.world, .new ⟨r, settings.retry⟩ settings⟩ settings)
  have hworker : ∀ i : Nat, ((List.range (max settings.workers 1)).map
      fun _ => Worker.idle)[i]?.bind Worker.inHand? = none := by
    intro i
    rw [List.getElem?_map]
    cases (List.range (max settings.workers 1))[i]? <;> rfl
  unfold start
  rw [hp]
  exact {
    registry := hr
    cancelled := rfl
    staffed := by
      change 0 < ((List.range (max settings.workers 1)).map fun _ => Worker.idle).length
      rw [List.length_map, List.length_range]
      omega
    supervision := .inl ⟨rfl, rfl⟩
    stopped := by
      intro i hst
      have hmem := List.mem_of_getElem? hst
      obtain ⟨_, _, hi⟩ := List.mem_map.1 hmem
      cases hi
    senders := fun hn => by cases hn
    items := fun _ he => absurd he List.not_mem_nil
    crew := by
      refine ⟨{ c with world := _ }, ⟨rfl, fun i => ?_, fun _ => hidle _⟩,
        fun hn copy => hs.idle (hidle _) copy, fun hb => ?_⟩
      · rw [hidle]
        exact (hworker i).symm
      · rw [hidle] at hb
        cases hb
    faithful := hc
    feed := ⟨⟨(c.world.streams.lookup (.client client)).getD [], []⟩, Replay.feeds_run log _,
      ⟨hlog, hf, rfl, ht⟩, fun _ he => absurd he List.not_mem_nil⟩ }

end Drill

/-- However an earlier run over a log has gone, a replay starts out sound when nobody is at work any
more. -/
theorem Drill.sound_start_play {r : Registry} (hr : Registry.standard = .ok r)
    {reports : List NewEnvelope} (retry : RetryPolicy) (w : World) (moves : List Move)
    {client : Nat}
    (htakes : ∀ {task e}, .take task e ∈ moves → e ∈ (EventLog.ofReports reports).envelopes ∧
      (Crew.play ⟨r, retry⟩ (.fresh w) moves).errand task = none)
    (hlog : (Crew.play ⟨r, retry⟩ (.fresh w) moves).world.events = .ofReports reports)
    (hf : (Crew.play ⟨r, retry⟩ (.fresh w) moves).world.faults = .none)
    (ht : (Crew.play ⟨r, retry⟩ (.fresh w) moves).world.timerOf? (.client client) = none)
    (settings : PipelineSettings) :
    (start (Crew.play ⟨r, retry⟩ (.fresh w) moves).world r settings).Sound (.ofReports reports)
      client := by
  obtain ⟨hsound, hfaithful⟩ :=
    Crew.play_induction
      (K := .standard ⟨r, retry⟩ True (· ∈ (EventLog.ofReports reports).envelopes))
      (P := fun c => c.committed.Faithful (.ofReports reports)) trivial
      (fun hm => Charter.standard_upheld hr (htakes hm).1) (ReadModels.faithful_empty _)
      fun _ h hd => Crew.faithful_did (EventLog.ascending_ofReports reports) h hd
  refine sound_start hr hsound (fun task => ?_) hfaithful hlog hf ht settings
  by_cases hm : ∃ e, .take task e ∈ moves
  · obtain ⟨e, hm⟩ := hm
    exact (htakes hm).2
  · exact Crew.errand_play fun e he => hm ⟨e, he⟩

/-- However an earlier run over a log has gone, a replay without faults recovers the read models
once it has been drained, and it has been drained when its pool has ended. -/
theorem replay_recovers {r : Registry} (hr : Registry.standard = .ok r) (reports : List NewEnvelope)
    (retry : RetryPolicy) (w : World) (moves : List Move) (client : Nat)
    (settings : PipelineSettings) (turns : List Drill.Turn) :
    let log := EventLog.ofReports reports
    let c := Crew.play ⟨r, retry⟩ (.fresh w) moves
    (∀ {task e}, .take task e ∈ moves → e ∈ log.envelopes ∧ c.errand task = none) →
      c.world.events = log → c.world.faults = .none → c.world.timerOf? (.client client) = none →
        let d := (Drill.start c.world r settings).play client turns
        (d.pipeline.pool.supervision = .ended → d.Drained) ∧
          (d.Drained → d.pipeline.world.models.committed.Recovered log) := by
  intro log c htakes hlog hf ht d
  have hasc : log.Ascending := EventLog.ascending_ofReports reports
  have hd : d.Sound log client :=
    (Drill.sound_start_play hr retry w moves htakes hlog hf ht settings).play hasc turns
  exact ⟨hd.drained_of_ended, hd.recovered hasc⟩

/-- A worker is aborted in the middle of its envelope, and two others replay the log. -/
theorem replay_recovers_aborted :
    let payload : Json := .ofMembers [("instances", .list [.ofMembers [("sid", .text "PRD"),
      ("instance_number", .text "00"), ("system_type", .text "application")]])]
    let report : NewEnvelope := ⟨⟨"agent"⟩, .sapSystemDiscovered, payload, ⟨0, 0⟩⟩
    let log := EventLog.ofReports [report]
    let later : World := { World.new ⟨0, 0⟩ 1 .none with events := log }
    let moves : List Move := .take (.worker 0) (report.withId ⟨1⟩) ::
      List.replicate 3 (.call (.worker 0)) ++ [.abandon (.worker 0), .turn later]
    let turns : List Drill.Turn := List.replicate 7 .feed ++ List.replicate 14 (.work 0) ++
      [.work 1, .close, .work 0, .work 1, .supervise]
    ∃ r, Registry.standard = .ok r ∧
      let c := Crew.play ⟨r, .single⟩ (.fresh (.new ⟨0, 0⟩ 1 .none)) moves
      let d := (Drill.start c.world r ⟨2, 1, .zero, .zero, .single⟩).play 0 turns
      d.pipeline.pool.supervision = .ended ∧
        d.pipeline.world.models.committed.Recovered log ∧
        (d.pipeline.world.models.committed.sapInstancesOf ⟨"agent"⟩).map (·.sid) = ["PRD"] := by
  intro payload report log later moves turns
  obtain ⟨r, hr, hrun⟩ : ∃ r, Registry.standard = .ok r ∧
      let c := Crew.play ⟨r, .single⟩ (.fresh (.new ⟨0, 0⟩ 1 .none)) moves
      let d := (Drill.start c.world r ⟨2, 1, .zero, .zero, .single⟩).play 0 turns
      ((c.errand (.worker 0)).isNone = true ∧ d.pipeline.pool.supervision = .ended) ∧
        (d.pipeline.world.models.committed.sapInstancesOf ⟨"agent"⟩).map (·.sid) = ["PRD"] :=
    ⟨_, rfl, by decide +kernel⟩
  obtain ⟨⟨hidle, hended⟩, hsids⟩ := hrun
  refine ⟨r, hr, hended, ?_, hsids⟩
  have h := replay_recovers hr [report] .single (.new ⟨0, 0⟩ 1 .none) moves 0
    ⟨2, 1, .zero, .zero, .single⟩ turns ?_ rfl rfl rfl
  · exact h.2 (h.1 hended)
  · intro task e hm
    obtain ⟨rfl, rfl⟩ : task = .worker 0 ∧ e = report.withId ⟨1⟩ := by
      simpa [moves] using hm
    have hv : report.validate = .ok () := by
      unfold NewEnvelope.validate
      rw [if_neg (by decide +kernel), if_neg (by decide +kernel)]
    have hlog : EventLog.ofReports [report] = EventLog.append .empty report := by
      simp only [EventLog.ofReports, EventLog.persist, List.foldl_cons, List.foldl_nil, hv]
    rw [hlog]
    exact ⟨List.mem_singleton.2 rfl, Option.isNone_iff_eq_none.1 hidle⟩

end AgentFacts
