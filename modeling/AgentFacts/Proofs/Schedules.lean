import AgentFacts.Proofs.Recovery

namespace AgentFacts.Drill

/-- Turns lead from one state to another. -/
def Reaches (client : Nat) (d d' : Drill) : Prop :=
  ∃ turns, d.play client turns = d'

variable {client : Nat} {d d' d'' : Drill} {p : Pipeline}
  {feeder : Program (Except (Halt PipelineError) ReplayStats)}

theorem Reaches.refl (client : Nat) (d : Drill) : Reaches client d d := ⟨[], rfl⟩

theorem Reaches.trans (h : Reaches client d d') (h' : Reaches client d' d'') :
    Reaches client d d'' := by
  obtain ⟨turns, rfl⟩ := h
  obtain ⟨turns', rfl⟩ := h'
  exact ⟨turns ++ turns', List.foldl_append⟩

theorem reaches_step (client : Nat) (d : Drill) (turn : Turn) :
    Reaches client d (d.step client turn) := ⟨[turn], rfl⟩

theorem reaches_work (client index : Nat) (p : Pipeline)
    (feeder : Program (Except (Halt PipelineError) ReplayStats)) :
    Reaches client ⟨p, feeder⟩ ⟨p.work index, feeder⟩ :=
  reaches_step client ⟨p, feeder⟩ (.work index)

theorem setWorker_self {pool : Pool} {index : Nat} {worker : Worker}
    (h : pool.workers[index]? = some worker) : pool.setWorker index worker = pool := by
  obtain ⟨hi, rfl⟩ := List.getElem?_eq_some_iff.1 h
  unfold Pool.setWorker
  rw [List.set_getElem_self]

theorem setWorker_setWorker (pool : Pool) (index : Nat) (worker worker' : Worker) :
    (pool.setWorker index worker).setWorker index worker' = pool.setWorker index worker' := by
  unfold Pool.setWorker
  rw [List.set_set]

theorem getElem?_setWorker {pool : Pool} {index : Nat} {worker : Worker} (worker' : Worker)
    (h : pool.workers[index]? = some worker) :
    (pool.setWorker index worker').workers[index]? = some worker' :=
  List.getElem?_set_self (List.getElem?_eq_some_iff.1 h).1

theorem reaches_run {index : Nat} {e : Envelope}
    {rest : Program (Except (Halt ProjectionError) DispatchOutcome)}
    (h : p.pool.workers[index]? = some (.busy e rest)) :
    Reaches client ⟨p, feeder⟩ ⟨{
      world := (p.world.run (.worker index) rest).1
      pool := p.pool.setWorker index (.busy e (p.world.run (.worker index) rest).2) }, feeder⟩ := by
  induction rest generalizing p with
  | done result =>
    unfold World.run
    rw [setWorker_self h]
    exact .refl client _
  | call c next ih =>
    have hwork := reaches_work client index p feeder
    unfold Pipeline.work at hwork
    rw [h] at hwork
    unfold World.run
    dsimp only at hwork ⊢
    cases ha : p.world.answer (.worker index) c with
    | reply reply world =>
      rw [ha] at hwork
      have hnext := ih reply (p := { world, pool := p.pool.setWorker index (.busy e (next reply)) })
        (getElem?_setWorker _ h)
      rw [setWorker_setWorker] at hnext
      exact hwork.trans hnext
    | wait world =>
      rw [ha] at hwork
      dsimp only
      rw [setWorker_self h]
      exact hwork

/-- A worker goes on, from envelope to envelope, until it has to wait. -/
theorem reaches_runWorker (index left : Nat) :
    Reaches client ⟨p, feeder⟩ ⟨p.runWorker index left, feeder⟩ := by
  induction left generalizing p with
  | zero => exact .refl client _
  | succ left ih =>
    unfold Pipeline.runWorker
    split
    · exact .refl client _
    · exact .refl client _
    next e rest hw =>
      have hrun : Reaches client ⟨p, feeder⟩ _ := reaches_run hw
      split
      next world result hr =>
        rw [hr] at hrun
        have hwork := reaches_work client index
          { world, pool := p.pool.setWorker index (.busy e (.done result)) } feeder
        unfold Pipeline.work at hwork
        rw [getElem?_setWorker _ hw] at hwork
        dsimp only [Pipeline.finishEnvelope] at hwork
        rw [setWorker_setWorker] at hwork
        exact (hrun.trans hwork).trans ih
      next world rest' _ hr =>
        rw [hr] at hrun
        exact hrun
    next hw =>
      have hwork := reaches_work client index p feeder
      unfold Pipeline.work at hwork
      rw [hw] at hwork
      dsimp only at hwork ⊢
      split
      · exact hwork.trans ih
      · exact hwork

theorem reaches_runNext : Reaches client ⟨p, feeder⟩ ⟨p.runNext, feeder⟩ := by
  unfold Pipeline.runNext
  split
  · exact .refl client _
  next task rest _ =>
    have hrouse := reaches_step client ⟨p, feeder⟩ (.rouse rest)
    dsimp only
    split
    · exact hrouse.trans (reaches_runWorker ..)
    · exact hrouse.trans (reaches_step client _ .supervise)
    · exact hrouse

theorem reaches_drain (left : Nat) : Reaches client ⟨p, feeder⟩ ⟨p.drain left, feeder⟩ := by
  induction left generalizing p with
  | zero => exact .refl client _
  | succ left ih =>
    unfold Pipeline.drain
    split
    · exact .refl client _
    · exact reaches_runNext.trans ih

theorem reaches_run_feeder :
    Reaches client ⟨p, feeder⟩ ⟨{ p with world := (p.world.run (.client client) feeder).1 },
      (p.world.run (.client client) feeder).2⟩ := by
  induction feeder generalizing p with
  | done result => exact .refl client _
  | call c next ih =>
    have hfeed := reaches_step client ⟨p, .call c next⟩ .feed
    simp only [step, feed] at hfeed
    unfold World.run
    cases ha : p.world.answer (.client client) c with
    | reply reply world =>
      rw [ha] at hfeed
      exact hfeed.trans (ih reply)
    | wait world =>
      rw [ha] at hfeed
      exact hfeed

/-- The scheduler goes through turns of a drill if its clients, stage by stage, do. -/
theorem reaches_runUntil {R : List (Program α) → Program (Except (Halt PipelineError) ReplayStats) →
      Prop}
    (hR : ∀ {p clients feeder}, R clients feeder → ∃ feeder',
      R (Pipeline.runClients p.world 0 clients).2 feeder' ∧
        Reaches client ⟨p, feeder⟩
          ⟨{ p with world := (Pipeline.runClients p.world 0 clients).1 }, feeder'⟩)
    (finished : Pipeline → List (Program α) → Bool) (limit : Span) (left : Nat)
    {clients : List (Program α)} (h : R clients feeder) :
    ∃ feeder', R (Pipeline.runUntil finished limit left p clients).2 feeder' ∧
      Reaches client ⟨p, feeder⟩
        ⟨(Pipeline.runUntil finished limit left p clients).1, feeder'⟩ := by
  induction left generalizing p clients feeder with
  | zero => exact ⟨feeder, h, .refl client _⟩
  | succ left ih =>
    obtain ⟨feeder', hr, hreach⟩ := hR (p := p) h
    unfold Pipeline.runUntil
    dsimp only
    split
    · exact ⟨feeder', hr, hreach⟩
    split
    · obtain ⟨feeder'', hr', hreach'⟩ := ih
        (p := Pipeline.drain { p with world := (Pipeline.runClients p.world 0 clients).1 } left) hr
      exact ⟨feeder'', hr', (hreach.trans (reaches_drain left)).trans hreach'⟩
    · obtain ⟨feeder'', hr', hreach'⟩ := ih hr
      exact ⟨feeder'', hr', (hreach.trans (reaches_step client _ (.elapse _))).trans hreach'⟩

/-- A replay that the scheduler runs. -/
theorem reaches_replay (finished : Pipeline →
      List (Program (Except (Halt PipelineError) ReplayStats)) → Bool) (limit : Span) (left : Nat) :
    ∃ feeder', (Pipeline.runUntil finished limit left p [feeder]).2 = [feeder'] ∧
      Reaches 0 ⟨p, feeder⟩ ⟨(Pipeline.runUntil finished limit left p [feeder]).1, feeder'⟩ := by
  refine reaches_runUntil (R := fun clients feeder => clients = [feeder]) ?_ finished limit left rfl
  intro p _ feeder hone
  subst hone
  exact ⟨_, rfl, reaches_run_feeder⟩

theorem reaches_pool (finished : Pipeline → List (Program α) → Bool) (limit : Span) (left : Nat) :
    Reaches client ⟨p, feeder⟩ ⟨(Pipeline.runUntil finished limit left p []).1, feeder⟩ := by
  have hR : ∀ {p : Pipeline} {clients : List (Program α)} {other}, clients = [] ∧ other = feeder →
      ∃ feeder', ((Pipeline.runClients p.world 0 clients).2 = [] ∧ feeder' = feeder) ∧
        Reaches client ⟨p, other⟩
          ⟨{ p with world := (Pipeline.runClients p.world 0 clients).1 }, feeder'⟩ := by
    intro p _ _ hempty
    obtain ⟨rfl, rfl⟩ := hempty
    exact ⟨_, ⟨rfl, rfl⟩, .refl client _⟩
  obtain ⟨_, ⟨-, rfl⟩, hreach⟩ := reaches_runUntil
    (R := fun (clients : List (Program α)) feeder' => clients = [] ∧ feeder' = feeder) (p := p)
    hR finished limit left ⟨rfl, rfl⟩
  exact hreach

/-- The scheduler waits for the pool to end. -/
theorem reaches_join : Reaches client ⟨p, feeder⟩ ⟨p.join.2, feeder⟩ := by
  unfold Pipeline.join
  extract_lets ended
  have hreach : Reaches client ⟨p, feeder⟩ ⟨(Pipeline.runUntil
      (fun p (_ : List (Program Unit)) => ended p) p.limitOf Pipeline.maxTurns p []).1, feeder⟩ :=
    reaches_pool _ _ _
  -- the number of turns is far too large to be looked into
  generalize Pipeline.runUntil (fun p (_ : List (Program Unit)) => ended p) p.limitOf
    Pipeline.maxTurns p [] = result at hreach ⊢
  exact hreach

/-- The scheduler runs the replay, closes the queue and waits for the pool: once that has ended, the
read models are recovered. -/
theorem Sound.recovered_of_join {log : EventLog} (h : d.Sound log 0) (hasc : log.Ascending)
    (finished : Pipeline → List (Program (Except (Halt PipelineError) ReplayStats)) → Bool)
    (limit : Span) (left : Nat) :
    let fed := Pipeline.runUntil finished limit left d.pipeline [d.feeder]
    let p := fed.1.closeSenders.join.2
    fed.2.all Pipeline.isDone = true → p.pool.supervision = .ended →
      p.world.models.committed.Recovered log := by
  intro fed p hdone hended
  obtain ⟨feeder, hclients, hfed⟩ := reaches_replay (p := d.pipeline) finished limit left
  have hisDone : Pipeline.isDone feeder = true := by
    have hall : fed.2.all Pipeline.isDone = true := hdone
    rw [hclients] at hall
    simpa using hall
  have hclose : Reaches 0 ⟨fed.1, feeder⟩ ⟨fed.1.closeSenders, feeder⟩ := by
    have hstep := reaches_step 0 ⟨fed.1, feeder⟩ .close
    unfold Drill.step at hstep
    dsimp only at hstep
    rw [if_pos hisDone] at hstep
    exact hstep
  obtain ⟨turns, hturns⟩ := (hfed.trans hclose).trans reaches_join
  have hs : Sound log 0 ⟨p, feeder⟩ := hturns ▸ h.play hasc turns
  exact hs.recovered hasc (hs.drained_of_ended hended)

end AgentFacts.Drill
