import AgentFacts.Proofs.Recovery
import AgentFacts.Proofs.ReferenceModels

namespace AgentFacts

/-- How far a single worker is with what was put on the queue: it has handled some envelopes since
the read models were `m`, and may have the next one in hand. -/
inductive Pipeline.InTurn (m : ReadModels) (handed : List Envelope) (p : Pipeline) : Prop where
  | between {done : List Envelope} {os : List DispatchOutcome} {worker : Worker}
      (handled : Handles done os m p.world.models.committed)
      (order : handed = done ++ p.world.queue.items)
      (workers : p.pool.workers = [worker]) (free : worker.inHand? = none)
      (outside : ∀ copy, p.world.models.lock ≠ .held (.worker 0) copy)
  | inHand {done : List Envelope} {os : List DispatchOutcome} {base : ReadModels} {e : Envelope}
      {rest : Program (Except (Halt ProjectionError) DispatchOutcome)} {σ : Standing}
      (handled : Handles done os m base)
      (order : handed = done ++ e :: p.world.queue.items)
      (workers : p.pool.workers = [.busy e rest])
      (fits : σ.Fits .calm (.worker 0) p.world.models)
      (meets : rest.Meets .calm (Settles e base) σ)

namespace Pipeline.InTurn

variable {m : ReadModels} {handed sent : List Envelope} {p p' : Pipeline} {index : Nat}

theorem fed (h : p.InTurn m handed) (hm : p'.world.models = p.world.models)
    (hq : p'.world.queue.items = p.world.queue.items ++ sent)
    (hw : p'.pool.workers = p.pool.workers) : p'.InTurn m (handed ++ sent) := by
  cases h with
  | between handled order workers free outside =>
    refine .between (hm ▸ handled) ?_ (hw.trans workers) free (hm ▸ outside)
    rw [order, hq, List.append_assoc]
  | inHand handled order workers fits meets =>
    refine .inHand handled ?_ (hw.trans workers) (hm ▸ fits) meets
    rw [order, hq, List.append_assoc, List.cons_append]

theorem same (h : p.InTurn m handed) (hm : p'.world.models = p.world.models)
    (hq : p'.world.queue.items = p.world.queue.items)
    (hw : p'.pool.workers = p.pool.workers) : p'.InTurn m handed := by
  have hs := h.fed hm (hq.trans (List.append_nil _).symm) hw
  rw [List.append_nil] at hs
  exact hs

/-- A worker who is between two envelopes takes the next one, waits for it or stops. -/
theorem looked {done : List Envelope} {os : List DispatchOutcome}
    (hx : Registry.standard = .ok p.pool.executor.registry)
    (handled : Handles done os m p.world.models.committed)
    (order : handed = done ++ p.world.queue.items) (workers : p.pool.workers = [.idle])
    (outside : ∀ copy, p.world.models.lock ≠ .held (.worker 0) copy) (hl : p.Looked 0 p') :
    p'.InTurn m handed := by
  cases hl with
  | waits idle woken => exact .between handled order workers rfl outside
  | @takes e queue took idle woken =>
    rw [(Ingress.take_eq_some took).1] at order
    refine .inHand (σ := .fresh p.world.models.committed) handled order ?_
      ⟨fun hc => (by cases hc), fun _ => ⟨outside, rfl⟩⟩
      (settles_dispatch hx e p.world.models.committed)
    change p.pool.workers.set 0 _ = _
    rw [workers]
    rfl
  | stops empty senders idle woken =>
    refine .between handled order (show _ = [Worker.stopped] from ?_) rfl outside
    change p.pool.workers.set 0 _ = _
    rw [workers]
    rfl

theorem finished {done : List Envelope} {os : List DispatchOutcome} {base : ReadModels}
    {e : Envelope} {result : Except (Halt ProjectionError) DispatchOutcome} {σ : Standing}
    (handled : Handles done os m base) (order : handed = done ++ e :: p.world.queue.items)
    (workers : p.pool.workers = [.busy e (.done result)])
    (fits : σ.Fits .calm (.worker 0) p.world.models) (settled : Settles e base σ result) :
    (p.finishEnvelope 0 e result).InTurn m handed := by
  obtain ⟨hcopy, o, rfl, hh⟩ := settled
  obtain ⟨hfree, hseen⟩ := fits.outside hcopy
  rw [show σ.seen = p.world.models.committed from hseen] at hh
  refine .between (handled.snoc hh) ?_ (show _ = [Worker.idle] from ?_) rfl hfree
  · rw [order, List.append_assoc]
    rfl
  · change p.pool.workers.set 0 _ = _
    rw [workers]
    rfl

/-- A call of a worker who has an envelope in hand is answered, or has to be made again. -/
theorem called {done : List Envelope} {os : List DispatchOutcome} {base : ReadModels}
    {e : Envelope} {k : Call}
    {next : k.Reply → Program (Except (Halt ProjectionError) DispatchOutcome)} {σ : Standing}
    (hf : p.world.faults = .none) (handled : Handles done os m base)
    (order : handed = done ++ e :: p.world.queue.items)
    (workers : p.pool.workers = [.busy e (.call k next)])
    (fits : σ.Fits .calm (.worker 0) p.world.models)
    (meets : (Program.call k next).Meets .calm (Settles e base) σ) :
    (p.work 0).InTurn m handed := by
  obtain ⟨hp, hnext⟩ := meets
  have hspare : World.Spares (.worker 0) p.world _ := World.spares_answer hp.1 hf
  have hnone : p.pool.workers[0]? = some (.busy e (.call k next)) := by rw [workers]; rfl
  unfold Pipeline.work
  rw [hnone]
  dsimp only
  cases ha : p.world.answer (.worker 0) k with
  | reply reply world =>
    rw [ha] at hspare
    obtain ⟨σ', hr, hfit, -, -⟩ := World.answer_reply (fun hne => absurd hf hne) fits ha
    refine .inHand handled ?_ ?_ hfit (hnext reply σ' hr)
    · rw [order, ← show world.queue = p.world.queue from hspare.queue]
    · change p.pool.workers.set 0 _ = _
      rw [workers]
      rfl
  | wait world =>
    rw [ha] at hspare
    obtain ⟨hl, hc⟩ := World.answer_wait ha
    refine .inHand handled ?_ workers (fits.same hl hc) ⟨hp, hnext⟩
    rw [order, ← show world.queue = p.world.queue from hspare.queue]

theorem work (h : p.InTurn m handed) (hx : Registry.standard = .ok p.pool.executor.registry)
    (hc : p.pool.cancelled = false) (hf : p.world.faults = .none) (index : Nat) :
    (p.work index).InTurn m handed := by
  have hother : ∀ {worker : Worker} {i : Nat}, p.pool.workers = [worker] →
      p.work (i + 1) = p := by
    intro worker i hw
    unfold Pipeline.work
    rw [hw]
    rfl
  cases h with
  | @between done os worker handled order workers free outside =>
    have hstill : p.InTurn m handed := .between handled order workers free outside
    cases index with
    | succ i =>
      rw [hother workers]
      exact hstill
    | zero =>
      have hnone : p.pool.workers[0]? = some worker := by rw [workers]; rfl
      cases worker with
      | busy e rest => cases free
      | idle =>
        rw [show p.work 0 = p.takeEnvelope 0 by unfold Pipeline.work; rw [hnone]]
        exact looked hx handled order workers outside (looked_takeEnvelope hc 0)
      | stopped =>
        rw [show p.work 0 = p by unfold Pipeline.work; rw [hnone]]
        exact hstill
  | @inHand done os base e rest σ handled order workers fits meets =>
    have hstill : p.InTurn m handed := .inHand handled order workers fits meets
    cases index with
    | succ i =>
      rw [hother workers]
      exact hstill
    | zero =>
      cases rest with
      | call k next => exact called hf handled order workers fits meets
      | done result =>
        have hnone : p.pool.workers[0]? = some (.busy e (.done result)) := by rw [workers]; rfl
        rw [show p.work 0 = p.finishEnvelope 0 e result by unfold Pipeline.work; rw [hnone]]
        exact finished handled order workers fits meets

/-- While nothing is in hand or on the queue, all that was put there has been handled. -/
theorem handles (h : p.InTurn m handed) (hq : p.world.queue.items = [])
    (hw : ∀ i : Nat, p.pool.workers[i]?.bind Worker.inHand? = none) :
    ∃ os, Handles handed os m p.world.models.committed := by
  cases h with
  | between handled order workers free outside =>
    rw [hq, List.append_nil] at order
    exact ⟨_, order ▸ handled⟩
  | inHand handled order workers fits meets =>
    have hn := hw 0
    rw [workers] at hn
    cases hn

end Pipeline.InTurn

namespace Drill

/-- The client has not made a call yet, and the workers have nothing to do. -/
structure Ready (d : Drill) : Prop where
  feeder : d.feeder = (Replay.run none).run
  empty : d.pipeline.world.queue.items = []
  idle : ∀ worker ∈ d.pipeline.pool.workers, worker = Worker.idle

theorem ready_start (w : World) (r : Registry) (settings : PipelineSettings) :
    (start w r settings).Ready ∧ (start w r settings).pipeline.world.models = w.models := by
  obtain ⟨woken, hp⟩ := spawn_eq
    (Pipeline.rewire ⟨w, .new ⟨r, settings.retry⟩ settings⟩ settings)
  unfold start
  rw [hp]
  refine ⟨⟨rfl, rfl, fun worker hm => ?_⟩, rfl⟩
  obtain ⟨_, _, rfl⟩ := List.mem_map.1 hm
  rfl

theorem length_start (w : World) (r : Registry) (settings : PipelineSettings) :
    (start w r settings).pipeline.pool.workers.length = max settings.workers 1 := by
  obtain ⟨woken, hp⟩ := spawn_eq
    (Pipeline.rewire ⟨w, .new ⟨r, settings.retry⟩ settings⟩ settings)
  unfold start
  rw [hp]
  exact (List.length_map _).trans List.length_range

/-- A single worker handles what a client puts on the queue. -/
structure InTurn (log : EventLog) (client : Nat) (m : ReadModels) (d : Drill) : Prop where
  sound : d.Sound log client
  feed : ∃ φ : Feed, d.feeder.Feeds log φ ∧ φ.Fits log client d.pipeline.world ∧
    d.pipeline.InTurn m φ.handed

variable {log : EventLog} {client : Nat} {m : ReadModels} {d : Drill}

namespace Sound

theorem lock_ne_held (h : d.Sound log client) {i : Nat}
    (hw : d.pipeline.pool.workers[i]?.bind Worker.inHand? = none) (copy : ReadModels) :
    d.pipeline.world.models.lock ≠ .held (.worker i) copy := by
  obtain ⟨c, hc, hs⟩ := h.crew
  rw [← hc.world]
  exact hs.idle (hc.errand_eq_none hw) copy

theorem inTurn (h : d.Sound log client) (hr : d.Ready)
    (hone : d.pipeline.pool.workers.length = 1) :
    d.InTurn log client d.pipeline.world.models.committed := by
  obtain ⟨worker, hw⟩ := List.length_eq_one_iff.1 hone
  obtain rfl : worker = .idle := hr.idle worker (by rw [hw]; exact List.mem_singleton.2 rfl)
  obtain ⟨φ, -, hφ, -⟩ := h.feed
  refine ⟨h, ⟨φ.rest, []⟩, hr.feeder ▸ Replay.feeds_run log φ.rest, hφ.fresh,
    .between .nil ?_ hw rfl (h.lock_ne_held (by rw [hw]; rfl))⟩
  rw [hr.empty]
  rfl

end Sound

namespace InTurn

theorem step (h : d.InTurn log client m) (hasc : log.Ascending) (turn : Turn) :
    (d.step client turn).InTurn log client m := by
  refine ⟨h.sound.step hasc turn, ?_⟩
  obtain ⟨φ, hfeeds, hφ, hin⟩ := h.feed
  cases turn with
  | feed =>
    obtain ⟨world, feeder, sent, φ', heq, hw, hfeeds', hφ', hsent⟩ :=
      exists_fed hfeeds hφ fun hn => (h.sound.open_of_call hn).1
    rw [show d.step client .feed = _ from heq]
    exact ⟨φ', hfeeds', hφ', hsent ▸ hin.fed hw.models hw.items rfl⟩
  | work index =>
    obtain ⟨c, -, hm⟩ := h.sound.mirrored index
    exact ⟨φ, hfeeds, hφ.worked hm.worked,
      hin.work h.sound.registry h.sound.cancelled hφ.faults index⟩
  | close =>
    rcases step_close client d with heq | ⟨-, woken, heq⟩
    · rw [heq]
      exact ⟨φ, hfeeds, hφ, hin⟩
    · rw [heq]
      exact ⟨φ, hfeeds, ⟨hφ.events, hφ.faults, hφ.stream, hφ.timer⟩, hin.same rfl rfl rfl⟩
  | supervise =>
    unfold Drill.step
    dsimp only
    rcases h.sound.supervised with heq | ⟨heq, hi⟩
    · rw [heq]
      exact ⟨φ, hfeeds, hφ, hin⟩
    · rw [heq]
      have hempty := (h.sound.stopped (Pool.stopped_of_isIdle hi h.sound.staffed)).1
      exact ⟨φ, hfeeds, hφ.supervised, hin.same rfl hempty.symm rfl⟩
  | elapse time =>
    obtain ⟨woken, heq⟩ := step_elapse client d time
    rw [heq]
    exact ⟨φ, hfeeds, ⟨hφ.events, hφ.faults, hφ.stream, hφ.timer⟩, hin.same rfl rfl rfl⟩
  | rouse woken =>
    exact ⟨φ, hfeeds, ⟨hφ.events, hφ.faults, hφ.stream, hφ.timer⟩, hin.same rfl rfl rfl⟩

theorem play (h : d.InTurn log client m) (hasc : log.Ascending) (turns : List Turn) :
    (d.play client turns).InTurn log client m :=
  List.foldlRecOn turns (Drill.step client) h fun _ hd turn _ => hd.step hasc turn

end InTurn

/-- Once it is drained, a replay to a single worker has handled the log, envelope by envelope. -/
theorem Sound.handles (h : d.Sound log client) (hasc : log.Ascending) (hr : d.Ready)
    (hone : d.pipeline.pool.workers.length = 1) {turns : List Turn}
    (hd : (d.play client turns).Drained) :
    ∃ os, Handles log.envelopes os d.pipeline.world.models.committed
      (d.play client turns).pipeline.world.models.committed := by
  obtain ⟨φ, hfeeds, -, hin⟩ := ((h.inTurn hr hone).play hasc turns).feed
  rw [← hfeeds.complete hd.fed]
  exact hin.handles hd.empty hd.idle

/-- Replaying a log to a single worker makes of empty read models what dispatching it in order
does. -/
theorem reference_of_drained {r : Registry} (hr : Registry.standard = .ok r)
    {reports : List NewEnvelope} {w : World} {client : Nat} (hlog : w.events = .ofReports reports)
    (hf : w.faults = .none) (ht : w.timerOf? (.client client) = none) {settings : PipelineSettings}
    (hone : settings.workers ≤ 1) (turns : List Turn) :
    let d := (start { w with models := .empty } r settings).play client turns
    d.Drained → ReferenceModels (EventLog.ofReports reports).envelopes
      d.pipeline.world.models.committed := by
  intro d hd
  have hasc := EventLog.ascending_ofReports reports
  obtain ⟨hready, hm⟩ := ready_start { w with models := .empty } r settings
  have hsound : (start { w with models := .empty } r settings).Sound (.ofReports reports) client :=
    sound_start_play hr settings.retry w [] (fun hm => absurd hm List.not_mem_nil) hlog hf ht
      settings
  obtain ⟨os, hh⟩ := hsound.handles hasc hready
    ((length_start ..).trans (Nat.max_eq_right hone)) hd
  rw [hm] at hh
  exact (Reflects.of_handles hasc.ids hh).2.reference

end Drill

end AgentFacts
