import AgentFacts.Dispatch
import AgentFacts.Pipeline.World
import AgentFacts.Settings

namespace AgentFacts

inductive Worker where
  | idle
  | busy (envelope : Envelope) (rest : Program (Except (Halt ProjectionError) DispatchOutcome))
  | stopped

def Worker.isStopped : Worker → Bool
  | .stopped => true
  | _ => false

/-- How far the supervisor is. It ends the pool when nobody can send any more and the queue is
empty, or when it is cancelled; then the envelopes in hand may be finished up to a deadline. -/
inductive Supervision where
  | ready
  | running
  | draining (deadline : Span)
  | ended
deriving DecidableEq

structure Pool where
  executor : Executor
  size : Nat
  grace : Span
  cancelled : Bool
  supervision : Supervision
  workers : List Worker

/-- The world and the pool that works in it. -/
structure Pipeline where
  world : World
  pool : Pool

namespace Pool

def new (executor : Executor) (settings : PipelineSettings) : Pool where
  executor
  size := max settings.workers 1
  grace := settings.shutdownGrace
  cancelled := false
  supervision := .ready
  workers := []

def isIdle (pool : Pool) : Bool :=
  pool.workers.all Worker.isStopped

def remaining (pool : Pool) : Nat :=
  (pool.workers.filter fun worker => !worker.isStopped).length

def setWorker (pool : Pool) (index : Nat) (worker : Worker) : Pool :=
  { pool with workers := pool.workers.set index worker }

end Pool

namespace Pipeline

def new (start : Instant) (registry : Registry) (settings : PipelineSettings)
    (faults : FaultPlan) : Pipeline where
  world := .new start settings.queueCapacity faults
  pool := .new ⟨registry, settings.retry⟩ settings

/-- The same stores with a new queue and a new pool. -/
def rewire (p : Pipeline) (settings : PipelineSettings) : Pipeline where
  world := { p.world with queue := .new settings.queueCapacity, idle := [], woken := [] }
  pool := .new p.pool.executor settings

/-- A worker stops. Who is next in line may go on, and the supervisor takes note. -/
def stopWorker (p : Pipeline) (index : Nat) : Pipeline :=
  let idle := p.world.idle.filter (· != index)
  let world := { p.world with idle }
  { world := world.wakeIdle.wake .supervisor, pool := p.pool.setWorker index .stopped }

/-- A worker without an envelope waits in line; the first in line takes one, if there is one. Once
the pool is cancelled nobody takes any. -/
def takeEnvelope (p : Pipeline) (index : Nat) : Pipeline :=
  if p.pool.cancelled then p.stopWorker index
  else
    let idle :=
      if p.world.idle.contains index then p.world.idle else p.world.idle ++ [index]
    let world := { p.world with idle }
    if idle.head? ≠ some index then { p with world }
    else
      match world.queue.take with
      | some (e, queue) =>
        let world := { world with queue, idle := idle.tail }
        { world := world.wakeIdle,
          pool := p.pool.setWorker index (.busy e (p.pool.executor.dispatch e).run) }
      | none => if world.queue.hasSenders then { p with world } else p.stopWorker index

def tellPanic (e : Envelope) (index : Nat) : LogEvent where
  level := .error
  message := "dispatch panicked"
  fields := [("envelope_id", .text (toString e.id)), ("worker", .nat index)]

def finishEnvelope (p : Pipeline) (index : Nat) (e : Envelope)
    (result : Except (Halt ProjectionError) DispatchOutcome) : Pipeline :=
  let world := match result with
    | .ok _ => p.world
    | .error _ => p.world.withJournal (·.log (tellPanic e index))
  { world, pool := p.pool.setWorker index .idle }

/-- Lets a worker go on until it has to wait; `left` bounds the envelopes it can take. -/
def runWorker (p : Pipeline) (index : Nat) : Nat → Pipeline
  | 0 => p
  | left + 1 =>
    match p.pool.workers[index]? with
    | none => p
    | some .stopped => p
    | some (.busy e rest) =>
      match p.world.run (.worker index) rest with
      | (world, .done result) => ({ p with world }.finishEnvelope index e result).runWorker index left
      | (world, rest') => { world, pool := p.pool.setWorker index (.busy e rest') }
    | some .idle =>
      let p' := p.takeEnvelope index
      match p'.pool.workers[index]? with
      | some (.busy _ _) => p'.runWorker index left
      | _ => p'

def finish (p : Pipeline) : Pipeline where
  world := { p.world.clearTimer .supervisor with queue := p.world.queue.close }
  pool := { p.pool with supervision := .ended }

def tellAbort (remaining : Nat) : LogEvent where
  level := .warn
  message := "shutdown grace elapsed, aborting workers"
  fields := [("remaining", .nat remaining)]

/-- Gives up the workers that have not stopped, with all they hold. -/
def abort (p : Pipeline) : Pipeline :=
  let world := p.world.withJournal (·.log (tellAbort p.pool.remaining))
  let world := (List.range p.pool.workers.length).foldl (fun w i => w.forget (.worker i)) world
  finish {
    world := { world with idle := [] }
    pool := { p.pool with workers := p.pool.workers.map fun _ => .stopped } }

/-- The supervisor waits for the workers to stop, up to the deadline. -/
def drainUntil (p : Pipeline) (deadline : Span) : Pipeline :=
  if p.pool.isIdle then p.finish
  else if deadline ≤ p.world.clock then p.abort
  else
    let world :=
      if (p.world.timerOf? .supervisor).isSome then p.world
      else p.world.setTimer .supervisor deadline
    { world, pool := { p.pool with supervision := .draining deadline } }

def runSupervisor (p : Pipeline) : Pipeline :=
  match p.pool.supervision with
  | .ready => p
  | .ended => p
  | .draining deadline => p.drainUntil deadline
  | .running =>
    if p.pool.isIdle then p.finish
    else if p.pool.cancelled then p.drainUntil ⟨p.world.clock.nanos + p.pool.grace.nanos⟩
    else p

/-- Starts the workers; they come to work after the supervisor. -/
def spawn (p : Pipeline) : Pipeline :=
  let indices := List.range p.pool.size
  let world := indices.foldl (fun (w : World) i => w.wake (.worker i)) (p.world.wake .supervisor)
  { world, pool := { p.pool with
      supervision := .running
      workers := indices.map fun _ => .idle } }

def cancel (p : Pipeline) : Pipeline :=
  let world := p.world.idle.foldl (fun (w : World) i => w.wake (.worker i))
    (p.world.wake .supervisor)
  { world, pool := { p.pool with cancelled := true } }

def closeSenders (p : Pipeline) : Pipeline :=
  { p with world := { p.world with queue := { p.world.queue with hasSenders := false } }.wakeIdle }

def dropPool (p : Pipeline) : Pipeline :=
  p.finish

def runNext (p : Pipeline) : Pipeline :=
  match p.world.woken with
  | [] => p
  | task :: rest =>
    let p := { p with world := { p.world with woken := rest } }
    match task with
    | .worker index => p.runWorker index (2 * p.world.queue.items.length + 3)
    | .supervisor => p.runSupervisor
    | .client _ => p

end Pipeline

end AgentFacts
