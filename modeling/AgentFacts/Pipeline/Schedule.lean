import AgentFacts.Pipeline.Pool

namespace AgentFacts.Pipeline

def drain (p : Pipeline) : Nat → Pipeline
  | 0 => p
  | left + 1 => if p.world.woken.isEmpty then p else p.runNext.drain left

/-- The next time that a task waits for, up to a limit. -/
def nextDeadline? (w : World) (limit : Span) : Option Span :=
  let ahead := (w.timers.map (·.deadline)).filter fun d => decide (w.clock < d ∧ d ≤ limit)
  ahead.foldl (fun best d => some (best.elim d (·.shorter d))) none

/-- Moves the clock, which stands still while any task can go on, and wakes the tasks that wait for
that time. -/
def moveClock (w : World) (time : Span) : World :=
  let due := w.timers.filter fun timer => decide (timer.deadline = time)
  due.foldl (fun w timer => w.wake timer.task) { w with clock := time }

def isDone : Program α → Bool
  | .done _ => true
  | .call _ _ => false

/-- Lets clients go on in order, from one number on. -/
def runClients (w : World) (index : Nat) : List (Program α) → World × List (Program α)
  | [] => (w, [])
  | client :: rest =>
    let (w, client') := w.run (.client index) client
    let (w, rest') := runClients w (index + 1) rest
    (w, client' :: rest')

/-- Runs clients together with the pool until `finished`, or until the clock reaches the limit. The
clients go first, whenever the pool cannot go on without them or the clock has moved. -/
def runUntil (finished : Pipeline → List (Program α) → Bool) (limit : Span) :
    Nat → Pipeline → List (Program α) → Pipeline × List (Program α)
  | 0, p, clients => (p, clients)
  | left + 1, p, clients =>
    let (world, clients) := runClients p.world 0 clients
    let p := { p with world }
    if finished p clients || decide (limit ≤ p.world.clock) then (p, clients)
    else if !p.world.woken.isEmpty then
      runUntil finished limit left (p.drain left) clients
    else
      let time := (nextDeadline? p.world limit).getD limit
      runUntil finished limit left { p with world := moveClock p.world time } clients

def maxTurns : Nat := 1000000

def patience : Span := .ofSeconds 600

def limitOf (p : Pipeline) : Span :=
  ⟨p.world.clock.nanos + patience.nanos⟩

def forgetUndone (w : World) (index : Nat) : List (Program α) → World
  | [] => w
  | .done _ :: rest => forgetUndone w (index + 1) rest
  | .call _ _ :: rest => forgetUndone (w.forget (.client index)) (index + 1) rest

def value? : Program α → Option α
  | .done a => some a
  | .call _ _ => none

/-- Runs clients side by side and gives what each comes to; one that still waits in the end comes to
nothing and is given up. -/
def performAll (p : Pipeline) (clients : List (Program α)) : List (Option α) × Pipeline :=
  let (p, clients) := runUntil (fun _ cs => cs.all isDone) p.limitOf maxTurns p clients
  (clients.map value?, { p with world := forgetUndone p.world 0 clients })

def perform (p : Pipeline) (client : Program α) : Option α × Pipeline :=
  match p.performAll [client] with
  | (value :: _, p) => (value, p)
  | ([], p) => (none, p)

/-- Waits for the pool to end, and tells whether it has. -/
def join (p : Pipeline) : Bool × Pipeline :=
  let ended (p : Pipeline) : Bool := p.pool.supervision == .ended
  let (p, _) := runUntil (fun p (_ : List (Program Unit)) => ended p) p.limitOf maxTurns p []
  (ended p, p)

def elapse (p : Pipeline) (span : Span) : Option Unit × Pipeline :=
  p.perform (.sleep span)

end AgentFacts.Pipeline
