import AgentFacts.Pipeline.Schedule
import AgentFacts.Proofs.Staleness

namespace AgentFacts

/-- A worker's envelope and what is left to do for it, with the committed state when it was taken
and whether a call to the store has failed since. -/
structure Errand where
  envelope : Envelope
  rest : Program (Except (Halt ProjectionError) DispatchOutcome)
  base : ReadModels
  struck : Bool

/-- A change to the committed state: the projection of an envelope was committed, or a failure was
noted by a worker who had taken its envelope in state `base`. -/
inductive Deed where
  | commit (key : LedgerKey) (envelope : EnvelopeId)
  | note (record : OutcomeRecord) (base : ReadModels) (struck : Bool)
deriving DecidableEq

/-- Any number of workers who dispatch envelopes side by side over the stores in memory. Each move
lets one of them make one call, or changes something else in the world. -/
structure Crew where
  world : World
  errand : TaskId → Option Errand
  history : List Deed

inductive Move where
  | take (task : TaskId) (envelope : Envelope)
  | call (task : TaskId)
  | finish (task : TaskId)
  | abandon (task : TaskId)
  | read (task : TaskId) (question : ModelRead)
  | turn (world : World)

/-- What a call that has been answered has done. -/
def Deed.ofReply (errand : Errand) : (c : Call) → c.Reply → List Deed
  | .commit, .ok _ => [.commit errand.envelope.key errand.envelope.id]
  | .record r, .ok _ => [.note r errand.base errand.struck]
  | _, _ => []

def Call.hasFailed : (c : Call) → c.Reply → Bool
  | .begin, .error _ => true
  | .find _ _, .error _ => true
  | .write _, .error _ => true
  | .recordIn _, .error _ => true
  | .commit, .error _ => true
  | .rollback, .error _ => true
  | .record _, .error _ => true
  | _, _ => false

namespace Errand

def start (x : Executor) (base : ReadModels) (e : Envelope) : Errand where
  envelope := e
  rest := (x.dispatch e).run
  base
  struck := false

def next (errand : Errand) (c : Call) (reply : c.Reply)
    (rest : Program (Except (Halt ProjectionError) DispatchOutcome)) : Errand :=
  { errand with rest, struck := errand.struck || c.hasFailed reply }

end Errand

namespace Crew

/-- Nobody has taken an envelope, and nothing has been projected. -/
def fresh (w : World) : Crew where
  world := { w with models := .empty }
  errand _ := none
  history := []

def committed (c : Crew) : ReadModels := c.world.models.committed

def assign (c : Crew) (task : TaskId) (errand : Option Errand) : Crew :=
  { c with errand := fun other => if other = task then errand else c.errand other }

/-- The next call of a worker is made: it goes on with the reply, or has to ask again. -/
def call (c : Crew) (task : TaskId) (errand : Errand) : Crew :=
  match errand.rest with
  | .done _ => c
  | .call k next =>
    match c.world.answer task k with
    | .reply reply world =>
      { c.assign task (some (errand.next k reply (next reply))) with
        world
        history := c.history ++ Deed.ofReply errand k reply }
    | .wait world => { c with world }

def step (x : Executor) (c : Crew) : Move → Crew
  | .take task e =>
    match c.errand task with
    | none => c.assign task (some (.start x c.committed e))
    | some _ => c
  | .call task =>
    match c.errand task with
    | none => c
    | some errand => c.call task errand
  | .finish task =>
    match c.errand task with
    | none => c
    | some errand => if Pipeline.isDone errand.rest then c.assign task none else c
  | .abandon task => { c.assign task none with world := c.world.forget task }
  | .read task question =>
    match c.errand task with
    | none =>
      match c.world.read task question with
      | .reply _ world => { c with world }
      | .wait world => { c with world }
    | some _ => c
  | .turn world => { c with world := { world with models := c.world.models } }

def play (x : Executor) (c : Crew) (moves : List Move) : Crew :=
  moves.foldl (step x) c

end Crew

end AgentFacts
