import AgentFacts.EventLog.Basic
import AgentFacts.Pipeline.Faults
import AgentFacts.Pipeline.Ingress
import AgentFacts.ReadModels.Store

namespace AgentFacts

structure Timer where
  task : TaskId
  deadline : Span
deriving DecidableEq

/-- What tasks share when the stores are in memory. The clock moves only when told to; of those who
wait or have been woken, the next one comes first. -/
structure World where
  start : Instant
  clock : Span
  readings : Nat
  events : EventLog
  models : ModelStore
  queue : Ingress
  streams : List (TaskId × List Envelope)
  timers : List Timer
  woken : List TaskId
  idle : List Nat
  faults : FaultPlan
  journal : Journal

/-- What a call comes to: a reply, or the task has to wait. -/
inductive Reaction (α : Type) where
  | reply (value : α) (world : World)
  | wait (world : World)

namespace World

def new (start : Instant) (queueCapacity : Nat) (faults : FaultPlan) : World where
  start
  clock := .zero
  readings := 0
  events := .empty
  models := .empty
  queue := .new queueCapacity
  streams := []
  timers := []
  woken := []
  idle := []
  faults
  journal := .empty

/-- Wakes a task, unless it is awake. A client is always asked again and needs no waking. -/
def wake (w : World) (task : TaskId) : World :=
  match task with
  | .client _ => w
  | task => if w.woken.contains task then w else { w with woken := w.woken ++ [task] }

def wakeIdle (w : World) : World :=
  match w.idle with
  | [] => w
  | first :: _ => w.wake (.worker first)

/-- Takes over a new state of the read models and wakes the task to whom it hands the lock. -/
def withModels (w : World) (models : ModelStore) : World :=
  let handed := models.lock
  let w' := { w with models }
  match handed with
  | .granted task => if w.models.lock = handed then w' else w'.wake task
  | _ => w'

def withJournal (w : World) (change : Journal → Journal) : World :=
  { w with journal := change w.journal }

/-- The time of day, later at each reading. -/
def timeOfDay (w : World) : Instant :=
  let nanos := w.start.nano + w.clock.nanos + w.readings
  ⟨w.start.second + (nanos / 1000000000 : Nat), nanos % 1000000000⟩

def timerOf? (w : World) (task : TaskId) : Option Span :=
  (w.timers.find? (·.task == task)).map (·.deadline)

def setTimer (w : World) (task : TaskId) (deadline : Span) : World :=
  { w with timers := w.timers ++ [⟨task, deadline⟩] }

def clearTimer (w : World) (task : TaskId) : World :=
  { w with timers := w.timers.filter (·.task != task) }

def inTransaction (w : World) (site : ModelSite)
    (run : ModelStore → Except ProjectionError α × ModelStore) :
    Reaction (Except (Halt ProjectionError) α) :=
  match w.faults.nextModel site with
  | (some halt, faults) => .reply (.error halt) { w with faults }
  | (none, faults) =>
    let (result, models) := run w.models
    .reply (result.mapError .error) ({ w with faults }.withModels models)

/-- A call that needs the lock. A fault strikes when it is first made, not while it waits. -/
def withLock (w : World) (task : TaskId) (site : ModelSite) (run : ModelStore → α × ModelStore) :
    Reaction (Except (Halt ProjectionError) α) :=
  let (fault, faults) := if w.models.awaits task then (none, w.faults) else w.faults.nextModel site
  let w := { w with faults }
  match fault with
  | some halt => .reply (.error halt) w
  | none =>
    if w.models.admits task then
      let (value, models) := run w.models
      .reply (.ok value) (w.withModels models)
    else .wait { w with models := w.models.queueUp task }

/-- Reading waits for the lock as well. -/
def read (w : World) (task : TaskId) (question : ModelRead) :
    Reaction (Except ProjectionError question.Answer) :=
  if w.models.admits task then
    .reply (.ok (w.models.committed.answer question)) (w.withModels w.models.release)
  else .wait { w with models := w.models.queueUp task }

def persist (w : World) (e : NewEnvelope) :
    Reaction (Except (Halt EventLogError) EnvelopeId) :=
  match w.faults.nextLog .persist with
  | (some halt, faults) => .reply (.error halt) { w with faults }
  | (none, faults) =>
    match w.events.persist e with
    | (.error error, _) => .reply (.error (.error error)) { w with faults }
    | (.ok id, events) =>
      .reply (.ok id) ({ w with faults, events }.withJournal (·.count .persisted))

def openStream (w : World) (task : TaskId) (after : Option EnvelopeId) :
    Reaction (Except (Halt EventLogError) Nat) :=
  match w.faults.nextLog .openStream with
  | (some halt, faults) => .reply (.error halt) { w with faults }
  | (none, faults) =>
    let items := w.events.after after
    let streams := (task, items) :: w.streams.filter (·.1 != task)
    .reply (.ok (items.length + 1)) { w with faults, streams }

def nextItem (w : World) (task : TaskId) :
    Reaction (Option (Except (Halt EventLogError) Envelope)) :=
  match (w.streams.lookup task).getD [] with
  | [] =>
    let (fault, faults) := w.faults.nextLog .streamEnd
    .reply (fault.map .error) { w with faults }
  | e :: rest =>
    let streams := (task, rest) :: w.streams.filter (·.1 != task)
    match w.faults.nextLog .nextItem with
    | (some halt, faults) => .reply (some (.error halt)) { w with faults, streams }
    | (none, faults) => .reply (some (.ok e)) { w with faults, streams }

/-- Sets the timer of a call that waits up to a limit, when it is first made. -/
def limitTimer (w : World) (task : TaskId) (limit : Option Span) : World :=
  match limit with
  | none => w
  | some span =>
    if (w.timerOf? task).isSome then w else w.setTimer task ⟨w.clock.nanos + span.nanos⟩

def isExpired (w : World) (task : TaskId) : Bool :=
  (w.timerOf? task).any fun deadline => decide (deadline ≤ w.clock)

def send (w : World) (task : TaskId) (e : Envelope) (limit : Option Span) :
    Reaction SendResult :=
  match w.queue.offer task e with
  | .closed => .reply .closed ({ w with queue := w.queue.forget task }.clearTimer task)
  | .accepted queue => .reply .accepted ({ w with queue }.clearTimer task).wakeIdle
  | .mustWait queue =>
    let w := { w with queue }.limitTimer task limit
    if w.isExpired task then
      .reply .timedOut ({ w with queue := w.queue.forget task }.clearTimer task)
    else .wait w

def sleep (w : World) (task : TaskId) (span : Span) : Reaction Unit :=
  let w := w.limitTimer task (some span)
  if w.isExpired task then .reply () (w.clearTimer task) else .wait w

/-- Answers one call of a task in one step, or else lets it wait and ask again after it has been
woken. -/
def answer (w : World) (task : TaskId) : (c : Call) → Reaction c.Reply
  | .begin => w.withLock task .begin fun models => ((), models.begin task)
  | .find source eventType => w.inTransaction .find (·.find task source eventType)
  | .write write => w.inTransaction .write (·.write task write)
  | .recordIn record => w.inTransaction .recordIn (·.recordIn task record)
  | .commit => w.inTransaction .commit (·.commit task)
  | .rollback => w.inTransaction .rollback (·.rollback task)
  | .drop => .reply () (w.withModels (w.models.drop task))
  | .record record => w.withLock task .record (·.record record)
  | .read question => w.read task question
  | .readLog question => .reply (.ok (w.events.answer question)) w
  | .persist e => w.persist e
  | .openStream after => w.openStream task after
  | .nextItem => w.nextItem task
  | .send e limit => w.send task e limit
  | .sleep span => w.sleep task span
  | .now => .reply w.timeOfDay { w with readings := w.readings + 1 }
  | .count counter => .reply () (w.withJournal (·.count counter))
  | .log event => .reply () (w.withJournal (·.log event))
  | .attend script id => .reply () (w.withJournal (·.attend script id))
  | .visit step =>
    let (before, journal) := w.journal.visit step
    .reply before { w with journal }

def run (w : World) (task : TaskId) : Program α → World × Program α
  | .done value => (w, .done value)
  | .call c next =>
    match w.answer task c with
    | .reply value w' => run w' task (next value)
    | .wait w' => (w', .call c next)

/-- A task is no more: it lets go of all it holds and waits for. -/
def forget (w : World) (task : TaskId) : World :=
  let w := w.withModels (w.models.forget task)
  let w := w.clearTimer task
  { w with
    queue := w.queue.forget task
    streams := w.streams.filter (·.1 != task)
    woken := w.woken.filter (· != task) }

end World

end AgentFacts
