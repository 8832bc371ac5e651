import AgentFacts.Database.EventLog
import AgentFacts.Database.ReadModels
import AgentFacts.Pipeline.World

namespace AgentFacts

/-- Programs are run over a database. There is one task, so nothing is ever locked; but an ingress
queue that nobody takes from may make it wait forever. -/
structure DatabaseService where
  session : Session
  stream : EnvelopeStream
  queue : Ingress
  start : Instant
  clock : Span
  journal : Journal

namespace DatabaseService

def new (start : Instant) (connections queueCapacity : Nat) : DatabaseService where
  session := .new connections
  stream := .empty
  queue := .new queueCapacity
  start
  clock := .zero
  journal := .empty

def withJournal (d : DatabaseService) (change : Journal → Journal) : DatabaseService :=
  { d with journal := change d.journal }

def timeOfDay (d : DatabaseService) : Instant :=
  let nanos := d.start.nano + d.clock.nanos
  ⟨d.start.second + (nanos / 1000000000 : Nat), nanos % 1000000000⟩

def step (d : DatabaseService) (step : Session.Step ε α) :
    Except (Halt ε) α × DatabaseService :=
  let (result, session) := step.run d.session
  (result.mapError .error, { d with session })

def persist (d : DatabaseService) (e : NewEnvelope) :
    Except (Halt EventLogError) EnvelopeId × DatabaseService :=
  let (result, d) := d.step (Session.persist e)
  (result, if result.isOk then d.withJournal (·.count .persisted) else d)

/-- A bound for the items of a stream: every reply that is left may be a page. -/
def itemBound (s : Session) : Nat :=
  s.replies.foldl (fun bound reply =>
    match reply with
    | .done rows _ => bound + rows.length
    | .refused _ => bound + 1) 2

def nextItem (d : DatabaseService) :
    Option (Except (Halt EventLogError) Envelope) × DatabaseService :=
  match (Session.nextItem d.stream).run d.session with
  | (none, session) => (none, { d with session, stream := .empty })
  | (some (item, stream), session) =>
    (some (item.mapError fun error => .error (.database error)), { d with session, stream })

def task : TaskId := .client 0

/-- Puts an envelope on the queue; without room a limit passes in vain, or nothing ever happens. -/
def send (d : DatabaseService) (e : Envelope) (limit : Option Span) :
    Option (SendResult × DatabaseService) :=
  match d.queue.offer task e with
  | .closed => some (.closed, d)
  | .accepted queue => some (.accepted, { d with queue })
  | .mustWait _ =>
    limit.map fun span => (.timedOut, { d with clock := ⟨d.clock.nanos + span.nanos⟩ })

/-- Answers one call, unless the task waits forever. -/
def answer (d : DatabaseService) : (c : Call) → Option (c.Reply × DatabaseService)
  | .begin => some (d.step Session.begin)
  | .find source eventType => some (d.step (Session.find ⟨source, eventType⟩))
  | .write w => some (d.step (Session.write w))
  | .recordIn r => some (d.step (Session.recordIn r))
  | .commit => some (d.step Session.commit)
  | .rollback => some (d.step Session.rollback)
  | .drop =>
    let (_, session) := Session.drop.run d.session
    some ((), { d with session })
  | .record r => some (d.step (Session.record r))
  | .read question =>
    let (result, session) := (Session.read question).run d.session
    some (result, { d with session })
  | .readLog question =>
    let (result, session) :=
      (Session.withError EventLogError.database (Session.readLog question)).run d.session
    some (result, { d with session })
  | .persist e => some (d.persist e)
  | .openStream after =>
    some (.ok (itemBound d.session), { d with stream := .start after })
  | .nextItem => some d.nextItem
  | .send e limit => d.send e limit
  | .sleep span => some ((), { d with clock := ⟨d.clock.nanos + span.nanos⟩ })
  | .now => some (d.timeOfDay, d)
  | .count counter => some ((), d.withJournal (·.count counter))
  | .log event => some ((), d.withJournal (·.log event))
  | .attend script id => some ((), d.withJournal (·.attend script id))
  | .visit step =>
    let (before, journal) := d.journal.visit step
    some (before, { d with journal })

/-- Runs a program until it is done or waits forever. -/
def run (d : DatabaseService) : Program α → Option α × DatabaseService
  | .done value => (some value, d)
  | .call c next =>
    match d.answer c with
    | some (reply, d') => run d' (next reply)
    | none => (none, d)

end DatabaseService

end AgentFacts
