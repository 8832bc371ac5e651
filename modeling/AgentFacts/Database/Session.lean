import AgentFacts.Database.Row
import AgentFacts.Database.Statement

namespace AgentFacts

inductive Reply where
  | done (rows : List Row) (affected : Nat)
  | refused (error : DatabaseError)

/-- The errors with which statements that begin or end a transaction are refused; as long as there
are none, they succeed. -/
structure Refusals where
  begin : List DatabaseError
  commit : List DatabaseError
  rollback : List DatabaseError

def Refusals.none : Refusals where
  begin := []
  commit := []
  rollback := []

/-- A session with a database server. Each statement is answered by the reply that is next in line,
and without rows when there is none left; the latest statement sent comes first. -/
structure Session where
  isOpen : Bool
  connections : Nat
  inTransaction : Bool
  replies : List Reply
  refusals : Refusals
  sent : List Statement

namespace Session

/-- A step that talks to the server and may fail. -/
abbrev Step (ε α : Type) := ExceptT ε (StateM Session) α

def new (connections : Nat) : Session where
  isOpen := true
  connections
  inTransaction := false
  replies := []
  refusals := .none
  sent := []

def close (s : Session) : Session :=
  { s with isOpen := false }

def note (s : Session) (statement : Statement) : Session :=
  { s with sent := statement :: s.sent }

/-- Replaces the errors of a step by others. -/
def withError (wrap : ε → ε') (step : Step ε α) : Step ε' α :=
  .mk do return (← step.run).mapError wrap

def liftExcept (result : Except ε α) : Step ε α :=
  .mk (pure result)

def send (statement : Statement) : Step DatabaseError (List Row × Nat) :=
  .mk fun s =>
    match s.replies with
    | [] => (.ok ([], 0), s.note statement)
    | .done rows affected :: rest => (.ok (rows, affected), { s with replies := rest }.note statement)
    | .refused error :: rest => (.error error, { s with replies := rest }.note statement)

/-- The rows that a statement gives. -/
def rows (statement : Statement) : Step DatabaseError (List Row) :=
  (·.1) <$> send statement

def row (statement : Statement) : Step DatabaseError Row := do
  match ← rows statement with
  | [] => throw .rowNotFound
  | row :: _ => return row

def changes (statement : Statement) : Step DatabaseError Bool := do
  return 0 < (← send statement).2

def connect : Step DatabaseError Unit :=
  .mk fun s =>
    if !s.isOpen then (.error .poolClosed, s)
    else if s.inTransaction && s.connections ≤ 1 then (.error .poolTimedOut, s)
    else (.ok (), s)

/-- The next refusal among some, and those that are left. -/
def refusal : List DatabaseError → Except DatabaseError Unit × List DatabaseError
  | [] => (.ok (), [])
  | error :: rest => (.error error, rest)

def sendBegin : Step DatabaseError Unit :=
  .mk fun s =>
    let (result, rest) := refusal s.refusals.begin
    (result, { s with refusals := { s.refusals with begin := rest } }.note .begin)

def sendCommit : Step DatabaseError Unit :=
  .mk fun s =>
    let (result, rest) := refusal s.refusals.commit
    (result, { s with refusals := { s.refusals with commit := rest } }.note .commit)

def sendRollback : Step DatabaseError Unit :=
  .mk fun s =>
    let (result, rest) := refusal s.refusals.rollback
    (result, { s with refusals := { s.refusals with rollback := rest } }.note .rollback)

/-- Ends a transaction by a statement. If that is refused, the transaction is undone. -/
def endBy (statement : Step DatabaseError Unit) : Step DatabaseError Unit :=
  .mk do
    match ← statement.run with
    | .ok () => return .ok ()
    | .error error =>
      let _ ← sendRollback.run
      return .error error

/-- Runs a step in a transaction of its own; `wrap` gives the errors of its begin and end. -/
def inOwnTransaction (wrap : DatabaseError → ε) (step : Step ε Unit) : Step ε Unit := do
  withError wrap sendBegin
  .mk do
    match ← step.run with
    | .ok () => (withError wrap (endBy sendCommit)).run
    | .error error =>
      let _ ← sendRollback.run
      return .error error

end Session

end AgentFacts
