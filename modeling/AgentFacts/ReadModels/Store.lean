import AgentFacts.ProjectionError
import AgentFacts.ReadModels.Basic
import AgentFacts.Task

namespace AgentFacts

inductive ModelLock where
  | free
  /-- Handed to an owner who waited for it and has not come back yet. -/
  | granted (owner : TaskId)
  /-- Held for a transaction, which works on a copy of the committed state. -/
  | held (owner : TaskId) (staged : ReadModels)
deriving DecidableEq, Inhabited

structure ModelStore where
  committed : ReadModels
  lock : ModelLock
  line : List TaskId
deriving DecidableEq, Inhabited

namespace ModelStore

def empty : ModelStore where
  committed := .empty
  lock := .free
  line := []

def admits (s : ModelStore) (owner : TaskId) : Bool :=
  match s.lock with
  | .free => true
  | .granted other => owner == other
  | .held _ _ => false

/-- Whether an owner has asked for the lock and not gone on yet. -/
def awaits (s : ModelStore) (owner : TaskId) : Bool :=
  s.line.contains owner || s.lock == .granted owner

/-- Puts an owner who has to wait at the end of the line, once. -/
def queueUp (s : ModelStore) (owner : TaskId) : ModelStore :=
  if s.line.contains owner then s else { s with line := s.line ++ [owner] }

/-- Hands the lock to the first in line. -/
def release (s : ModelStore) : ModelStore :=
  match s.line with
  | [] => { s with lock := .free }
  | next :: rest => { s with lock := .granted next, line := rest }

/-- The copy that an owner's open transaction works on. -/
def staged? (s : ModelStore) (owner : TaskId) : Option ReadModels :=
  match s.lock with
  | .held other staged => if owner == other then some staged else none
  | _ => none

def begin (s : ModelStore) (owner : TaskId) : ModelStore :=
  { s with lock := .held owner s.committed }

def inTransaction (s : ModelStore) (owner : TaskId) (run : ReadModels → α × ReadModels) :
    Except ProjectionError α × ModelStore :=
  match s.staged? owner with
  | none => (.error .transactionClosed, s)
  | some staged =>
    let (a, staged') := run staged
    (.ok a, { s with lock := .held owner staged' })

def find (s : ModelStore) (owner : TaskId) (source : AgentId) (eventType : EventType) :
    Except ProjectionError (Option Subscription) × ModelStore :=
  s.inTransaction owner fun m => (m.subscription? source eventType, m)

def write (s : ModelStore) (owner : TaskId) (w : Write) :
    Except ProjectionError Bool × ModelStore :=
  s.inTransaction owner fun m => (m.finds w, m.write w)

def recordIn (s : ModelStore) (owner : TaskId) (r : OutcomeRecord) :
    Except ProjectionError Subscription × ModelStore :=
  s.inTransaction owner fun m => (m.rowAfter r, m.record r)

/-- Makes the copy the committed state and ends the transaction. -/
def commit (s : ModelStore) (owner : TaskId) : Except ProjectionError Unit × ModelStore :=
  match s.staged? owner with
  | none => (.error .transactionClosed, s)
  | some staged => (.ok (), { s with committed := staged }.release)

/-- Ends the transaction and forgets the copy. -/
def rollback (s : ModelStore) (owner : TaskId) : Except ProjectionError Unit × ModelStore :=
  match s.staged? owner with
  | none => (.error .transactionClosed, s)
  | some _ => (.ok (), s.release)

/-- Lets go of a transaction, open or not. -/
def drop (s : ModelStore) (owner : TaskId) : ModelStore :=
  if (s.staged? owner).isSome then s.release else s

/-- Writes an outcome into the committed ledger, for an owner who is admitted. -/
def record (s : ModelStore) (r : OutcomeRecord) : Subscription × ModelStore :=
  (s.committed.rowAfter r, { s with committed := s.committed.record r }.release)

/-- Forgets an owner: what it waits for, has been handed or holds. -/
def forget (s : ModelStore) (owner : TaskId) : ModelStore :=
  let s := { s with line := s.line.filter (· != owner) }
  match s.lock with
  | .free => s
  | .granted other => if owner == other then s.release else s
  | .held other _ => if owner == other then s.release else s

end ModelStore

end AgentFacts
