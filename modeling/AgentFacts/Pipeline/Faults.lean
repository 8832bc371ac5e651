import AgentFacts.Program

namespace AgentFacts

/-- The calls to the read models that may be replaced. -/
inductive ModelSite where
  | begin
  | find
  | write
  | recordIn
  | commit
  | rollback
  | record
deriving DecidableEq

namespace ModelSite

def all : List ModelSite :=
  [.begin, .find, .write, .recordIn, .commit, .rollback, .record]

def name : ModelSite → String
  | .begin => "begin"
  | .find => "for_update"
  | .write => "write"
  | .recordIn => "txn_record"
  | .commit => "commit"
  | .rollback => "rollback"
  | .record => "ledger"

end ModelSite

/-- The calls to the event log that may be replaced; at `streamEnd` nothing is left of the
stream. -/
inductive LogSite where
  | persist
  | openStream
  | nextItem
  | streamEnd
deriving DecidableEq

namespace LogSite

def all : List LogSite :=
  [.persist, .openStream, .nextItem, .streamEnd]

def name : LogSite → String
  | .persist => "persist"
  | .openStream => "stream"
  | .nextItem => "stream_item"
  | .streamEnd => "stream_end"

end LogSite

/-- For each kind of call a queue of what happens to the next ones: nothing, an error or a panic. -/
structure FaultPlan where
  models : ModelSite → List (Option (Halt ProjectionError))
  log : LogSite → List (Option (Halt EventLogError))

namespace FaultPlan

def none : FaultPlan := ⟨fun _ => [], fun _ => []⟩

def ofQueues (models : List (ModelSite × List (Option (Halt ProjectionError))))
    (log : List (LogSite × List (Option (Halt EventLogError)))) : FaultPlan where
  models site := (models.lookup site).getD []
  log site := (log.lookup site).getD []

def nextModel (plan : FaultPlan) (site : ModelSite) :
    Option (Halt ProjectionError) × FaultPlan :=
  match plan.models site with
  | [] => (.none, plan)
  | next :: rest =>
    (next, { plan with models := fun other => if other = site then rest else plan.models other })

def nextLog (plan : FaultPlan) (site : LogSite) : Option (Halt EventLogError) × FaultPlan :=
  match plan.log site with
  | [] => (.none, plan)
  | next :: rest =>
    (next, { plan with log := fun other => if other = site then rest else plan.log other })

end FaultPlan

end AgentFacts
