import AgentFacts.Projector

namespace AgentFacts

/-- What a step of a script does. -/
inductive ScriptAction where
  | host (hostname : String)
  | sleep (span : Span)
  | panic
  | commit
  | rollback
  | delegate (projector : Projector)
  | fail (error : ProjectionError)

structure ScriptStep where
  action : ScriptAction
  times : Option Nat

namespace ScriptAction

def run (e : Envelope) : ScriptAction → Projection Unit
  | .host hostname =>
    let report : HostReport := ⟨hostname, [], "", "", 0, 0, 0⟩
    match Host.ofReport e.source report e.receivedAt with
    | .error error => .fail (.validation error)
    | .ok created => do
      let _ ← Projection.write (.upsertHost created)
  | .sleep span => Program.sleep span
  | .panic => throw .panic
  | .commit => .commit
  | .rollback => .rollback
  | .delegate projector => projector.project e
  | .fail error => .fail error

end ScriptAction

namespace ScriptStep

def run (e : Envelope) (number : Nat) (step : ScriptStep) : Projection Unit :=
  match step.times with
  | none => step.action.run e
  | some times => do
    let before : Nat ← Program.ask (.visit number)
    if before < times then step.action.run e

/-- Runs steps in order; the first failure ends them. -/
def runAll (e : Envelope) (number : Nat) : List ScriptStep → Projection Unit
  | [] => return
  | step :: rest => do
    step.run e number
    runAll e (number + 1) rest

end ScriptStep

/-- The projector that runs the same steps for each envelope; the steps are numbered from `number`
on. -/
def Projector.scripted (name : String) (eventTypes : List EventType) (number : Nat)
    (steps : List ScriptStep) : Projector where
  name
  eventTypes
  project e := do
    Program.ask (.attend name e.id)
    ScriptStep.runAll e number steps

end AgentFacts
