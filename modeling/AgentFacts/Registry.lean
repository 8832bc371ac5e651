import AgentFacts.Projector

namespace AgentFacts

structure Registry where
  projectors : Table EventType Projector

inductive Registration where
  | ofType (eventType : EventType) (projector : Projector)
  | ofDeclared (projector : Projector)

namespace Registry

def empty : Registry := ⟨.empty⟩

def find? (r : Registry) (eventType : EventType) : Option Projector :=
  r.projectors.get? eventType

/-- Refuses a type that already has a projector. -/
def register (r : Registry) (eventType : EventType) (projector : Projector) :
    Except ProjectionError Registry :=
  match r.find? eventType with
  | some existing => .error (.duplicateProjector eventType existing.name)
  | none => .ok ⟨r.projectors.insert eventType projector⟩

def registerAll (r : Registry) (projector : Projector) (eventTypes : List EventType) :
    Except ProjectionError Registry :=
  eventTypes.foldlM (fun r eventType => r.register eventType projector) r

def extend (r : Registry) : Registration → Except ProjectionError Registry
  | .ofType eventType projector => r.register eventType projector
  | .ofDeclared projector => r.registerAll projector projector.eventTypes

/-- The registry after some steps; the first that fails is told. -/
def build (steps : List Registration) : Except ProjectionError Registry :=
  steps.foldlM extend empty

/-- Every projector of entities, for the types it declares. -/
def standard : Except ProjectionError Registry :=
  build (Projector.all.map .ofDeclared)

/-- The projector that handles a type. -/
def resolve (r : Registry) (eventType : EventType) : Except ProjectionError Projector :=
  match r.find? eventType with
  | some projector => .ok projector
  | none => .error (.unknownEventType eventType)

def contains (r : Registry) (eventType : EventType) : Bool :=
  (r.find? eventType).isSome

def eventTypes (r : Registry) : List EventType :=
  r.projectors.entries.map (·.1)

def size (r : Registry) : Nat :=
  r.projectors.entries.length

def text (r : Registry) : String :=
  let shown (t : EventType) : String := "EventType(" ++ Text.quote t.text ++ ")"
  "ProjectorRegistry \x7b event_types: [" ++ ", ".intercalate (r.eventTypes.map shown) ++ "] \x7d"

end Registry

end AgentFacts
