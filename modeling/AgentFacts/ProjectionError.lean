import AgentFacts.Database.Error
import AgentFacts.Identifier
import AgentFacts.ValidationError

namespace AgentFacts

inductive ProjectionError where
  | unknownEventType (eventType : EventType)
  | duplicateProjector (eventType : EventType) (existing : String)
  | deserialization (error : DecodeError)
  | validation (error : ValidationError)
  | database (error : DatabaseError)
  | unavailable (message : String)
  | transactionClosed
  | panicked
  | projection (message : String)
deriving DecidableEq

namespace ProjectionError

def kind : ProjectionError → String
  | .unknownEventType _ => "UnknownEventType"
  | .duplicateProjector _ _ => "DuplicateProjector"
  | .deserialization _ => "Deserialization"
  | .validation _ => "Validation"
  | .database _ => "Database"
  | .unavailable _ => "Unavailable"
  | .transactionClosed => "TransactionClosed"
  | .panicked => "Panicked"
  | .projection _ => "Projection"

def message : ProjectionError → String
  | .unknownEventType eventType => "Unknown event type: " ++ eventType.text
  | .duplicateProjector eventType existing =>
    "Event type " ++ eventType.text ++ " is already handled by projector " ++ existing
  | .deserialization error => "Payload deserialization error: " ++ error.message
  | .validation error => "Validation error: " ++ error.message
  | .database error => "Database error: " ++ error.message
  | .unavailable message => "Storage unavailable: " ++ message
  | .transactionClosed => "Transaction already closed"
  | .panicked => "projector panicked"
  | .projection message => "Projection error: " ++ message

/-- Whether the same projection may succeed at another time. -/
def isTransient : ProjectionError → Bool
  | .unavailable _ => true
  | .database error => error.isTransient
  | _ => false

instance : Reported ProjectionError := ⟨kind, message⟩

end ProjectionError

end AgentFacts
