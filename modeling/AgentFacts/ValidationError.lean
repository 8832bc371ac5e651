import AgentFacts.Reported
import AgentFacts.Text.Blank
import AgentFacts.Text.Quoted

namespace AgentFacts

inductive ValidationError where
  | missingField (field : String)
  | invalidSid (sid : String)
  | invalidInstanceNumber (number : String)
  | noResults (group : String)
  | duplicate (kind key : String)
  | outOfRange (field value : String)
  | unknownVariant (kind value : String)
deriving DecidableEq, Repr

namespace ValidationError

def kind : ValidationError → String
  | .missingField _ => "MissingField"
  | .invalidSid _ => "InvalidSid"
  | .invalidInstanceNumber _ => "InvalidInstanceNumber"
  | .noResults _ => "EmptyChecksResult"
  | .duplicate _ _ => "DuplicateEntry"
  | .outOfRange _ _ => "OutOfRange"
  | .unknownVariant _ _ => "UnknownVariant"

def message : ValidationError → String
  | .missingField field => "Missing required field: " ++ field
  | .invalidSid sid => "Invalid SAP system id " ++ Text.quote sid
  | .invalidInstanceNumber number =>
    "Invalid instance number " ++ Text.quote number ++ " (must be two digits)"
  | .noResults group => "Checks result for group " ++ group ++ " contains no results"
  | .duplicate kind key => "Duplicate " ++ kind ++ " " ++ key ++ " in one report"
  | .outOfRange field value => field ++ " value " ++ value ++ " is out of range"
  | .unknownVariant kind value => "Unknown " ++ kind ++ ": " ++ value

instance : Reported ValidationError := ⟨kind, message⟩

end ValidationError

/-- Refuses a required text that is blank. -/
def require (field value : String) : Except ValidationError Unit :=
  if Text.allBlank value then .error (.missingField field) else .ok ()

end AgentFacts
