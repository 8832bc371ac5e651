import AgentFacts.Database.Error

namespace AgentFacts

/-- Why the tables of a database cannot be brought up to date. -/
inductive MigrationError where
  | missing (version : Int)
  | modified (version : Int)
  | dirty (version : Int)
  | whileExecuting (error : DatabaseError)
  | executing (version : Int) (error : DatabaseError)
deriving DecidableEq

def MigrationError.message : MigrationError → String
  | .missing version =>
    "migration " ++ toString version ++
      " was previously applied but is missing in the resolved migrations"
  | .modified version =>
    "migration " ++ toString version ++ " was previously applied but has been modified"
  | .dirty version =>
    "migration " ++ toString version ++
      " is partially applied; fix and remove row from `_sqlx_migrations` table"
  | .whileExecuting error => "while executing migrations: " ++ error.message
  | .executing version error =>
    "while executing migration " ++ toString version ++ ": " ++ error.message

inductive EventLogError where
  | invalidEnvelope (reason : String)
  | database (error : DatabaseError)
  | migration (error : MigrationError)
  | serialization (error : DecodeError)
deriving DecidableEq

namespace EventLogError

def kind : EventLogError → String
  | .invalidEnvelope _ => "InvalidEnvelope"
  | .database _ => "Database"
  | .migration _ => "Migration"
  | .serialization _ => "Serialization"

def message : EventLogError → String
  | .invalidEnvelope reason => "Invalid envelope: " ++ reason
  | .database error => "Database error: " ++ error.message
  | .migration error => "Migration error: " ++ error.message
  | .serialization error => "Serialization error: " ++ error.message

instance : Reported EventLogError := ⟨kind, message⟩

end EventLogError

end AgentFacts
