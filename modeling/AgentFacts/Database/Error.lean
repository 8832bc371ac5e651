import AgentFacts.Json.Reader

namespace AgentFacts

inductive ColumnName where
  | named (name : String)
  | position (index : Nat)
deriving DecidableEq

def ColumnName.text : ColumnName → String
  | .named name => Text.quote name
  | .position index => toString index

/-- Why the value of a column cannot be read. -/
inductive ColumnFault where
  | unexpectedNull
  | badJson (error : Json.ReadError)
  | otherType (wanted found : String)
deriving DecidableEq

def ColumnFault.message : ColumnFault → String
  | .unexpectedNull => "unexpected null; try decoding as an `Option`"
  | .badJson error => error.message
  | .otherType wanted found =>
    "mismatched types; SQL type `" ++ wanted ++ "` is not compatible with SQL type `" ++ found ++
      "`"

inductive DatabaseError where
  | io (message : String)
  | poolTimedOut
  | poolClosed
  | workerCrashed
  | rowNotFound
  | protocol (message : String)
  | server (code : Option String) (message : String)
  | noColumn (name : String)
  | noPosition (index count : Nat)
  | badColumn (column : ColumnName) (fault : ColumnFault)
deriving DecidableEq

namespace DatabaseError

def message : DatabaseError → String
  | .io message => "error communicating with database: " ++ message
  | .poolTimedOut => "pool timed out while waiting for an open connection"
  | .poolClosed => "attempted to acquire a connection on a closed pool"
  | .workerCrashed => "attempted to communicate with a crashed background worker"
  | .rowNotFound =>
    "no rows returned by a query that expected to return at least one row"
  | .protocol message => "encountered unexpected or invalid data: " ++ message
  | .server _ message => "error returned from database: " ++ message
  | .noColumn name => "no column found for name: " ++ name
  | .noPosition index count =>
    "column index out of bounds: the len is " ++ toString count ++ ", but the index is " ++
      toString index
  | .badColumn column fault =>
    "error occurred while decoding column " ++ column.text ++ ": " ++ fault.message

/-- The codes for a failed serialization and a detected deadlock. -/
def transientCodes : List String := ["40001", "40P01"]

/-- Whether the same statements may succeed at another time. -/
def isTransient : DatabaseError → Bool
  | .io _ => true
  | .poolTimedOut => true
  | .workerCrashed => true
  | .server (some code) _ => transientCodes.contains code
  | _ => false

end DatabaseError

end AgentFacts
