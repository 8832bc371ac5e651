import AgentFacts.Database.Error
import AgentFacts.Json.Printer
import AgentFacts.Json.Shape

namespace AgentFacts

/-- The value of a column with its type. A null has any type. -/
inductive Cell where
  | null
  | int8 (value : Int)
  | text (value : String)
  | varchar (value : String)
  | timestamptz (value : Instant)
  | jsonb (value : Json)
  | json (value : Json)
deriving Inhabited

structure Row where
  columns : List (String × Cell)
deriving Inhabited

namespace Cell

abbrev Reader (α : Type) := Cell → Except ColumnFault α

def typeName : Cell → String
  | .null => "NULL"
  | .int8 _ => "INT8"
  | .text _ => "TEXT"
  | .varchar _ => "VARCHAR"
  | .timestamptz _ => "TIMESTAMPTZ"
  | .jsonb _ => "JSONB"
  | .json _ => "JSON"

/-- Refuses a null, or else a type that is not wanted. -/
def refuse (wanted : String) : Cell → Except ColumnFault α
  | .null => .error .unexpectedNull
  | cell => .error (.otherType wanted cell.typeName)

def toInt : Reader Int
  | .int8 i => .ok i
  | cell => cell.refuse "INT8"

def toText : Reader String
  | .text s => .ok s
  | .varchar s => .ok s
  | cell => cell.refuse "TEXT"

def toInstant : Reader Instant
  | .timestamptz i => .ok i
  | cell => cell.refuse "TIMESTAMPTZ"

def toOption (read : Reader α) : Reader (Option α)
  | .null => .ok none
  | cell => some <$> read cell

/-- What the text of a JSON value reads as; one that is nested too deeply cannot be read. -/
def reread (j : Json) : Except ColumnFault Json :=
  (Json.parse j.print).mapError .badJson

def toJson : Reader Json
  | .jsonb j => reread j
  | .json j => reread j
  | cell => cell.refuse "JSONB"

/-- Decodes a JSON value. If it does not decode, reading its text with `read` tells where. -/
def decodeJson (decode : Json → Decoded α) (read : Json.Reader β) (j : Json) :
    Except ColumnFault α :=
  match decode j with
  | .ok a => .ok a
  | .error error =>
    match read.run j.print with
    | .ok _ => .error (.badJson ⟨.undecodable error, none, []⟩)
    | .error error => .error (.badJson error)

/-- Decodes a list whose items `item` reads. -/
def toList (decode : Json → Decoded α) (item : Nat → Json.Reader β) : Reader (List α)
  | .jsonb j => decodeJson (Decode.list decode) (Json.readList Json.depthLimit item) j
  | .json j => decodeJson (Decode.list decode) (Json.readList Json.depthLimit item) j
  | cell => cell.refuse "JSONB"

def toTexts : Reader (List String) :=
  toList Decode.text fun _ => Json.Reader.textFor "a string"

end Cell

namespace Row

/-- Reads a column by its name; of several columns with one name the last counts. -/
def get (row : Row) (name : String) (read : Cell.Reader α) : Except DatabaseError α :=
  match row.columns.reverse.lookup name with
  | none => .error (.noColumn name)
  | some cell => (read cell).mapError (.badColumn (.named name))

def scalar (row : Row) (read : Cell.Reader α) : Except DatabaseError α :=
  match row.columns with
  | [] => .error (.noPosition 0 0)
  | (_, cell) :: _ => (read cell).mapError (.badColumn (.position 0))

end Row

end AgentFacts
