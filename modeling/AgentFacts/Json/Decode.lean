import AgentFacts.Json.Basic
import AgentFacts.Reported
import AgentFacts.Text.Quoted
import AgentFacts.Time.Rfc3339

namespace AgentFacts

inductive Json.Found where
  | bool (value : Bool)
  | whole (value : Int)
  | double (value : Binary64)
  | text (value : String)
  | null
  | sequence
  | map
deriving DecidableEq

namespace Json

def found : Json → Found
  | .null => .null
  | .bool b => .bool b
  | .number (.whole i) => .whole i
  | .number (.double x) => .double x
  | .text s => .text s
  | .list _ => .sequence
  | .object _ => .map

def Found.describe : Found → String
  | .bool true => "boolean `true`"
  | .bool false => "boolean `false`"
  | .whole i => "integer `" ++ toString i ++ "`"
  | .double x => "floating point `" ++ x.text ++ "`"
  | .text s => "string " ++ Text.quote s
  | .null => "null"
  | .sequence => "sequence"
  | .map => "map"

end Json

/-- Why a JSON value does not decode. -/
inductive DecodeError where
  | wrongType (found : Json.Found) (expected : String)
  | wrongValue (found : Json.Found) (expected : String)
  | wrongLength (length : Nat) (expected : String)
  | missingField (name : String)
  | duplicateField (name : String)
  | unknownVariant (name : String) (known : List String)
  | badInstant (fault : Rfc3339.Fault)
deriving DecidableEq

namespace DecodeError

/-- `a`, `a or b`, `one of a, b, c`, each name between backquotes. -/
def choice : List String → String
  | [a] => "`" ++ a ++ "`"
  | [a, b] => "`" ++ a ++ "` or `" ++ b ++ "`"
  | names => "one of " ++ ", ".intercalate (names.map fun name => "`" ++ name ++ "`")

def message : DecodeError → String
  | .wrongType found expected => "invalid type: " ++ found.describe ++ ", expected " ++ expected
  | .wrongValue found expected => "invalid value: " ++ found.describe ++ ", expected " ++ expected
  | .wrongLength length expected =>
    "invalid length " ++ toString length ++ ", expected " ++ expected
  | .missingField name => "missing field `" ++ name ++ "`"
  | .duplicateField name => "duplicate field `" ++ name ++ "`"
  | .unknownVariant name known =>
    "unknown variant `" ++ name ++ "`, expected " ++ choice known
  | .badInstant fault => fault.message

instance : Reported DecodeError := ⟨fun _ => "Json", message⟩

end DecodeError

abbrev Decoded (α : Type) := Except DecodeError α

/-- How values of a type are read from JSON and written as JSON. A record is an object, read by the
names of its fields with unknown names ignored, or a list of its fields in order of declaration. -/
class JsonFormat (α : Type) where
  decode : Json → Decoded α
  encode : α → Json

namespace Decode

def wrongType (json : Json) (expected : String) : Decoded α :=
  .error (.wrongType json.found expected)

def text : Json → Decoded String
  | .text s => .ok s
  | json => wrongType json "a string"

/-- A whole number within limits; `name` is the type that has them. -/
def whole (name : String) (low high : Int) : Json → Decoded Int
  | .number (.whole i) =>
    if low ≤ i ∧ i ≤ high then .ok i else .error (.wrongValue (.whole i) name)
  | json => wrongType json name

def int64 (json : Json) : Decoded Int :=
  whole "i64" (-Int.pow 2 63) (Int.pow 2 63 - 1) json

def uint8 (json : Json) : Decoded UInt8 := do
  return (← whole "u8" 0 (Int.pow 2 8 - 1) json).toNat.toUInt8

def uint32 (json : Json) : Decoded UInt32 := do
  return (← whole "u32" 0 (Int.pow 2 32 - 1) json).toNat.toUInt32

def uint64 (json : Json) : Decoded UInt64 := do
  return (← whole "u64" 0 (Int.pow 2 64 - 1) json).toNat.toUInt64

def instant : Json → Decoded Instant
  | .text s =>
    match Rfc3339.parse s with
    | .ok i => .ok i
    | .error fault => .error (.badInstant fault)
  | json => wrongType json "an RFC 3339 formatted date and time string"

def option (read : Json → Decoded α) : Json → Decoded (Option α)
  | .null => .ok none
  | json => some <$> read json

def list (read : Json → Decoded α) : Json → Decoded (List α)
  | .list items => items.mapM read
  | json => wrongType json "a sequence"

def unit : Json → Decoded Unit
  | .null => .ok ()
  | json => wrongType json "unit"

/-- The name of a choice among `known` ones: a text, or an object with the name alone and `null`. -/
def variant (known : List (String × α)) : Json → Decoded α
  | .text s => named s
  | .object [(name, value)] => do
    let a ← named name
    unit value
    return a
  | .object _ => .error (.wrongValue .map "map with a single key")
  | json => wrongType json "string or map"
where
  named (s : String) : Decoded α :=
    match known.lookup s with
    | some a => .ok a
    | none => .error (.unknownVariant s (known.map (·.1)))

end Decode

/-- The name of a record and of its fields, in order of declaration. -/
structure RecordForm where
  name : String
  fields : List String

inductive RecordSource where
  | members (all : List (String × Json))
  | items (all : List Json)

/-- What reading some fields has come to. A failure knows its rank: the failure of least rank is the
one that is told. -/
inductive Reading (α : Type) where
  | done (value : α)
  | failed (rank : Nat) (error : DecodeError)

namespace Reading

def seq (f : Reading (α → β)) (x : Reading α) : Reading β :=
  match f, x with
  | .done f, .done a => .done (f a)
  | .done _, .failed rank error => .failed rank error
  | .failed rank error, .done _ => .failed rank error
  | .failed rank error, .failed rank' error' =>
    if rank ≤ rank' then .failed rank error else .failed rank' error'

instance : Applicative Reading where
  pure := .done
  seq f x := f.seq (x ())

def ofDecoded (rank : Nat) : Decoded α → Reading α
  | .ok a => .done a
  | .error error => .failed rank error

def toDecoded : Reading α → Decoded α
  | .done a => .ok a
  | .failed _ error => .error error

end Reading

/-- What stands for a field that is not given: nothing does, or else a value in an object, where a
list must go on to the field. -/
inductive WhenAbsent (α : Type) where
  | refuse
  | inObjects (value : α)
  | always (value : α)

namespace RecordForm

def expected (form : RecordForm) : String :=
  "struct " ++ form.name

def expectedElements (form : RecordForm) : String :=
  form.expected ++ " with " ++ toString form.fields.length ++
    (if form.fields.length = 1 then " element" else " elements")

/-- Reads one field. In an object the given fields fail in order of their names, and absent ones
after them in order of declaration. -/
def field (form : RecordForm) (source : RecordSource) (name : String)
    (absent : WhenAbsent α) (read : Json → Decoded α) : Reading α :=
  let place := form.fields.idxOf name
  match source with
  | .members all =>
    match Json.find? name all with
    | some value => .ofDecoded (all.findIdx fun (other, _) => other == name) (read value)
    | none =>
      match absent with
      | .refuse => .failed (all.length + place) (.missingField name)
      | .inObjects value => .done value
      | .always value => .done value
  | .items all =>
    match all[place]? with
    | some value => .ofDecoded place (read value)
    | none =>
      match absent with
      | .refuse => .failed place (.wrongLength place form.expectedElements)
      | .inObjects _ => .failed place (.wrongLength place form.expectedElements)
      | .always value => .done value

def decode (form : RecordForm) (read : RecordSource → Reading α) : Json → Decoded α
  | .object members => (read (.members members)).toDecoded
  | .list items => do
    let value ← (read (.items items)).toDecoded
    if form.fields.length < items.length then
      .error (.wrongLength items.length "fewer elements in array")
    return value
  | json => Decode.wrongType json form.expected

end RecordForm

end AgentFacts
