import AgentFacts.Json.Reader

namespace AgentFacts.Json

/-- What a value has to be. -/
inductive Shape where
  | any
  | text
  | variant (names : List String)
deriving DecidableEq

/-- What the fields of a record have to be, in order of declaration. -/
structure RecordShape where
  name : String
  fields : List (String × Shape)
  optional : List String
deriving DecidableEq

namespace Reader

def refuse (error : DecodeError) : Reader α :=
  throw ⟨.undecodable error, none, []⟩

/-- Refuses the value that begins here, after blanks. -/
def wrongType (expected : String) : Reader α := placed do
  match ← peekSolid? with
  | none => failNext .endInValue
  | some c =>
    match scalar? c with
    | some read => do
      let json ← read
      refuse (.wrongType json.found expected)
    | none =>
      if c = '[' then refuse (.wrongType .sequence expected)
      else if c = '\x7b' then refuse (.wrongType .map expected)
      else failNext .expectedValue

def textFor (expected : String) : Reader String := do
  match ← peekSolid? with
  | none => failNext .endInValue
  | some c => if c = '"' then quoted else wrongType expected

def oneOf (names : List String) : Reader String := placed do
  let name ← textFor "variant identifier"
  if names.contains name then return name else refuse (.unknownVariant name names)

def null : Reader Unit := do
  match ← peekSolid? with
  | none => failNext .endInValue
  | some c => if c = 'n' then word "ull" else wrongType "unit"

/-- A name among some, alone or as the only name in an object, where `null` belongs to it. -/
def variant (depth : Nat) (names : List String) : Reader String := do
  match ← peekSolid? with
  | none => failNext .endInValue
  | some c =>
    if c = '"' then oneOf names
    else if c = '\x7b' then
      if depth ≤ 1 then failNext .tooDeep
      advance
      let name ← oneOf names
      colon
      null
      match ← peekSolid? with
      | none => failHere .endInObject
      | some c => if c = '\x7d' then advance else failHere .expectedValue
      return name
    else failNext .expectedValue

def skipEscape : Reader Unit := do
  match ← next? with
  | none => failHere .endInText
  | some 'u' =>
    let _ ← hexUnit
  | some c => if (plainEscape? c).isNone then failHere .invalidEscape

def skipCharacters : Nat → Reader Unit
  | 0 => failHere .endInText
  | fuel + 1 => do
    match ← peek? with
    | none => failHere .endInText
    | some c =>
      if c.toNat < 32 then failHere .controlCharacter
      advance
      if c = '"' then return
      if c = '\\' then skipEscape
      skipCharacters fuel

def skipQuoted : Reader Unit := do
  advance
  skipCharacters ((← remaining) + 1)

def skipFraction : Reader Unit := do
  if (← peek?) = some '.' then
    advance
    if (← takeWhile isDigit).isEmpty then failNext .invalidNumber

def skipExponent : Reader Unit := do
  let c ← peek?
  if c = some 'e' ∨ c = some 'E' then
    advance
    let sign ← peek?
    if sign = some '+' ∨ sign = some '-' then advance
    let first ← next?
    if !first.any isDigit then failHere .invalidNumber
    let _ ← takeWhile isDigit

def skipNumber : Reader Unit := do
  let first ← next?
  if first = some '0' then
    if (← peek?).any isDigit then failNext .invalidNumber
  else
    if !first.any isDigit then failHere .invalidNumber
    let _ ← takeWhile isDigit
  skipFraction
  skipExponent

def skipScalar? (first : Char) : Option (Reader Unit) :=
  if first = 'n' then some (word "ull")
  else if first = 't' then some (word "rue")
  else if first = 'f' then some (word "alse")
  else if first = '-' then some (do advance; skipNumber)
  else if isDigit first then some skipNumber
  else if first = '"' then some skipQuoted
  else none

/-- Passes over the rest of a list or an object, after one part of it. -/
def skipParts (part : Reader Unit) (close : Char) (atEnd expected : Malformed) : Nat → Reader Unit
  | 0 => failNext atEnd
  | fuel + 1 => do
    match ← peekSolid? with
    | none => failNext atEnd
    | some c =>
      if c = close then advance
      else if c = ',' then
        advance
        part
        skipParts part close atEnd expected fuel
      else failNext expected

def skipMember (value : Reader Unit) : Reader Unit := do
  match ← peekSolid? with
  | none => failNext .endInObject
  | some c =>
    if c ≠ '"' then failNext .keyNotText
    skipQuoted
    colon
    value

/-- Passes over a value, be it nested as deeply as the text is long. -/
def skipValue : Nat → Reader Unit
  | 0 => failNext .endInValue
  | depth + 1 => do
    match ← peekSolid? with
    | none => failNext .endInValue
    | some c =>
      match skipScalar? c with
      | some skip => skip
      | none =>
        if c = '[' then
          advance
          match ← peekSolid? with
          | none => failNext .endInList
          | some c =>
            if c = ']' then advance
            else
              skipValue depth
              skipParts (skipValue depth) ']' .endInList .expectedListEnd ((← remaining) + 1)
        else if c = '\x7b' then
          advance
          match ← peekSolid? with
          | none => failNext .endInObject
          | some c =>
            if c = '\x7d' then advance
            else
              let part := skipMember (skipValue depth)
              part
              skipParts part '\x7d' .endInObject .expectedObjectEnd ((← remaining) + 1)
        else failNext .expectedValue

end Reader

open Reader

/-- Reads a value of a shape. What is not of that shape is refused where it stands, even if the text
after it is not JSON at all. -/
def Shape.read (depth : Nat) : Shape → Reader Json
  | .any => value depth
  | .text => .text <$> textFor "a string"
  | .variant names => .text <$> Reader.variant depth names

namespace RecordShape

def form (shape : RecordShape) : RecordForm where
  name := shape.name
  fields := shape.fields.map (·.1)

/-- Reads the members of an object that are fields, each once, and passes over the others. -/
def readMembers (shape : RecordShape) (depth : Nat) :
    Nat → Bool → List (String × Json) → Reader (List (String × Json))
  | 0, _, before => return before
  | fuel + 1, first, before => do
    if ← hasMember first then
      let name ← quoted
      match shape.fields.lookup name with
      | some field =>
        if before.any (·.1 == name) then refuse (.duplicateField name)
        colon
        let value ← within (.member name) (field.read depth)
        readMembers shape depth fuel false ((name, value) :: before)
      | none =>
        colon
        within (.member name) (skipValue ((← remaining) + 1))
        readMembers shape depth fuel false before
    else
      match shape.fields.find? fun (name, _) =>
          !before.any (·.1 == name) && !shape.optional.contains name with
      | some (name, _) => refuse (.missingField name)
      | none => return before

/-- Reads the items of a list as the fields in order of declaration. -/
def readItems (shape : RecordShape) (depth index : Nat) :
    List (String × Shape) → Reader (List (String × Json))
  | [] => return []
  | (name, field) :: rest => do
    if ← hasItem (index == 0) then
      let value ← within (.item index) (field.read depth)
      let others ← readItems shape depth (index + 1) rest
      return (name, value) :: others
    else if shape.optional.contains name then readItems shape depth (index + 1) rest
    else refuse (.wrongLength index shape.form.expectedElements)

def read (shape : RecordShape) (depth : Nat) : Reader (List (String × Json)) := do
  match ← peekSolid? with
  | none => failNext .endInValue
  | some c =>
    if c = '[' then
      nested depth (fun _ => shape.readItems (depth - 1) 0 shape.fields) listEnd
    else if c = '\x7b' then
      nested depth (fun fuel => shape.readMembers (depth - 1) fuel true []) objectEnd
    else wrongType shape.form.expected

end RecordShape

def readList (depth : Nat) (item : Nat → Reader α) : Reader (List α) := do
  match ← peekSolid? with
  | none => failNext .endInValue
  | some c =>
    if c = '[' then
      nested depth (fun fuel => items (item (depth - 1)) fuel 0 []) listEnd
    else wrongType "a sequence"

end AgentFacts.Json
