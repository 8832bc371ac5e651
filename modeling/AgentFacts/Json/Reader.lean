import AgentFacts.Json.Decode

namespace AgentFacts.Json

structure Place where
  line : Nat
  column : Nat
deriving DecidableEq

/-- The part of a text that is still to be read, and where it begins. -/
structure Cursor where
  rest : List Char
  place : Place

/-- How a text is not JSON. -/
inductive Malformed where
  | endInList
  | endInObject
  | endInText
  | endInValue
  | expectedColon
  | expectedListEnd
  | expectedObjectEnd
  | expectedIdent
  | expectedValue
  | invalidEscape
  | invalidNumber
  | numberOutOfRange
  | controlCharacter
  | keyNotText
  | loneSurrogate
  | trailingComma
  | trailingCharacters
  | cutEscape
  | tooDeep
deriving DecidableEq

def Malformed.message : Malformed → String
  | .endInList => "EOF while parsing a list"
  | .endInObject => "EOF while parsing an object"
  | .endInText => "EOF while parsing a string"
  | .endInValue => "EOF while parsing a value"
  | .expectedColon => "expected `:`"
  | .expectedListEnd => "expected `,` or `]`"
  | .expectedObjectEnd => "expected `,` or `\x7d`"
  | .expectedIdent => "expected ident"
  | .expectedValue => "expected value"
  | .invalidEscape => "invalid escape"
  | .invalidNumber => "invalid number"
  | .numberOutOfRange => "number out of range"
  | .controlCharacter => "control character (\\u0000-\\u001F) found while parsing a string"
  | .keyNotText => "key must be a string"
  | .loneSurrogate => "lone leading surrogate in hex escape"
  | .trailingComma => "trailing comma"
  | .trailingCharacters => "trailing characters"
  | .cutEscape => "unexpected end of hex escape"
  | .tooDeep => "recursion limit exceeded"

/-- Why a text cannot be read: it is not JSON, or not the JSON that is wanted. -/
inductive ReadCause where
  | malformed (what : Malformed)
  | undecodable (error : DecodeError)
deriving DecidableEq

/-- A step from a value to one of its parts. -/
inductive PathStep where
  | member (name : String)
  | item (index : Nat)
deriving DecidableEq

structure ReadError where
  cause : ReadCause
  place : Option Place
  path : List PathStep
deriving DecidableEq

namespace ReadError

def isMalformed (e : ReadError) : Bool :=
  match e.cause with
  | .malformed _ => true
  | .undecodable _ => false

def message (e : ReadError) : String :=
  let cause := match e.cause with
    | .malformed what => what.message
    | .undecodable error => error.message
  match e.place with
  | none => cause
  | some place =>
    cause ++ " at line " ++ toString place.line ++ " column " ++ toString place.column

/-- Names of members with points between them, indices of items in brackets. -/
def pathText (path : List PathStep) : String :=
  (path.foldl (fun (shown, first) step =>
    match step with
    | .member name => (shown ++ (if first then "" else ".") ++ name, false)
    | .item index => (shown ++ "[" ++ toString index ++ "]", false)) ("", true)).1

def messageWithPath (e : ReadError) : String :=
  if e.path.isEmpty then e.message else pathText e.path ++ ": " ++ e.message

end ReadError

/-- Reads from a cursor. A failure keeps the cursor where the reading stopped. -/
abbrev Reader := EStateM ReadError Cursor

namespace Place

def start : Place := ⟨1, 0⟩

def after (p : Place) (c : Char) : Place :=
  if c = '\n' then ⟨p.line + 1, 0⟩ else ⟨p.line, p.column + c.utf8Size⟩

/-- One byte on, be it a whole character or not. -/
def afterByte (p : Place) (c : Char) : Place :=
  if c = '\n' then ⟨p.line + 1, 0⟩ else ⟨p.line, p.column + 1⟩

end Place

namespace Reader

def failHere (what : Malformed) : Reader α := do
  throw ⟨.malformed what, some (← get).place, []⟩

/-- Fails at the end of the next byte, which is looked at but not taken. -/
def failNext (what : Malformed) : Reader α := do
  let cursor ← get
  let place := match cursor.rest with
    | [] => cursor.place
    | c :: _ => cursor.place.afterByte c
  throw ⟨.malformed what, some place, []⟩

def peek? : Reader (Option Char) := do
  return (← get).rest.head?

def next? : Reader (Option Char) := do
  match (← get).rest with
  | [] => return none
  | c :: rest =>
    modify fun cursor => ⟨rest, cursor.place.after c⟩
    return some c

def advance : Reader Unit := do
  let _ ← next?

def remaining : Reader Nat := do
  return (← get).rest.length

def takeWhile (kind : Char → Bool) : Reader (List Char) := do
  let cursor ← get
  let taken := cursor.rest.takeWhile kind
  set (⟨cursor.rest.dropWhile kind, taken.foldl Place.after cursor.place⟩ : Cursor)
  return taken

def isSpace (c : Char) : Bool :=
  c = ' ' || c = '\n' || c = '\t' || c = '\r'

/-- The next character after blanks, which are taken. -/
def peekSolid? : Reader (Option Char) := do
  let _ ← takeWhile isSpace
  peek?

/-- Gives a failure without place the place that was reached. -/
def placed (read : Reader α) : Reader α := fun cursor =>
  match read cursor with
  | .ok a cursor' => .ok a cursor'
  | .error e cursor' => .error { e with place := some (e.place.getD cursor'.place) } cursor'

def within (step : PathStep) (read : Reader α) : Reader α := fun cursor =>
  match read cursor with
  | .ok a cursor' => .ok a cursor'
  | .error e cursor' => .error { e with path := step :: e.path } cursor'

/-- Reads a body and its end. After a failure in the body the end is still looked for. -/
def enclosed (body : Reader α) (close : Reader Unit) : Reader α := fun cursor =>
  match body cursor with
  | .ok a cursor' =>
    match close cursor' with
    | .ok _ cursor'' => .ok a cursor''
    | .error e cursor'' => .error e cursor''
  | .error e cursor' =>
    match close cursor' with
    | .ok _ cursor'' => .error e cursor''
    | .error _ cursor'' => .error e cursor''

def hexValue? (c : Char) : Option Nat :=
  if '0' ≤ c ∧ c ≤ '9' then some (c.toNat - 48)
  else if 'a' ≤ c ∧ c ≤ 'f' then some (c.toNat - 87)
  else if 'A' ≤ c ∧ c ≤ 'F' then some (c.toNat - 55)
  else none

/-- Moves on by a number of bytes, perhaps into the middle of a character. -/
def skipBytes : Nat → List Char → Place → Place
  | 0, _, place => place
  | _, [], place => place
  | n, c :: rest, place =>
    if c.utf8Size ≤ n then skipBytes (n - c.utf8Size) rest (place.after c)
    else ⟨place.line, place.column + n⟩
termination_by _ rest => rest.length

def hexUnit : Reader Nat := do
  let cursor ← get
  let bytes := cursor.rest.foldl (fun n c => n + c.utf8Size) 0
  if bytes < 4 then
    set (⟨[], cursor.rest.foldl Place.after cursor.place⟩ : Cursor)
    failHere .endInText
  match (cursor.rest.take 4).mapM hexValue? with
  | some digits =>
    set (⟨cursor.rest.drop 4, (cursor.rest.take 4).foldl Place.after cursor.place⟩ : Cursor)
    return digits.foldl (fun n digit => n * 16 + digit) 0
  | none =>
    set (⟨cursor.rest.drop 4, skipBytes 4 cursor.rest cursor.place⟩ : Cursor)
    failHere .invalidEscape

def lowerUnit : Reader Nat := do
  for expected in ['\\', 'u'] do
    match ← next? with
    | none => failHere .endInText
    | some c => if c ≠ expected then failHere .cutEscape
  let unit ← hexUnit
  if unit < 0xDC00 ∨ 0xDFFF < unit then failHere .loneSurrogate
  return unit

/-- A character by its number, in one unit or two. -/
def hexEscape : Reader Char := do
  let unit ← hexUnit
  if 0xDC00 ≤ unit ∧ unit ≤ 0xDFFF then failHere .loneSurrogate
  if unit < 0xD800 ∨ 0xDBFF < unit then return Char.ofNat unit
  let lower ← lowerUnit
  return Char.ofNat ((unit - 0xD800) * 0x400 + (lower - 0xDC00) + 0x10000)

def plainEscape? (c : Char) : Option Char :=
  [('"', '"'), ('\\', '\\'), ('/', '/'), ('b', '\x08'), ('f', '\x0c'), ('n', '\n'), ('r', '\r'),
    ('t', '\t')].lookup c

def escape : Reader Char := do
  match ← next? with
  | none => failHere .endInText
  | some 'u' => hexEscape
  | some c =>
    match plainEscape? c with
    | some plain => return plain
    | none => failHere .invalidEscape

/-- The characters up to the closing quote, after `before`, which is in reverse. -/
def characters : Nat → List Char → Reader String
  | 0, _ => failHere .endInText
  | fuel + 1, before => do
    match ← next? with
    | none => failHere .endInText
    | some '"' => return String.ofList before.reverse
    | some '\\' => do
      let c ← escape
      characters fuel (c :: before)
    | some c => if c.toNat < 32 then failHere .controlCharacter else characters fuel (c :: before)

def quoted : Reader String := do
  advance
  characters ((← remaining) + 1) []

def isDigit (c : Char) : Bool :=
  '0' ≤ c && c ≤ '9'

def maxSignificand : Nat := Nat.pow 2 64 - 1

/-- Appends digits to a significand while it does not grow too large; the rest is left. -/
def accumulate (significand : Nat) : List Char → Nat × List Char
  | [] => (significand, [])
  | c :: rest =>
    let next := significand * 10 + (c.toNat - 48)
    if next ≤ maxSignificand then accumulate next rest else (significand, c :: rest)

/-- The digits before the point: at least one, and none after a zero. -/
def wholeDigits : Reader (List Char) := do
  match ← next? with
  | none => failHere .endInValue
  | some '0' =>
    if (← peek?).any isDigit then failNext .invalidNumber
    return ['0']
  | some c =>
    if !isDigit c then failHere .invalidNumber
    return c :: (← takeWhile isDigit)

def fractionDigits : Reader (Option (List Char)) := do
  if (← peek?) ≠ some '.' then return none
  advance
  let digits ← takeWhile isDigit
  if digits.isEmpty then
    if (← peek?).isNone then failHere .endInValue else failNext .invalidNumber
  return some digits

def maxExponent : Nat := Nat.pow 2 31 - 1

/-- The digits of an exponent after the first ones. One that is too large fails unless `harmless`,
and then counts as infinite. -/
def exponentDigits (harmless : Bool) : Nat → Nat → Reader (Option Nat)
  | 0, exponent => return some exponent
  | fuel + 1, exponent => do
    match ← peek? with
    | none => return some exponent
    | some c =>
      if !isDigit c then return some exponent
      advance
      let next := exponent * 10 + (c.toNat - 48)
      if next ≤ maxExponent then exponentDigits harmless fuel next
      else if harmless then
        let _ ← takeWhile isDigit
        return none
      else failHere .numberOutOfRange

inductive Exponent where
  | absent
  | power (value : Int)
  | vanishing

def exponent (zero : Bool) : Reader Exponent := do
  let c ← peek?
  if c ≠ some 'e' ∧ c ≠ some 'E' then return .absent
  advance
  let sign ← peek?
  if sign = some '+' ∨ sign = some '-' then advance
  match ← next? with
  | none => failHere .endInValue
  | some c =>
    if !isDigit c then failHere .invalidNumber
    match ← exponentDigits (zero || sign = some '-') ((← remaining) + 1) (c.toNat - 48) with
    | none => return .vanishing
    | some e => return .power (if sign = some '-' then -e else e)

def signed (negative : Bool) (x : Binary64) : Number :=
  .double (if negative then x.negate else x)

def number (negative : Bool) : Reader Number := do
  let (significand, skipped) := accumulate 0 (← wholeDigits)
  let fraction ← fractionDigits
  let (significand, unused) := accumulate significand (fraction.getD [])
  let scale : Int := skipped.length - ((fraction.getD []).length - unused.length : Nat)
  let double (scale : Int) : Reader Number := do
    match Binary64.ofDecimal? significand scale with
    | some x => return signed negative x
    | none => failHere .numberOutOfRange
  match ← exponent (significand == 0) with
  | .vanishing => return signed negative ⟨0⟩
  | .power e => double (scale + e)
  | .absent =>
    if fraction.isSome || !skipped.isEmpty then double scale
    else if !negative then return .whole significand
    else if significand = 0 ∨ Nat.pow 2 63 < significand then double 0
    else return .whole (-significand)

def word (letters : String) : Reader Unit := do
  advance
  for expected in letters.toList do
    match ← next? with
    | none => failHere .endInValue
    | some c => if c ≠ expected then failHere .expectedIdent

def scalar? (first : Char) : Option (Reader Json) :=
  if first = 'n' then some (do word "ull"; return .null)
  else if first = 't' then some (do word "rue"; return .bool true)
  else if first = 'f' then some (do word "alse"; return .bool false)
  else if first = '-' then some (do advance; return .number (← number true))
  else if isDigit first then some (do return .number (← number false))
  else if first = '"' then some (do return .text (← quoted))
  else none

def hasItem (first : Bool) : Reader Bool := do
  match ← peekSolid? with
  | none => failNext .endInList
  | some c =>
    if c = ']' then return false
    else if first then return true
    else if c = ',' then
      advance
      match ← peekSolid? with
      | none => failNext .endInValue
      | some c => if c = ']' then failNext .trailingComma else return true
    else failNext .expectedListEnd

def hasMember (first : Bool) : Reader Bool := do
  match ← peekSolid? with
  | none => failNext .endInObject
  | some c =>
    if c = '\x7d' then return false
    else if first then
      if c = '"' then return true else failNext .keyNotText
    else if c = ',' then
      advance
      match ← peekSolid? with
      | none => failNext .endInValue
      | some c =>
        if c = '"' then return true
        else if c = '\x7d' then failNext .trailingComma
        else failNext .keyNotText
    else failNext .expectedObjectEnd

def colon : Reader Unit := do
  match ← peekSolid? with
  | none => failNext .endInObject
  | some c => if c = ':' then advance else failNext .expectedColon

def listEnd : Reader Unit := do
  match ← peekSolid? with
  | none => failNext .endInList
  | some c =>
    if c = ']' then advance
    else if c = ',' then
      advance
      if (← peekSolid?) = some ']' then failNext .trailingComma else failNext .trailingCharacters
    else failNext .trailingCharacters

def objectEnd : Reader Unit := do
  match ← peekSolid? with
  | none => failNext .endInObject
  | some c =>
    if c = '\x7d' then advance
    else if c = ',' then failNext .trailingComma
    else failNext .trailingCharacters

/-- The items of a list from one index on, after `before`, which is in reverse. -/
def items (item : Reader α) : Nat → Nat → List α → Reader (List α)
  | 0, _, before => return before.reverse
  | fuel + 1, index, before => do
    if ← hasItem (index == 0) then
      let a ← within (.item index) item
      items item fuel (index + 1) (a :: before)
    else return before.reverse

/-- The members of an object, after `before`, which is in reverse; `member` reads the value under a
name. -/
def members (member : String → Reader α) : Nat → List (String × α) → Reader (List (String × α))
  | 0, before => return before.reverse
  | fuel + 1, before => do
    if ← hasMember before.isEmpty then
      let name ← quoted
      colon
      let a ← within (.member name) (member name)
      members member fuel ((name, a) :: before)
    else return before.reverse

/-- Reads what lies between brackets, unless values are nested too deeply. `depth` counts the
levels that are left. -/
def nested (depth : Nat) (body : Nat → Reader α) (close : Reader Unit) : Reader α := do
  if depth ≤ 1 then failNext .tooDeep
  advance
  let count ← remaining
  placed (enclosed (body (count + 1)) close)

/-- Any value, with fewer than `depth` levels of lists and objects. -/
def value : Nat → Reader Json
  | 0 => failNext .tooDeep
  | depth + 1 => do
    match ← peekSolid? with
    | none => failNext .endInValue
    | some c =>
      match scalar? c with
      | some read => read
      | none =>
        if c = '[' then
          .list <$> nested (depth + 1) (fun fuel => items (value depth) fuel 0 []) listEnd
        else if c = '\x7b' then
          ofMembers <$> nested (depth + 1) (fun fuel => members (fun _ => value depth) fuel [])
            objectEnd
        else failNext .expectedValue

def finish : Reader Unit := do
  if (← peekSolid?).isSome then failNext .trailingCharacters

def run (read : Reader α) (text : String) : Except ReadError α :=
  match (do let a ← read; finish; return a : Reader α) ⟨text.toList, .start⟩ with
  | .ok a _ => .ok a
  | .error e _ => .error e

end Reader

/-- How deeply lists and objects may be nested. -/
def depthLimit : Nat := 128

def parse (text : String) : Except ReadError Json :=
  (Reader.value depthLimit).run text

end AgentFacts.Json
