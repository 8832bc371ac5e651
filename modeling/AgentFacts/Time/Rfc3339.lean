import AgentFacts.Text.Blank
import AgentFacts.Time.Instant

namespace AgentFacts.Rfc3339

/-- Why a text is no instant. -/
inductive Fault where
  | outOfRange
  | impossible
  | notEnough
  | invalid
  | tooShort
  | tooLong
deriving DecidableEq, Repr

def Fault.message : Fault → String
  | .outOfRange => "input is out of range"
  | .impossible => "no possible date and time matching input"
  | .notEnough => "input is not enough for unique date and time"
  | .invalid => "input contains invalid characters"
  | .tooShort => "premature end of input"
  | .tooLong => "trailing input"

/-- Reads from the front of a text and leaves the rest of it. -/
abbrev Reader := StateT (List Char) (Except Fault)

def digit? (c : Char) : Option Nat :=
  if '0' ≤ c ∧ c ≤ '9' then some (c.toNat - '0'.toNat) else none

def digits (most : Nat) (acc : Nat) : List Char → Nat × List Char
  | [] => (acc, [])
  | c :: rest =>
    match most, digit? c with
    | m + 1, some d => digits m (acc * 10 + d) rest
    | _, _ => (acc, c :: rest)

def skipBlanks : Reader Unit :=
  modify Text.trimStart

def number (most : Nat) : Reader Nat := do
  match ← get with
  | [] => throw .tooShort
  | c :: rest =>
    if (digit? c).isNone then throw .invalid
    let (n, after) := digits most 0 (c :: rest)
    set after
    return n

def field (most low high : Nat) : Reader Nat := do
  skipBlanks
  let n ← number most
  if low ≤ n ∧ n ≤ high then return n else throw .outOfRange

def wholeNumber : Reader Nat := do
  number (← get).length

/-- Four digits at most; with a sign, as many as there are. -/
def year : Reader Int := do
  skipBlanks
  let y : Int ← match ← get with
    | '-' :: rest => do
      set rest
      pure (-(← wholeNumber : Int))
    | '+' :: rest => do
      set rest
      wholeNumber
    | _ => number 4
  if -2147483648 ≤ y ∧ y ≤ 2147483647 then return y else throw .outOfRange

def mark (c : Char) : Reader Unit := do
  skipBlanks
  match ← get with
  | [] => throw .tooShort
  | d :: rest => if d = c then set rest else throw .invalid

def date : Reader (Int × Nat × Nat) := do
  let y ← year
  mark '-'
  let m ← field 2 1 12
  mark '-'
  let d ← field 2 1 31
  return (y, m, d)

/-- What stands between date and time. -/
def separator : Reader Unit := do
  match ← get with
  | [] => throw .tooShort
  | c :: rest => if c = 't' ∨ c = 'T' ∨ c = ' ' then set rest else throw .invalid

/-- Nanoseconds after a point; digits past the ninth are skipped. -/
def fraction : Reader Nat := do
  match ← get with
  | '.' :: rest =>
    set rest
    let n ← number 9
    let after ← get
    set (after.dropWhile fun c => (digit? c).isSome)
    return n * Nat.pow 10 (9 - (rest.length - after.length))
  | _ => return 0

structure Time where
  hour : Nat
  minute : Nat
  second : Nat
  nano : Nat

/-- The second may be a sixtieth one, the leap second. -/
def time : Reader Time := do
  let h ← field 2 0 23
  mark ':'
  let m ← field 2 0 59
  mark ':'
  let s ← field 2 0 60
  let n ← fraction
  return ⟨h, m, s, n⟩

def byteCount (cs : List Char) : Nat :=
  cs.foldl (fun n c => n + c.utf8Size) 0

/-- Two digits; a single byte is too short for them. -/
def twoDigits : Reader (Nat × Nat) := do
  let cs ← get
  if byteCount cs < 2 then throw .tooShort
  match cs with
  | a :: b :: rest =>
    match digit? a, digit? b with
    | some x, some y =>
      set rest
      return (x, y)
    | _, _ => throw .invalid
  | _ => throw .invalid

def hoursAndMinutes : Reader Nat := do
  let (h, h') ← twoDigits
  modify fun cs => cs.dropWhile fun c => c = ':' ∨ Text.isBlank c
  let (m, m') ← twoDigits
  if 5 < m then throw .outOfRange
  return (h * 10 + h') * 3600 + (m * 10 + m') * 60

/-- Seconds east of universal time. -/
def offset : Reader Int := do
  skipBlanks
  let cs ← get
  if (cs.take 3).map Char.toUpper = ['U', 'T', 'C'] then
    set (cs.drop 3)
    return 0
  match cs with
  | [] => throw .tooShort
  | c :: rest =>
    set rest
    if c = 'Z' ∨ c = 'z' then return 0
    else if c = '+' then return (← hoursAndMinutes)
    else if c = '-' ∨ c = '−' then return -(← hoursAndMinutes : Int)
    else throw .invalid

def firstYear : Int := -262143
def lastYear : Int := 262142

def firstSecond : Int := Calendar.dayOf ⟨firstYear, 1, 1⟩ * 86400
def lastSecond : Int := Calendar.dayOf ⟨lastYear + 1, 1, 1⟩ * 86400 - 1

def instant (day : Int × Nat × Nat) (t : Time) (offset : Int) : Except Fault Instant :=
  let (y, m, d) := day
  if y < firstYear ∨ lastYear < y ∨ Calendar.daysInMonth y m < d then .error .outOfRange
  else if offset ≤ -86400 ∨ 86400 ≤ offset then .error .outOfRange
  else
    let leap := t.second = 60
    let clock := Calendar.dayOf ⟨y, m, d⟩ * 86400 + (t.hour * 3600 + t.minute * 60 : Nat) +
      (if leap then 59 else t.second : Nat)
    let second := clock - offset
    if second < firstSecond ∨ lastSecond < second then .error .impossible
    else .ok ⟨second, t.nano + (if leap then 1000000000 else 0)⟩

/-- Date, time and offset, and nothing but blanks after them. -/
def zoned : Reader ((Int × Nat × Nat) × Time × Int) := do
  let day ← date
  separator
  let t ← time
  let east ← offset
  skipBlanks
  if (← get).isEmpty then return (day, t, east) else throw .tooLong

/-- The instant that a text names, by RFC 3339 with some liberty: blanks between the parts, a blank
in place of the `T`, years of any length with a sign, fractions of any length, and `UTC` for the
offset. -/
def parse (s : String) : Except Fault Instant := do
  let ((day, t, east), _) ← zoned s.toList
  instant day t east

end AgentFacts.Rfc3339
