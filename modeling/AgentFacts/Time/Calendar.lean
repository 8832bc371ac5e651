namespace AgentFacts.Calendar

/-- A date. Years before 1 are counted down through 0. -/
structure Date where
  year : Int
  month : Nat
  day : Nat
deriving DecidableEq, Repr

def isLeapYear (year : Int) : Bool :=
  year % 4 = 0 && (year % 100 ≠ 0 || year % 400 = 0)

def daysInMonth (year : Int) (month : Nat) : Nat :=
  if month = 2 then (if isLeapYear year then 29 else 28)
  else if month = 4 || month = 6 || month = 9 || month = 11 then 30
  else 31

def daysBeforeYear (year : Int) : Int :=
  let past := year - 1
  past * 365 + past / 4 - past / 100 + past / 400

def daysBeforeMonth (year : Int) (month : Nat) : Nat :=
  (List.range (month - 1)).foldl (fun days m => days + daysInMonth year (m + 1)) 0

def epoch : Int := 719162

/-- The day of a date, counted from 1 January 1970. -/
def dayOf (d : Date) : Int :=
  daysBeforeYear d.year + daysBeforeMonth d.year d.month + ((d.day : Int) - 1) - epoch

/-- The date within a year of the day with this ordinal, counted from zero. -/
def dateInYear (year : Int) (ordinal : Nat) : Date :=
  monthFrom 1 ordinal 11
where
  monthFrom (month ordinal : Nat) : Nat → Date
    | 0 => ⟨year, month, ordinal + 1⟩
    | later + 1 =>
      let length := daysInMonth year month
      if ordinal < length then ⟨year, month, ordinal + 1⟩
      else monthFrom (month + 1) (ordinal - length) later

/-- The date of a day counted from 1 January 1970. -/
def dateOf (day : Int) : Date :=
  let count := day + epoch
  -- 400 years have 146097 days; the guess is the year or the one after it
  let guess := count * 400 / 146097 + 1
  let year :=
    if count < daysBeforeYear guess then guess - 1
    else if daysBeforeYear (guess + 1) ≤ count then guess + 1
    else guess
  dateInYear year (count - daysBeforeYear year).toNat

end AgentFacts.Calendar
