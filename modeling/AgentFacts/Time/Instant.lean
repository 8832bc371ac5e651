import AgentFacts.Time.Calendar

namespace AgentFacts

/-- Seconds since 1 January 1970 and nanoseconds after that second. During a leap second the count
of seconds stands still and the nanoseconds run on from `10 ^ 9`. -/
structure Instant where
  second : Int
  nano : Nat
deriving DecidableEq, Inhabited, Repr

namespace Instant

instance : Ord Instant where
  compare a b := (compare a.second b.second).then (compare a.nano b.nano)

instance : LT Instant where
  lt a b := a.second < b.second ∨ (a.second = b.second ∧ a.nano < b.nano)

instance : LE Instant where
  le a b := a.second < b.second ∨ (a.second = b.second ∧ a.nano ≤ b.nano)

instance (a b : Instant) : Decidable (a < b) :=
  inferInstanceAs (Decidable (_ ∨ _))

instance (a b : Instant) : Decidable (a ≤ b) :=
  inferInstanceAs (Decidable (_ ∨ _))

def latest (a b : Instant) : Instant :=
  if a ≤ b then b else a

theorem le_iff (a b : Instant) :
    a ≤ b ↔ a.second < b.second ∨ (a.second = b.second ∧ a.nano ≤ b.nano) := Iff.rfl

theorem le_refl (a : Instant) : a ≤ a := by
  simp [le_iff]

theorem le_total (a b : Instant) : a ≤ b ∨ b ≤ a := by
  simp only [le_iff]
  omega

theorem le_trans {a b c : Instant} (first : a ≤ b) (second : b ≤ c) : a ≤ c := by
  simp only [le_iff] at *
  omega

theorem le_antisymm {a b : Instant} (first : a ≤ b) (second : b ≤ a) : a = b := by
  obtain ⟨s, n⟩ := a
  obtain ⟨t, m⟩ := b
  simp only [le_iff] at first second
  simp only [Instant.mk.injEq]
  omega

/-- Days since 1 January 1970 and seconds into the day. -/
def dayAndSecond (i : Instant) : Int × Nat :=
  (i.second / 86400, (i.second % 86400).toNat)

def padded (width n : Nat) : String :=
  let digits := Nat.toDigits 10 n
  String.ofList (List.replicate (width - digits.length) '0' ++ digits)

/-- Four digits; a sign in front and more digits where four do not do. -/
def yearText (year : Int) : String :=
  if 0 ≤ year && year ≤ 9999 then padded 4 year.toNat
  else (if year < 0 then "-" else "+") ++ padded 4 year.natAbs

/-- No fraction, or three, six or nine digits of it. -/
def fractionText (nano : Nat) : String :=
  if nano = 0 then ""
  else if nano % 1000000 = 0 then "." ++ padded 3 (nano / 1000000)
  else if nano % 1000 = 0 then "." ++ padded 6 (nano / 1000)
  else "." ++ padded 9 nano

def text (i : Instant) : String :=
  let (day, second) := i.dayAndSecond
  let date := Calendar.dateOf day
  let leap := 1000000000 ≤ i.nano
  let shown := second % 60 + (if leap then 1 else 0)
  let nano := if leap then i.nano - 1000000000 else i.nano
  yearText date.year ++ "-" ++ padded 2 date.month ++ "-" ++ padded 2 date.day ++ "T" ++
    padded 2 (second / 3600) ++ ":" ++ padded 2 (second / 60 % 60) ++ ":" ++ padded 2 shown ++
    fractionText nano ++ "Z"

/-- Nanoseconds since 1 January 2000; a leap second counts as the one after it. -/
def sinceMillennium (i : Instant) : Int :=
  (i.second - 946684800) * 1000000000 + i.nano

/-- Whole microseconds since 1 January 2000, cut towards that date. -/
def microsSinceMillennium (i : Instant) : Int :=
  Int.tdiv i.sinceMillennium 1000

def ofMicrosSinceMillennium (micros : Int) : Instant :=
  ⟨946684800 + micros / 1000000, (micros % 1000000).toNat * 1000⟩

/-- The instant as a column of timestamps keeps it. -/
def cutToMicros (i : Instant) : Instant :=
  ofMicrosSinceMillennium i.microsSinceMillennium

/-- Whole microseconds outside of a leap second. -/
def IsMicros (i : Instant) : Prop :=
  i.nano < 1000000000 ∧ i.nano % 1000 = 0

theorem cutToMicros_of_isMicros {i : Instant} (whole : i.IsMicros) : i.cutToMicros = i := by
  obtain ⟨s, n⟩ := i
  obtain ⟨below, even⟩ := whole
  simp only at below even
  obtain ⟨m, rfl⟩ : ∃ m, n = 1000 * m := ⟨n / 1000, by omega⟩
  have exact : (⟨s, 1000 * m⟩ : Instant).sinceMillennium =
      1000 * ((s - 946684800) * 1000000 + m) := by
    simp only [sinceMillennium]
    omega
  simp only [cutToMicros, microsSinceMillennium, exact, ofMicrosSinceMillennium,
    Int.mul_tdiv_cancel_left _ (show (1000 : Int) ≠ 0 by decide), Instant.mk.injEq]
  omega

end Instant

end AgentFacts
