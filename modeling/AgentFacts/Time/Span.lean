namespace AgentFacts

structure Span where
  nanos : Nat
deriving DecidableEq, Inhabited, Repr

namespace Span

instance : LE Span where
  le a b := a.nanos ≤ b.nanos

instance : LT Span where
  lt a b := a.nanos < b.nanos

instance (a b : Span) : Decidable (a ≤ b) :=
  inferInstanceAs (Decidable (a.nanos ≤ b.nanos))

instance (a b : Span) : Decidable (a < b) :=
  inferInstanceAs (Decidable (a.nanos < b.nanos))

def zero : Span := ⟨0⟩

def ofMillis (ms : Nat) : Span := ⟨ms * 1000000⟩

def ofSeconds (s : Nat) : Span := ⟨s * 1000000000⟩

def seconds (d : Span) : Nat := d.nanos / 1000000000

def subsecond (d : Span) : Nat := d.nanos % 1000000000

def millis (d : Span) : Nat := d.nanos / 1000000

/-- The longest span: seconds fill 64 bits. -/
def longest : Span := ⟨Nat.pow 2 64 * 1000000000 - 1⟩

/-- A multiple, as far as the longest span allows. -/
def times (d : Span) (k : Nat) : Span := ⟨min (d.nanos * k) longest.nanos⟩

def shorter (a b : Span) : Span := ⟨min a.nanos b.nanos⟩

/-- A count of units and the fraction of one, without trailing zeros. -/
def amount (whole part places : Nat) (unit : String) : String :=
  let digits := Nat.toDigits 10 part
  let all := List.replicate (places - digits.length) '0' ++ digits
  let kept := (all.reverse.dropWhile (· = '0')).reverse
  let fraction := if part = 0 then [] else '.' :: kept
  toString whole ++ String.ofList fraction ++ unit

/-- In the largest unit, from seconds down to nanoseconds, of which it is at least one. -/
def text (d : Span) : String :=
  if 1000000000 ≤ d.nanos then amount d.seconds d.subsecond 9 "s"
  else if 1000000 ≤ d.nanos then amount (d.nanos / 1000000) (d.nanos % 1000000) 6 "ms"
  else if 1000 ≤ d.nanos then amount (d.nanos / 1000) (d.nanos % 1000) 3 "µs"
  else toString d.nanos ++ "ns"

end Span

end AgentFacts
