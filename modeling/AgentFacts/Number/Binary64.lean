namespace AgentFacts

/-- A double-precision number, given by its sixty-four bits. -/
structure Binary64 where
  bits : UInt64
deriving DecidableEq, Inhabited, Repr

namespace Binary64

def ofFloat (x : Float) : Binary64 :=
  ⟨x.toBits⟩

def isNegative (x : Binary64) : Bool :=
  x.bits ≥ 0x8000000000000000

def negate (x : Binary64) : Binary64 :=
  ⟨x.bits ^^^ 0x8000000000000000⟩

def mantissa (x : Binary64) : Nat :=
  let fraction := x.bits.toNat % Nat.pow 2 52
  if x.bits.toNat / Nat.pow 2 52 % 2048 = 0 then fraction else fraction + Nat.pow 2 52

def exponent (x : Binary64) : Int :=
  let e : Nat := x.bits.toNat / Nat.pow 2 52 % 2048
  if e = 0 then -1074 else (e : Int) - 1075

/-- A power of two has its lower neighbour at half the distance of its upper one. -/
def hasCloseLowerNeighbour (x : Binary64) : Bool :=
  x.bits.toNat % Nat.pow 2 52 = 0 && 1 < x.bits.toNat / Nat.pow 2 52 % 2048

def maxDecimalExponent : Int := 308

private def pow10 (e : Nat) : Float :=
  Float.ofScientific 1 false e

/-- The number `significand * 10 ^ exponent`: the significand is rounded to a double first, then
multiplied or divided by powers of ten. `none` when it is too large. -/
def ofDecimal? (significand : Nat) (exponent : Int) : Option Binary64 :=
  let start := significand.toUInt64.toFloat
  if start == 0 then some (ofFloat start)
  else if 0 ≤ exponent then
    if maxDecimalExponent < exponent then none
    else
      let x := start * pow10 exponent.toNat
      if x.isInf then none else some (ofFloat x)
  else some (ofFloat (shrink start exponent.natAbs 3))
where
  /-- Divides by `10 ^ e`, at most `10 ^ 308` at a time; after three such steps nothing is left. -/
  shrink (x : Float) (e : Nat) : Nat → Float
    | 0 => 0
    | steps + 1 =>
      if e ≤ 308 then x / pow10 e
      else
        let y := x / pow10 308
        if y == 0 then y else shrink y (e - 308) steps

structure Decimal where
  digits : Nat
  scale : Int

def magnitude (x : Binary64) : Nat × Nat :=
  if 0 ≤ x.exponent then (x.mantissa * Nat.pow 2 x.exponent.toNat, 1)
  else (x.mantissa, Nat.pow 2 x.exponent.natAbs)

/-- The decimal exponent of the first digit of `num / den`, for a positive fraction. -/
def leadingExponent (num den : Nat) : Int :=
  if den ≤ num then ((Nat.toDigits 10 (num / den)).length : Int) - 1
  else -(below 1 400 : Int)
where
  below (k : Nat) : Nat → Nat
    | 0 => k
    | fuel + 1 => if den ≤ num * Nat.pow 10 k then k else below (k + 1) fuel

/-- Whether the fraction `a / b` rounds to `x`: half a unit to each side, ends included for an even
mantissa. -/
def roundsTo (x : Binary64) (a b : Nat) : Bool :=
  let (num, den) := x.magnitude
  let m := x.mantissa
  -- in quarters of a unit in the last place: the fraction is `value * m / num` units
  let quarters := 4 * a * den * m
  let unit := b * num
  let low := if x.hasCloseLowerNeighbour then 4 * m - 1 else 4 * m - 2
  let high := 4 * m + 2
  if m % 2 = 0 then low * unit ≤ quarters && quarters ≤ high * unit
  else low * unit < quarters && quarters < high * unit

/-- The nearer of the two neighbours of `x` on the grid of multiples of `10 ^ scale`, among those
that round to `x`; of two equally near ones the even one. -/
def onGrid? (x : Binary64) (scale : Int) : Option Decimal :=
  let (num, den) := x.magnitude
  let up := if scale < 0 then Nat.pow 10 scale.natAbs else 1
  let down := if scale < 0 then 1 else Nat.pow 10 scale.toNat
  let n := num * up
  let d := den * down
  let lower := n / d
  let fits (k : Nat) : Bool := x.roundsTo (k * down) up
  let lowerFirst := if 2 * (n % d) = d then lower % 2 = 0 else 2 * (n % d) < d
  let (first, second) := if lowerFirst then (lower, lower + 1) else (lower + 1, lower)
  if fits first then some ⟨first, scale⟩
  else if fits second then some ⟨second, scale⟩
  else none

/-- The decimal with the fewest digits that rounds to `x`. -/
def shortest (x : Binary64) : Decimal :=
  let (num, den) := x.magnitude
  let lead := leadingExponent num den
  let grids := (List.range 17).map fun (n : Nat) => x.onGrid? (lead - n)
  (grids.findSome? id).getD ⟨x.mantissa, 0⟩

def Decimal.significant (d : Decimal) : List Char × Int :=
  let all := Nat.toDigits 10 d.digits
  let kept := (all.reverse.dropWhile (· = '0')).reverse
  (kept, d.scale + (all.length : Int) - 1)

/-- Positional from `0.00001` up to sixteen whole digits, with at least one fraction digit; outside
of that a digit, the others after a point, and a signed exponent. -/
def layout (digits : List Char) (lead : Int) : List Char :=
  let count : Int := digits.length
  if -5 ≤ lead && lead ≤ 15 then
    if count - 1 ≤ lead then
      digits ++ List.replicate (lead + 1 - count).toNat '0' ++ ['.', '0']
    else if 0 ≤ lead then
      digits.take (lead + 1).toNat ++ '.' :: digits.drop (lead + 1).toNat
    else ['0', '.'] ++ List.replicate (-lead - 1).toNat '0' ++ digits
  else
    let fraction := if digits.length ≤ 1 then [] else '.' :: digits.drop 1
    let sign := if lead < 0 then '-' else '+'
    digits.take 1 ++ fraction ++ ['e', sign] ++ Nat.toDigits 10 lead.natAbs

/-- The shortest text that reads back as `x`. -/
def text (x : Binary64) : String :=
  let body :=
    if x.mantissa = 0 then ['0', '.', '0']
    else
      let (digits, lead) := x.shortest.significant
      layout digits lead
  String.ofList (if x.isNegative then '-' :: body else body)

end Binary64

end AgentFacts
