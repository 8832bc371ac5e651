import AgentFacts.Time.Instant
import AgentFacts.Json.Basic

namespace AgentFacts

inductive Param where
  | null
  | int (value : Int)
  | text (value : String)
  | timestamptz (value : Instant)
  | jsonb (value : Json)
  | texts (values : List String)
deriving Inhabited

namespace Param

def ofTextOption : Option String → Param
  | none => .null
  | some s => .text s

/-- Timestamps are sent in whole microseconds. -/
def ofInstant (i : Instant) : Param :=
  .timestamptz i.cutToMicros

def ofInstantOption : Option Instant → Param
  | none => .null
  | some i => .ofInstant i

/-- A number that is sent as a signed one of 64 bits and so becomes negative from `2 ^ 63` on. -/
def ofUInt64 (n : UInt64) : Param :=
  .int n.toInt64.toInt

def ofTexts (items : List String) : Param :=
  .jsonb (.list (items.map .text))

end Param

end AgentFacts
