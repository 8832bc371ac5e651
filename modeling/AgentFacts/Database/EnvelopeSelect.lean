import AgentFacts.Database.Param
import AgentFacts.EventLog.Query

namespace AgentFacts

/-- The columns that envelopes are selected by. -/
inductive EnvelopeColumn where
  | id
  | source
  | eventType
  | receivedAt
deriving DecidableEq

def EnvelopeColumn.text : EnvelopeColumn → String
  | .id => "id"
  | .source => "source"
  | .eventType => "event_type"
  | .receivedAt => "received_at"

inductive Comparison where
  | equal
  | anyOf
  | greater
  | atLeast
  | atMost
deriving DecidableEq

def Comparison.text (placeholder : String) : Comparison → String
  | .equal => " = " ++ placeholder
  | .anyOf => " = ANY(" ++ placeholder ++ ")"
  | .greater => " > " ++ placeholder
  | .atLeast => " >= " ++ placeholder
  | .atMost => " <= " ++ placeholder

structure Condition where
  column : EnvelopeColumn
  comparison : Comparison
  placeholder : Nat
deriving DecidableEq

/-- Which envelopes are selected, in ascending order of their ids. Every condition has to hold;
limit and offset are numbers of placeholders. -/
structure EnvelopeSelect where
  conditions : List Condition
  limit : Option Nat
  offset : Option Nat
deriving DecidableEq

namespace EnvelopeSelect

def columns : String := "id, source, event_type, payload, received_at"

def placeholder (number : Nat) : String :=
  "$" ++ toString number

def conditionText (c : Condition) : String :=
  " AND " ++ c.column.text ++ c.comparison.text (placeholder c.placeholder)

def boundText (name : String) : Option Nat → String
  | none => ""
  | some number => " " ++ name ++ " " ++ placeholder number

def text (s : EnvelopeSelect) : String :=
  "SELECT " ++ columns ++ " FROM envelopes WHERE 1=1" ++
    String.join (s.conditions.map conditionText) ++ " ORDER BY id ASC" ++
    boundText "LIMIT" s.limit ++ boundText "OFFSET" s.offset

end EnvelopeSelect

/-- A selection while it is being written, and how many placeholders it has so far. -/
structure SelectDraft where
  select : EnvelopeSelect
  count : Nat

namespace SelectDraft

def empty : SelectDraft := ⟨⟨[], none, none⟩, 0⟩

/-- Adds a comparison with a placeholder of its own, if there is something to compare with. -/
def condition (d : SelectDraft) (column : EnvelopeColumn) (comparison : Comparison) :
    Option α → SelectDraft
  | none => d
  | some _ =>
    let number := d.count + 1
    ⟨{ d.select with conditions := d.select.conditions ++ [⟨column, comparison, number⟩] }, number⟩

def limit (d : SelectDraft) : Option α → SelectDraft
  | none => d
  | some _ => ⟨{ d.select with limit := some (d.count + 1) }, d.count + 1⟩

def offset (d : SelectDraft) : Option α → SelectDraft
  | none => d
  | some _ => ⟨{ d.select with offset := some (d.count + 1) }, d.count + 1⟩

end SelectDraft

namespace EnvelopeQuery

def conditions (q : EnvelopeQuery) : SelectDraft :=
  SelectDraft.empty
    |>.condition .source .equal q.source
    |>.condition .eventType .anyOf q.eventTypes
    |>.condition .id .greater q.after
    |>.condition .receivedAt .atLeast q.earliest
    |>.condition .receivedAt .atMost q.latest

/-- The selection. Its placeholders are numbered before anything is bound to them. -/
def select (q : EnvelopeQuery) : EnvelopeSelect :=
  ((q.conditions.limit q.limit).offset q.offset).select

/-- The values in the order in which they are bound, the first one to the first placeholder. -/
def params (q : EnvelopeQuery) : List Param :=
  (q.source.map fun source => .text source.text).toList ++
    (q.eventTypes.map fun types => .texts (types.map EventType.text)).toList ++
    (q.after.map fun id => .int id.value).toList ++
    (q.earliest.map Param.ofInstant).toList ++
    (q.latest.map Param.ofInstant).toList ++
    (q.limit.map Param.ofUInt64).toList ++
    (q.offset.map Param.ofUInt64).toList

end EnvelopeQuery

end AgentFacts
