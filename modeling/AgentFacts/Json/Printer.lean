import AgentFacts.Json.Basic
import AgentFacts.Text.Quoted

namespace AgentFacts.Json

/-- How one character stands in a JSON text. -/
def escapeChar (c : Char) : List Char :=
  if c = '"' then ['\\', '"']
  else if c = '\\' then ['\\', '\\']
  else if c = '\n' then ['\\', 'n']
  else if c = '\r' then ['\\', 'r']
  else if c = '\t' then ['\\', 't']
  else if c = '\x08' then ['\\', 'b']
  else if c = '\x0c' then ['\\', 'f']
  else if c.toNat < 32 then
    let digits := Text.hexDigits c.toNat
    ['\\', 'u'] ++ List.replicate (4 - digits.length) '0' ++ digits
  else [c]

def printText (s : String) : String :=
  String.ofList ('"' :: s.toList.flatMap escapeChar ++ ['"'])

def Number.print : Number → String
  | .whole i => toString i
  | .double x => x.text

/-- The compact text: no blanks, members in the order of their names. -/
def print : Json → String
  | .null => "null"
  | .bool true => "true"
  | .bool false => "false"
  | .number n => n.print
  | .text s => printText s
  | .list items => "[" ++ printItems items ++ "]"
  | .object members => "\x7b" ++ printMembers members ++ "\x7d"
where
  printItems : List Json → String
    | [] => ""
    | [item] => print item
    | item :: rest => print item ++ "," ++ printItems rest
  printMembers : List (String × Json) → String
    | [] => ""
    | [(name, value)] => printText name ++ ":" ++ print value
    | (name, value) :: rest => printText name ++ ":" ++ print value ++ "," ++ printMembers rest

end AgentFacts.Json
