namespace AgentFacts

/-- A type and a subtype in lower case; what follows the last plus sign of the subtype tells the
syntax that it builds upon. -/
structure MediaType where
  type : String
  subtype : String
  suffix : Option String
deriving DecidableEq

namespace MediaType

def isTokenChar (c : Char) : Bool :=
  ('a' ≤ c && c ≤ 'z') || ('A' ≤ c && c ≤ 'Z') || ('0' ≤ c && c ≤ '9') ||
    "!#$%&'*+-.^_|~\x60".toList.contains c

def isQuotedChar (c : Char) : Bool :=
  ' ' ≤ c && c ≤ '~'

/-- The rest after the closing quote. It is not the first character, which may be a quote itself. -/
def afterQuote : List Char → Option (List Char)
  | [] => none
  | first :: rest =>
    let more := rest.takeWhile fun c => isQuotedChar c && c != '"'
    match rest.drop more.length with
    | '"' :: rest => if isQuotedChar first then some rest else none
    | _ => none

/-- The rest after a parameter's value that is written between quotes: blanks and a semicolon, or
the end. -/
def afterQuoted : List Char → Option (List Char)
  | [] => some []
  | ';' :: rest => some rest
  | ' ' :: rest => afterQuoted rest
  | _ => none

def afterParameter (cs : List Char) : Option (List Char) :=
  let name := cs.takeWhile isTokenChar
  match cs.drop name.length with
  | '=' :: '"' :: value => if name.isEmpty then none else (afterQuote value).bind afterQuoted
  | '=' :: value =>
    let token := value.takeWhile isTokenChar
    match value.drop token.length with
    | [] => if name.isEmpty then none else some []
    | ';' :: rest => if name.isEmpty || token.isEmpty then none else some rest
    | _ => none
  | _ => none

/-- Whether parameters are well formed, blanks in front of each aside; `left` bounds their
number. -/
def wellFormedParameters : Nat → List Char → Bool
  | 0, _ => true
  | left + 1, cs =>
    match cs.dropWhile (· = ' ') with
    | [] => true
    | start =>
      match afterParameter start with
      | some rest => wellFormedParameters left rest
      | none => false

/-- A subtype and the part after its last plus sign. -/
def splitSuffix (cs : List Char) : List Char × Option (List Char) :=
  match cs with
  | [] => ([], none)
  | first :: rest =>
    let suffix := (rest.reverse.takeWhile (· != '+')).reverse
    if rest.contains '+' then (first :: rest.take (rest.length - suffix.length - 1), some suffix)
    else (cs, none)

def parse (s : String) : Option MediaType :=
  let cs := s.toList
  let type := cs.takeWhile isTokenChar
  match cs.drop type.length with
  | '/' :: rest =>
    let subtype := rest.takeWhile isTokenChar
    let (base, suffix) := splitSuffix subtype
    let lower (name : List Char) : String := String.ofList (name.map Char.toLower)
    let result : MediaType := ⟨lower type, lower base, suffix.map lower⟩
    match rest.drop subtype.length with
    | [] => if type.isEmpty then none else some result
    | ';' :: parameters =>
      if type.isEmpty || subtype.isEmpty then none
      else if wellFormedParameters (parameters.length + 1) parameters then some result
      else none
    | _ => none
  | _ => none

/-- JSON itself or a syntax built upon it. -/
def isJson (m : MediaType) : Bool :=
  m.type == "application" && (m.subtype == "json" || m.suffix == some "json")

end MediaType

end AgentFacts
