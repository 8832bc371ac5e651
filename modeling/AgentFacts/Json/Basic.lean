import AgentFacts.Number.Binary64

namespace AgentFacts

/-- A number is whole when it is written without a fraction and exponent and lies between the least
signed and the greatest unsigned 64-bit integer; every other number is a double. -/
inductive Json.Number where
  | whole (value : Int)
  | double (value : Binary64)
deriving DecidableEq, Inhabited

inductive Json where
  | null
  | bool (value : Bool)
  | number (value : Json.Number)
  | text (value : String)
  | list (items : List Json)
  | object (members : List (String × Json))
deriving Inhabited

namespace Json

def int (i : Int) : Json := .number (.whole i)

def nat (n : Nat) : Json := .number (.whole n)

/-- Puts one member at its place, in exchange for an older one of that name. -/
def insertMember (name : String) (value : Json) : List (String × Json) → List (String × Json)
  | [] => [(name, value)]
  | (other, old) :: rest =>
    if name < other then (name, value) :: (other, old) :: rest
    else if name = other then (name, value) :: rest
    else (other, old) :: insertMember name value rest

/-- The object with these members; of several with one name the last counts. -/
def ofMembers (members : List (String × Json)) : Json :=
  .object (members.foldl (fun all (name, value) => insertMember name value all) [])

def find? (name : String) (members : List (String × Json)) : Option Json :=
  (members.find? fun (other, _) => other == name).map (·.2)

def ofOption : Option Json → Json
  | none => .null
  | some value => value

def members? : Json → Option (List (String × Json))
  | .object members => some members
  | _ => none

def items? : Json → Option (List Json)
  | .list items => some items
  | _ => none

def text? : Json → Option String
  | .text s => some s
  | _ => none

def int? : Json → Option Int
  | .number (.whole i) => some i
  | _ => none

/-- An object with one member more, in exchange for an older one of that name. -/
def withMember (json : Json) (name : String) (value : Json) : Json :=
  match json with
  | .object members => .object (insertMember name value members)
  | other => other

theorem find?_insertMember_self (name : String) (value : Json) (members : List (String × Json)) :
    find? name (insertMember name value members) = some value := by
  induction members with
  | nil => simp [insertMember, find?]
  | cons member rest ih =>
    obtain ⟨other, old⟩ := member
    simp only [insertMember]
    split
    · simp [find?]
    · split
      · simp [find?]
      · next different =>
        have ne : (other == name) = false := by simpa using fun e : other = name => different e.symm
        simpa [find?, ne] using ih

theorem find?_insertMember_ne {name other : String} (different : other ≠ name) (value : Json)
    (members : List (String × Json)) :
    find? other (insertMember name value members) = find? other members := by
  have skip : (name == other) = false := by simpa using Ne.symm different
  induction members with
  | nil => simp [insertMember, find?, skip]
  | cons member rest ih =>
    obtain ⟨first, old⟩ := member
    simp only [insertMember]
    split
    · simp [find?, skip]
    · split
      · next same => subst same; simp [find?, skip]
      · simp only [find?, List.find?_cons] at ih ⊢
        split
        · rfl
        · exact ih

end Json

end AgentFacts
