import AgentFacts.Database.EnvelopeSelect
import Mathlib.Data.List.Basic

namespace AgentFacts

/-- The clauses of a selection, as words. A condition has a column, an operator and an operand. -/
structure SelectClauses where
  conditions : List (String × String × String)
  limit : Option String
  offset : Option String
deriving DecidableEq

namespace SelectClauses

/-- The words of a text, apart by blanks. -/
def words (text : String) : List String :=
  (text.toList.splitOn ' ').map String.ofList

def header : List String :=
  ["SELECT", "id,", "source,", "event_type,", "payload,", "received_at", "FROM", "envelopes",
    "WHERE", "1=1"]

def order : List String :=
  ["ORDER", "BY", "id", "ASC"]

/-- The conditions at the head of some words, and the words after them. -/
def readConditions : List String → List (String × String × String) × List String
  | "AND" :: column :: operator :: operand :: rest =>
    let (more, tail) := readConditions rest
    ((column, operator, operand) :: more, tail)
  | rest => ([], rest)

/-- Limit and offset. -/
def readBounds? : List String → Option (Option String × Option String)
  | [] => some (none, none)
  | ["LIMIT", limit] => some (some limit, none)
  | ["OFFSET", offset] => some (none, some offset)
  | ["LIMIT", limit, "OFFSET", offset] => some (some limit, some offset)
  | _ => none

def read? (text : String) : Option SelectClauses := do
  let (conditions, rest) := readConditions (← (words text).dropPrefix? header)
  let (limit, offset) ← readBounds? (← rest.dropPrefix? order)
  return ⟨conditions, limit, offset⟩

end SelectClauses

/-- The operator of a comparison. -/
def Comparison.operator : Comparison → String
  | .equal => "="
  | .anyOf => "="
  | .greater => ">"
  | .atLeast => ">="
  | .atMost => "<="

/-- What is on the right of the operator. -/
def Comparison.operand (placeholder : String) : Comparison → String
  | .anyOf => "ANY(" ++ placeholder ++ ")"
  | _ => placeholder

namespace EnvelopeSelect

open SelectClauses

/-- A condition as words. -/
def clause (c : Condition) : String × String × String :=
  (c.column.text, c.comparison.operator, c.comparison.operand (placeholder c.placeholder))

/-- The clauses of a selection as they ought to be read. -/
def clauses (s : EnvelopeSelect) : SelectClauses where
  conditions := s.conditions.map clause
  limit := s.limit.map placeholder
  offset := s.offset.map placeholder

/-- Words, each with a blank before it. -/
def spaced (ws : List String) : List Char :=
  ws.flatMap fun w => ' ' :: w.toList

def conditionWords (c : Condition) : List String :=
  ["AND", (clause c).1, (clause c).2.1, (clause c).2.2]

def boundWords (name : String) : Option Nat → List String
  | none => []
  | some number => [name, placeholder number]

theorem spaced_append (ws ws' : List String) : spaced (ws ++ ws') = spaced ws ++ spaced ws' :=
  List.flatMap_append

theorem toList_conditionText (c : Condition) :
    (conditionText c).toList = spaced (conditionWords c) := by
  obtain ⟨column, comparison, number⟩ := c
  cases comparison <;>
    simp [conditionText, conditionWords, clause, spaced, Comparison.text, Comparison.operator,
      Comparison.operand]

theorem toList_boundText (name : String) (bound : Option Nat) :
    (boundText name bound).toList = spaced (boundWords name bound) := by
  cases bound <;> simp [boundText, boundWords, spaced]

/-- The words that a text consists of. -/
def textWords (s : EnvelopeSelect) : List String :=
  header ++ (s.conditions.flatMap conditionWords ++ (order ++
    (boundWords "LIMIT" s.limit ++ boundWords "OFFSET" s.offset)))

theorem toList_text (s : EnvelopeSelect) :
    ' ' :: s.text.toList = spaced s.textWords := by
  have hjoin : (String.join (s.conditions.map conditionText)).toList =
      spaced (s.conditions.flatMap conditionWords) := by
    rw [String.toList_join, List.flatMap_map]
    unfold spaced
    rw [List.flatMap_assoc]
    exact List.flatMap_congr fun c _ => toList_conditionText c
  have hhead : ' ' :: ("SELECT " ++ columns ++ " FROM envelopes WHERE 1=1").toList =
      spaced header := by
    decide
  have horder : " ORDER BY id ASC".toList = spaced order := by decide
  unfold text textWords
  simp only [String.toList_append, toList_boundText, hjoin, horder, spaced_append,
    List.append_assoc] at hhead ⊢
  rw [← hhead]
  simp only [List.cons_append, List.append_assoc]

theorem toList_placeholder (number : Nat) :
    (placeholder number).toList = '$' :: Nat.toDigits 10 number := by
  have hdigits : (toString number).toList = Nat.toDigits 10 number := by
    rw [Nat.toString_eq_repr, Nat.repr_eq_ofList_toDigits, String.toList_ofList]
  unfold placeholder
  rw [String.toList_append, hdigits]
  rfl

/-- The number of a placeholder is made of digits. -/
theorem placeholder_blankless (number : Nat) : ' ' ∉ (placeholder number).toList := by
  have hdigit : ' ' ∉ Nat.toDigits 10 number := fun h =>
    absurd (Nat.isDigit_of_mem_toDigits (by omega) (by omega) h) (by decide)
  rw [toList_placeholder]
  exact List.not_mem_cons_of_ne_of_not_mem (by decide) hdigit

theorem conditionWords_blankless {c : Condition} {w : String} (h : w ∈ conditionWords c) :
    ' ' ∉ w.toList := by
  obtain ⟨column, comparison, number⟩ := c
  simp only [conditionWords, clause, List.mem_cons, List.not_mem_nil, or_false] at h
  rcases h with rfl | rfl | rfl | rfl
  · decide
  · cases column <;> decide
  · cases comparison <;> decide
  · have hnumber := placeholder_blankless number
    cases comparison <;> simpa [Comparison.operand] using hnumber

theorem boundWords_blankless {name : String} (hname : ' ' ∉ name.toList) {bound : Option Nat}
    {w : String} (h : w ∈ boundWords name bound) : ' ' ∉ w.toList := by
  cases bound with
  | none => cases h
  | some number =>
    rcases List.mem_cons.1 h with rfl | h
    · exact hname
    · rw [List.mem_singleton.1 h]
      exact placeholder_blankless number

theorem textWords_blankless (s : EnvelopeSelect) : ∀ w ∈ s.textWords, ' ' ∉ w.toList := by
  intro w hw
  rcases List.mem_append.1 hw with hw | hw
  · exact (by decide : ∀ w ∈ header, ' ' ∉ w.toList) w hw
  rcases List.mem_append.1 hw with hw | hw
  · obtain ⟨c, -, hc⟩ := List.mem_flatMap.1 hw
    exact conditionWords_blankless hc
  rcases List.mem_append.1 hw with hw | hw
  · exact (by decide : ∀ w ∈ order, ' ' ∉ w.toList) w hw
  rcases List.mem_append.1 hw with hw | hw
  · exact boundWords_blankless (by decide) hw
  · exact boundWords_blankless (by decide) hw

theorem spaced_cons (w : String) (ws : List String) :
    spaced (w :: ws) = ' ' :: [' '].intercalate ((w :: ws).map String.toList) := by
  induction ws generalizing w with
  | nil => simp [spaced]
  | cons w' ws ih =>
    have hcons : spaced (w :: w' :: ws) = ' ' :: w.toList ++ spaced (w' :: ws) := rfl
    rw [hcons, ih w', List.map_cons, List.map_cons, List.map_cons, List.intercalate_cons_cons,
      List.append_assoc]
    rfl

theorem words_text (s : EnvelopeSelect) : words s.text = s.textWords := by
  have htext : s.text.toList = [' '].intercalate (s.textWords.map String.toList) :=
    (List.cons.inj (s.toList_text.trans (spaced_cons _ _))).2
  unfold words
  rw [htext, List.splitOn_intercalate _ (by simpa using s.textWords_blankless) (by nofun),
    List.map_map]
  exact List.map_id'' (fun w => String.ofList_toList) _

theorem readConditions_text (conditions : List Condition) (rest : List String) :
    readConditions (conditions.flatMap conditionWords ++ (order ++ rest)) =
      (conditions.map clause, order ++ rest) := by
  induction conditions with
  -- The order does not begin with `AND`, so the conditions end before it.
  | nil => rfl
  | cons c conditions ih =>
    rw [List.flatMap_cons, List.append_assoc]
    have hread : ∀ more, readConditions (conditionWords c ++ more) =
        (clause c :: (readConditions more).1, (readConditions more).2) := fun _ => rfl
    rw [hread, ih]
    rfl

theorem readBounds?_text (limit offset : Option Nat) :
    readBounds? (boundWords "LIMIT" limit ++ boundWords "OFFSET" offset) =
      some (limit.map placeholder, offset.map placeholder) := by
  cases limit <;> cases offset <;> rfl

theorem dropPrefix?_append (before rest : List String) :
    (before ++ rest).dropPrefix? before = some rest :=
  List.dropPrefix?_eq_some_iff.2 ⟨before, rfl, beq_self_eq_true _⟩

/-- The text of a selection reads as what it is the text of. -/
theorem read?_text (s : EnvelopeSelect) : SelectClauses.read? s.text = some s.clauses := by
  unfold read?
  rw [words_text]
  unfold textWords
  simp only [dropPrefix?_append, Option.bind_eq_bind, Option.bind_some]
  rw [readConditions_text]
  simp only [dropPrefix?_append, Option.bind_some, readBounds?_text]
  rfl

end EnvelopeSelect

end AgentFacts
