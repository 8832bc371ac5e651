import AgentFacts.Database.Statement
import AgentFacts.Proofs.SelectText
import AgentFacts.Proofs.Staleness
import Mathlib.Data.List.Nodup

namespace AgentFacts

/-- Why a selection gives no rows. -/
inductive SelectFault where
  | malformed
  | negative
deriving DecidableEq

theorem Instant.not_le {a b : Instant} : ¬ a ≤ b ↔ b < a := by
  obtain ⟨s, n⟩ := a
  obtain ⟨s', n'⟩ := b
  change ¬ (s < s' ∨ s = s' ∧ n ≤ n') ↔ s' < s ∨ s' = s ∧ n' < n
  omega

namespace EnvelopeQuery

/-- The comparisons that a query asks for, each with the value on its right. -/
def comparisons (q : EnvelopeQuery) : List ((EnvelopeColumn × Comparison) × Param) :=
  (q.source.map fun source => ((.source, .equal), .text source.text)).toList ++
    (q.eventTypes.map fun types =>
      ((.eventType, .anyOf), .texts (types.map EventType.text))).toList ++
    (q.after.map fun id => ((.id, .greater), .int id.value)).toList ++
    (q.earliest.map fun time => ((.receivedAt, .atLeast), .ofInstant time)).toList ++
    (q.latest.map fun time => ((.receivedAt, .atMost), .ofInstant time)).toList

/-- The first placeholder is for the first value, and so on. -/
def numbered (asked : List ((EnvelopeColumn × Comparison) × Param)) : List Condition :=
  (asked.zipIdx 1).map fun (((column, comparison), _), number) => ⟨column, comparison, number⟩

end EnvelopeQuery

/-- What has been written are the conditions for some comparisons, and nothing else. -/
def SelectDraft.Writes (d : SelectDraft)
    (asked : List ((EnvelopeColumn × Comparison) × Param)) : Prop :=
  d = ⟨⟨EnvelopeQuery.numbered asked, none, none⟩, asked.length⟩

theorem SelectDraft.Writes.condition {d : SelectDraft}
    {asked : List ((EnvelopeColumn × Comparison) × Param)} (h : d.Writes asked)
    {column : EnvelopeColumn} {comparison : Comparison} (o : Option α) (value : α → Param) :
    (d.condition column comparison o).Writes
      (asked ++ (o.map fun a => ((column, comparison), value a)).toList) := by
  obtain rfl := h
  cases o with
  | none =>
    rw [Option.map_none, Option.toList_none, List.append_nil]
    rfl
  | some a =>
    simp [Writes, SelectDraft.condition, EnvelopeQuery.numbered, List.zipIdx_append, Nat.add_comm]

namespace EnvelopeQuery

theorem writes_conditions (q : EnvelopeQuery) : q.conditions.Writes q.comparisons := by
  have hempty : SelectDraft.empty.Writes [] := rfl
  exact ((((hempty.condition q.source _).condition q.eventTypes _).condition q.after
    _).condition q.earliest _).condition q.latest _

theorem select_eq (q : EnvelopeQuery) :
    let next := q.comparisons.length + 1
    q.select = {
      conditions := numbered q.comparisons
      limit := q.limit.map fun _ => next
      offset := q.offset.map fun _ => if q.limit.isSome then next + 1 else next } := by
  have hwrites := q.writes_conditions
  unfold SelectDraft.Writes at hwrites
  unfold select
  rw [hwrites]
  cases q.limit <;> cases q.offset <;> rfl

/-- What is bound to the placeholders are the values of the comparisons, and then the bounds. -/
theorem params_eq (q : EnvelopeQuery) : q.params =
    q.comparisons.map (·.2) ++ (q.limit.map Param.ofUInt64).toList ++
      (q.offset.map Param.ofUInt64).toList := by
  have hoption : ∀ {α : Type} (o : Option α)
      (f : α → (EnvelopeColumn × Comparison) × Param),
      (o.map f).toList.map (·.2) = (o.map fun a => (f a).2).toList := by
    intro α o f
    cases o <;> rfl
  unfold params comparisons
  simp only [List.map_append, hoption]

end EnvelopeQuery

namespace SelectClauses

def column? (e : Envelope) : String → Option Param
  | "id" => some (.int e.id.value)
  | "source" => some (.text e.source.text)
  | "event_type" => some (.text e.eventType.text)
  | "received_at" => some (.timestamptz e.receivedAt)
  | _ => none

def order? : Param → Param → Option Ordering
  | .int a, .int b => some (compareOfLessAndEq a b)
  | .text a, .text b => some (compareOfLessAndEq a b)
  | .timestamptz a, .timestamptz b => some (compareOfLessAndEq a b)
  | _, _ => none

def meets? (operator : String) (o : Ordering) : Option Bool :=
  match operator with
  | "=" => some o.isEq
  | "<" => some o.isLT
  | "<=" => some o.isLE
  | ">" => some o.isGT
  | ">=" => some o.isGE
  | _ => none

/-- The value that is bound to the placeholder with some number, the first one to number 1. -/
def bound? (params : List Param) (digits : List Char) : Option Param :=
  if digits.all Char.isDigit then
    match Nat.ofDigitChars 10 digits 0 with
    | 0 => none
    | number + 1 => params[number]?
  else none

/-- What an operand stands for: a value, or several of which any will do. -/
def operand? (params : List Param) (word : String) : Option (List Param) :=
  match word.toList with
  | '$' :: digits => (bound? params digits).map fun value => [value]
  | 'A' :: 'N' :: 'Y' :: '(' :: '$' :: rest =>
    match rest.getLast?, bound? params rest.dropLast with
    | some ')', some (.texts values) => some (values.map .text)
    | _, _ => none
  | _ => none

def compares? (value : Param) (operator : String) (others : List Param) : Option Bool :=
  let results := others.map fun other => (order? value other).bind (meets? operator)
  if results.contains none then none else some (results.contains (some true))

def holds? (params : List Param) (e : Envelope) :
    String × String × String → Option Bool
  | (column, operator, operand) => do
    compares? (← column? e column) operator (← operand? params operand)

def count? (params : List Param) : Option String → Except SelectFault (Option Nat)
  | none => .ok none
  | some word =>
    match operand? params word with
    | some [.int i] => if i < 0 then .error .negative else .ok (some i.toNat)
    | _ => .error .malformed

/-- Whether one envelope may stand before another one. -/
def ascends (a b : Envelope) : Bool :=
  decide (a.id ≤ b.id)

/-- The rows that satisfy all conditions, in order of their ids, after an offset and up to a
limit. -/
def select (c : SelectClauses) (params : List Param) (table : List Envelope) :
    Except SelectFault (List Envelope) :=
  if table.any fun e => (c.conditions.map (holds? params e)).contains none then .error .malformed
  else do
    let rows := table.filter fun e => (c.conditions.map (holds? params e)).all (· == some true)
    let limit ← count? params c.limit
    let offset ← count? params c.offset
    let rest := (rows.mergeSort ascends).drop (offset.getD 0)
    return limit.elim rest rest.take

/-- What a text selects from a table with values for its placeholders. -/
def answer (text : String) (params : List Param) (table : List Envelope) :
    Except SelectFault (List Envelope) :=
  match read? text with
  | none => .error .malformed
  | some c => c.select params table

section Operands

variable {params : List Param}

theorem bound?_toDigits (params : List Param) (number : Nat) :
    bound? params (Nat.toDigits 10 (number + 1)) = params[number]? := by
  have hdigits : (Nat.toDigits 10 (number + 1)).all Char.isDigit = true :=
    List.all_eq_true.2 fun c hc => Nat.isDigit_of_mem_toDigits (by omega) (by omega) hc
  unfold bound?
  rw [if_pos hdigits, Nat.ofDigitChars_toDigits (by omega) (by omega)]

/-- The values that a bound one stands for on the right of a comparison. -/
def values? : Comparison → Param → Option (List Param)
  | .anyOf, .texts values => some (values.map .text)
  | .anyOf, _ => none
  | _, value => some [value]

theorem operand?_placeholder (params : List Param) (number : Nat) :
    operand? params (EnvelopeSelect.placeholder (number + 1)) =
      params[number]?.map fun value => [value] := by
  unfold operand?
  rw [EnvelopeSelect.toList_placeholder]
  simp only [bound?_toDigits]

/-- The operand of a comparison stands for what is bound to its placeholder. -/
theorem operand?_eq (params : List Param) (comparison : Comparison) (number : Nat) :
    operand? params (comparison.operand (EnvelopeSelect.placeholder (number + 1))) =
      params[number]?.bind (values? comparison) := by
  cases comparison with
  | anyOf =>
    have hlist : (Comparison.operand (EnvelopeSelect.placeholder (number + 1)) .anyOf).toList =
        'A' :: 'N' :: 'Y' :: '(' :: '$' :: (Nat.toDigits 10 (number + 1) ++ [')']) := by
      unfold Comparison.operand
      rw [String.toList_append, String.toList_append, EnvelopeSelect.toList_placeholder]
      rfl
    unfold operand?
    rw [hlist]
    simp only [List.getLast?_concat, List.dropLast_concat, bound?_toDigits]
    cases params[number]? with
    | none => rfl
    | some value => cases value <;> rfl
  | _ =>
    refine (operand?_placeholder params number).trans ?_
    cases params[number]? <;> rfl

end Operands

/-- Whether a comparison with a value holds of an envelope. -/
def meaning? (e : Envelope) (c : (EnvelopeColumn × Comparison) × Param) : Option Bool := do
  compares? (← column? e c.1.1.text) c.1.2.operator (← values? c.1.2 c.2)

section Comparisons

variable {e : Envelope} {c : (EnvelopeColumn × Comparison) × Param}

theorem holds?_clause {params : List Param} {number : Nat} (h : params[number]? = some c.2) :
    holds? params e (EnvelopeSelect.clause ⟨c.1.1, c.1.2, number + 1⟩) = meaning? e c := by
  unfold holds? meaning? EnvelopeSelect.clause
  dsimp only
  rw [operand?_eq, h]
  rfl

theorem isEq_compareOfLessAndEq (a b : String) :
    (compareOfLessAndEq a b).isEq = decide (a = b) := by
  unfold compareOfLessAndEq
  by_cases hlt : a < b
  · have hne : a ≠ b := fun heq => String.lt_irrefl b (heq ▸ hlt)
    simp [hlt, hne]
  · by_cases heq : a = b <;> simp [hlt, heq]

theorem compares?_one (value other : Param) (operator : String) :
    compares? value operator [other] = (order? value other).bind (meets? operator) := by
  unfold compares?
  rw [List.map_singleton]
  cases (order? value other).bind (meets? operator) with
  | none => rfl
  | some holds => cases holds <;> rfl

/-- When every comparison has a meaning, it is enough that one of them holds. -/
theorem compares?_any {value : Param} {operator : String} {others : List α} {other : α → Param}
    {holds : α → Bool}
    (h : ∀ a, (order? value (other a)).bind (meets? operator) = some (holds a)) :
    compares? value operator (others.map other) = some (others.any holds) := by
  have hresults : (others.map other).map (fun o => (order? value o).bind (meets? operator)) =
      (others.map holds).map some := by
    rw [List.map_map, List.map_map]
    exact List.map_congr_left fun a _ => h a
  have hholds : (others.map holds).contains true = others.any holds := by
    rw [Bool.eq_iff_iff]
    simp
  unfold compares?
  rw [hresults, ← hholds]
  simp

theorem meaning?_source (e : Envelope) (source : AgentId) :
    meaning? e ((.source, .equal), .text source.text) = some (source == e.source) := by
  refine (compares?_one (.text e.source.text) (.text source.text) "=").trans ?_
  refine congrArg some ((isEq_compareOfLessAndEq _ _).trans ?_)
  rw [Bool.eq_iff_iff, decide_eq_true_iff, beq_iff_eq]
  exact ⟨fun h => congrArg AgentId.mk h.symm, fun h => congrArg AgentId.text h.symm⟩

theorem meaning?_eventTypes (e : Envelope) (types : List EventType) :
    meaning? e ((.eventType, .anyOf), .texts (types.map EventType.text)) =
      some (types.contains e.eventType) := by
  have hany : compares? (.text e.eventType.text) "=" (types.map fun type => .text type.text) =
      some (types.any fun type => decide (e.eventType.text = type.text)) :=
    compares?_any fun type => congrArg some (isEq_compareOfLessAndEq _ _)
  have hcontains : types.any (fun type => decide (e.eventType.text = type.text)) =
      types.contains e.eventType := by
    rw [List.contains_eq_any_beq]
    refine List.any_congr rfl fun type => ?_
    rw [Bool.eq_iff_iff, decide_eq_true_iff, beq_iff_eq]
    exact ⟨congrArg EventType.mk, congrArg EventType.text⟩
  rw [← hcontains, ← hany]
  change compares? _ "=" ((types.map EventType.text).map Param.text) = _
  rw [List.map_map]
  rfl

theorem meaning?_after (e : Envelope) (id : EnvelopeId) :
    meaning? e ((.id, .greater), .int id.value) = some (decide (id < e.id)) := by
  refine (compares?_one (.int e.id.value) (.int id.value) ">").trans (congrArg some ?_)
  unfold compareOfLessAndEq
  rw [Bool.eq_iff_iff, decide_eq_true_iff, EnvelopeId.lt_iff]
  split
  · simp; omega
  · split <;> simp <;> omega

theorem isGE_compareOfLessAndEq (a b : Instant) :
    (compareOfLessAndEq a b).isGE = decide (b ≤ a) := by
  unfold compareOfLessAndEq
  split
  next hlt => simp [Instant.not_le.2 hlt]
  next hlt =>
    have hle : b ≤ a := Classical.byContradiction fun hle => hlt (Instant.not_le.1 hle)
    split <;> simp [hle]

theorem isLE_compareOfLessAndEq (a b : Instant) :
    (compareOfLessAndEq a b).isLE = decide (a ≤ b) := by
  unfold compareOfLessAndEq
  split
  next hlt => simp [(Instant.le_total a b).resolve_right (Instant.not_le.2 hlt)]
  next hlt =>
    split
    next heq => simp [heq, Instant.le_refl]
    next hne =>
      have hle : b ≤ a := Classical.byContradiction fun hle => hlt (Instant.not_le.1 hle)
      simpa using fun hle' => hne (Instant.le_antisymm hle' hle)

theorem meaning?_earliest (e : Envelope) {time : Instant} (h : time.IsMicros) :
    meaning? e ((.receivedAt, .atLeast), .ofInstant time) =
      some (decide (time ≤ e.receivedAt)) := by
  unfold Param.ofInstant
  rw [Instant.cutToMicros_of_isMicros h, ← isGE_compareOfLessAndEq]
  exact compares?_one (.timestamptz e.receivedAt) (.timestamptz time) ">="

theorem meaning?_latest (e : Envelope) {time : Instant} (h : time.IsMicros) :
    meaning? e ((.receivedAt, .atMost), .ofInstant time) =
      some (decide (e.receivedAt ≤ time)) := by
  unfold Param.ofInstant
  rw [Instant.cutToMicros_of_isMicros h, ← isLE_compareOfLessAndEq]
  exact compares?_one (.timestamptz e.receivedAt) (.timestamptz time) "<="

end Comparisons

section Query

variable {q : EnvelopeQuery} {e : Envelope}

/-- What the conditions of a query come to for an envelope, one after another. -/
def verdicts (q : EnvelopeQuery) (e : Envelope) : List Bool :=
  (q.source.map (· == e.source)).toList ++
    (q.eventTypes.map (·.contains e.eventType)).toList ++
    (q.after.map fun id => decide (id < e.id)).toList ++
    (q.earliest.map fun time => decide (time ≤ e.receivedAt)).toList ++
    (q.latest.map fun time => decide (e.receivedAt ≤ time)).toList

theorem all_verdicts (q : EnvelopeQuery) (e : Envelope) : (verdicts q e).all id = q.admits e := by
  have hoption : ∀ {α : Type} (o : Option α) (f : α → Bool), (o.map f).toList.all id = o.all f := by
    intro α o f
    cases o <;> simp
  unfold verdicts EnvelopeQuery.admits
  simp only [List.all_append, hoption]

/-- The times that a query names are whole microseconds, as a column of timestamps keeps them. -/
def TimesKept (q : EnvelopeQuery) : Prop :=
  (∀ time ∈ q.earliest, time.IsMicros) ∧ ∀ time ∈ q.latest, time.IsMicros

theorem meanings_eq (h : TimesKept q) (e : Envelope) :
    q.comparisons.map (meaning? e) = (verdicts q e).map some := by
  have hoption : ∀ {α : Type} (o : Option α)
      (f : α → (EnvelopeColumn × Comparison) × Param) (g : α → Bool),
      (∀ a ∈ o, meaning? e (f a) = some (g a)) →
        (o.map f).toList.map (meaning? e) = (o.map g).toList.map some := by
    intro α o f g hfg
    cases o with
    | none => rfl
    | some a => exact congrArg (fun x => [x]) (hfg a rfl)
  unfold EnvelopeQuery.comparisons verdicts
  simp only [List.map_append]
  rw [hoption q.source _ _ fun source _ => meaning?_source e source,
    hoption q.eventTypes _ _ fun types _ => meaning?_eventTypes e types,
    hoption q.after _ _ fun id _ => meaning?_after e id,
    hoption q.earliest _ _ fun time ht => meaning?_earliest e (h.1 time ht),
    hoption q.latest _ _ fun time ht => meaning?_latest e (h.2 time ht)]

theorem getElem?_params {i : Nat} {c : (EnvelopeColumn × Comparison) × Param}
    (h : q.comparisons[i]? = some c) : q.params[i]? = some c.2 := by
  have hlt : i < (q.comparisons.map (·.2)).length := by
    rw [List.length_map]
    exact (List.getElem?_eq_some_iff.1 h).1
  rw [q.params_eq, List.append_assoc, List.getElem?_append_left hlt, List.getElem?_map, h]
  rfl

/-- Each condition of the text means what the query asks for. -/
theorem holds?_conditions (q : EnvelopeQuery) (e : Envelope) :
    q.select.clauses.conditions.map (holds? q.params e) = q.comparisons.map (meaning? e) := by
  rw [q.select_eq]
  unfold EnvelopeSelect.clauses EnvelopeQuery.numbered
  dsimp only
  rw [List.map_map, List.map_map]
  refine List.ext_getElem? fun i => ?_
  rw [List.getElem?_map, List.getElem?_map, List.getElem?_zipIdx]
  cases hc : q.comparisons[i]? with
  | none => rfl
  | some c =>
    -- The condition at `i` has placeholder `i + 1`, and what is bound to that is the value at `i`.
    have hholds := holds?_clause (e := e) (getElem?_params hc)
    rw [Option.map_some, Option.map_some, Option.map_some, ← hholds, Nat.add_comm]
    rfl

/-- A number can be sent as a signed one of 64 bits: it is below `2 ^ 63`. -/
def FitsInt64 (n : UInt64) : Prop :=
  n.toNat < 9223372036854775808

instance (n : UInt64) : Decidable (FitsInt64 n) :=
  inferInstanceAs (Decidable (_ < _))

/-- Limit and offset can be sent as they are. -/
def BoundsFit (q : EnvelopeQuery) : Prop :=
  (∀ n ∈ q.limit, FitsInt64 n) ∧ ∀ n ∈ q.offset, FitsInt64 n

theorem toInt_of_fits {n : UInt64} (h : FitsInt64 n) : n.toInt64.toInt = n.toNat := by
  have hbits : n.toInt64.toInt = n.toBitVec.toInt := rfl
  have hnat : n.toBitVec.toNat = n.toNat := rfl
  unfold FitsInt64 at h
  rw [hbits, BitVec.toInt_eq_toNat_cond, if_pos (by omega), hnat]

theorem toInt_of_not_fits {n : UInt64} (h : ¬ FitsInt64 n) : n.toInt64.toInt < 0 := by
  have hbits : n.toInt64.toInt = n.toBitVec.toInt := rfl
  have hnat : n.toBitVec.toNat = n.toNat := rfl
  have hlt := n.toNat_lt
  unfold FitsInt64 at h
  rw [hbits, BitVec.toInt_eq_toNat_cond, if_neg (by omega)]
  omega

/-- What becomes of a bound that is sent as a signed number. -/
def sent : Option UInt64 → Except SelectFault (Option Nat)
  | none => .ok none
  | some n => if FitsInt64 n then .ok (some n.toNat) else .error .negative

theorem count?_placeholder {params : List Param} {number : Nat} {n : UInt64}
    (h : params[number]? = some (.ofUInt64 n)) :
    count? params (some (EnvelopeSelect.placeholder (number + 1))) = sent (some n) := by
  unfold count? sent
  dsimp only
  rw [operand?_placeholder, h]
  unfold Param.ofUInt64
  dsimp only [Option.map_some]
  -- A number of `2 ^ 63` or more turns negative on the way, and is refused as that.
  by_cases hfit : FitsInt64 n
  · rw [if_pos hfit, toInt_of_fits hfit, if_neg (by omega), Int.toNat_natCast]
  · rw [if_neg hfit, if_pos (toInt_of_not_fits hfit)]

theorem count?_limit (q : EnvelopeQuery) :
    count? q.params q.select.clauses.limit = sent q.limit := by
  cases hl : q.limit with
  | none =>
    rw [q.select_eq]
    unfold EnvelopeSelect.clauses
    rw [hl]
    rfl
  | some n =>
    have hparam : q.params[q.comparisons.length]? = some (.ofUInt64 n) := by
      rw [q.params_eq]
      rw [hl, List.append_assoc, List.getElem?_append_right (by simp)]
      simp
    rw [← count?_placeholder hparam]
    rw [q.select_eq]
    unfold EnvelopeSelect.clauses
    rw [hl]
    rfl

theorem count?_offset (q : EnvelopeQuery) :
    count? q.params q.select.clauses.offset = sent q.offset := by
  cases ho : q.offset with
  | none =>
    rw [q.select_eq]
    unfold EnvelopeSelect.clauses
    rw [ho]
    rfl
  | some n =>
    let number := q.comparisons.length + if q.limit.isSome then 1 else 0
    have hparam : q.params[number]? = some (.ofUInt64 n) := by
      rw [q.params_eq]
      cases hl : q.limit <;> simp [number, hl, ho]
    rw [← count?_placeholder hparam]
    rw [q.select_eq]
    unfold EnvelopeSelect.clauses
    rw [ho]
    cases hl : q.limit <;> simp [number, hl]

theorem ascends_trans (a b c : Envelope) (hab : ascends a b = true) (hbc : ascends b c = true) :
    ascends a c = true :=
  decide_eq_true (EnvelopeId.le_trans (of_decide_eq_true hab) (of_decide_eq_true hbc))

theorem ascends_total (a b : Envelope) : (ascends a b || ascends b a) = true := by
  rw [Bool.or_eq_true]
  exact (Int.le_total a.id.value b.id.value).imp decide_eq_true decide_eq_true

theorem mergeSort_of_perm {table es : List Envelope} (h : es.Pairwise (·.id < ·.id))
    (hp : table.Perm es) : table.mergeSort ascends = es := by
  have hnodup : (es.map (·.id)).Nodup := by
    refine List.pairwise_map.2 (h.imp fun hlt heq => ?_)
    exact EnvelopeId.lt_irrefl _ (heq ▸ hlt)
  have hsorted := List.pairwise_mergeSort ascends_trans ascends_total table
  have hperm := (List.mergeSort_perm table ascends).trans hp
  refine hperm.eq_of_pairwise (fun a b ha hb hab hba => ?_) hsorted
    (h.imp fun hlt => decide_eq_true (EnvelopeId.le_of_lt hlt))
  exact List.inj_on_of_nodup_map hnodup (hperm.subset ha) hb
    (EnvelopeId.le_antisymm (of_decide_eq_true hab) (of_decide_eq_true hba))

/-- A selection gives the envelopes that the query admits, from the offset on and up to the limit,
if both can be sent as they are. -/
theorem select_clauses (h : TimesKept q) {es table : List Envelope}
    (hes : es.Pairwise (·.id < ·.id)) (hp : table.Perm es) :
    q.select.clauses.select q.params table = do
      let limit ← sent q.limit
      let offset ← sent q.offset
      let rest := (es.filter q.admits).drop (offset.getD 0)
      return limit.elim rest rest.take := by
  have hresults : ∀ e, q.select.clauses.conditions.map (holds? q.params e) =
      (verdicts q e).map some :=
    fun e => (holds?_conditions q e).trans (meanings_eq h e)
  have hformed : (table.any fun e =>
      (q.select.clauses.conditions.map (holds? q.params e)).contains none) = false := by
    simp [hresults]
  have hadmits : ∀ e, (q.select.clauses.conditions.map (holds? q.params e)).all (· == some true) =
      q.admits e := by
    intro e
    rw [hresults, ← all_verdicts, List.all_map]
    refine List.all_congr rfl fun b => ?_
    cases b <;> rfl
  have hrows : (table.filter q.admits).mergeSort ascends = es.filter q.admits :=
    mergeSort_of_perm (hes.sublist List.filter_sublist) (hp.filter _)
  unfold select
  rw [hformed, if_neg Bool.false_ne_true, count?_limit, count?_offset]
  simp only [hadmits, hrows]

end Query

theorem sent_of_fit {bound : Option UInt64} (h : ∀ n ∈ bound, FitsInt64 n) :
    sent bound = .ok (bound.map UInt64.toNat) := by
  cases bound with
  | none => rfl
  | some n => exact if_pos (h n rfl)

theorem sent_of_not_fit {bound : Option UInt64} (h : ¬ ∀ n ∈ bound, FitsInt64 n) :
    sent bound = .error .negative := by
  cases bound with
  | none => exact absurd (fun n hn => by cases hn) h
  | some n => exact if_neg fun hn => h fun m hm => Option.some.inj hm ▸ hn

theorem elim_take_drop (q : EnvelopeQuery) (es : List Envelope) :
    let rest := es.drop ((q.offset.map UInt64.toNat).getD 0)
    (q.limit.map UInt64.toNat).elim rest rest.take = q.stretch es := by
  unfold EnvelopeQuery.stretch
  cases q.offset <;> cases q.limit <;> rfl

/-- A query whose limit and offset can be sent as they are is answered by the database as it is by
the log in memory, whatever the order of the rows; any other one is an error. -/
theorem answer_query (q : EnvelopeQuery) (hq : TimesKept q) (log : EventLog)
    (hasc : log.envelopes.Pairwise (·.id < ·.id)) (table : List Envelope)
    (hp : table.Perm log.envelopes) :
    let s := Statement.readLog (.query q)
    let answered := answer s.text s.params table
    (answered = .ok (log.query q) ↔ BoundsFit q) ∧
      (¬ BoundsFit q → answered = .error .negative) := by
  intro s answered
  have hanswered : answered = do
      let limit ← sent q.limit
      let offset ← sent q.offset
      let rest := (log.envelopes.filter q.admits).drop (offset.getD 0)
      return limit.elim rest rest.take := by
    rw [← select_clauses hq hasc hp]
    change answer q.select.text q.params table = _
    unfold answer
    rw [EnvelopeSelect.read?_text]
  have hfit : BoundsFit q → answered = .ok (log.query q) := by
    intro h
    rw [hanswered, sent_of_fit h.1, sent_of_fit h.2]
    exact congrArg Except.ok (elim_take_drop q _)
  have hunfit : ¬ BoundsFit q → answered = .error .negative := by
    intro h
    rw [hanswered]
    by_cases hl : ∀ n ∈ q.limit, FitsInt64 n
    · rw [sent_of_fit hl, sent_of_not_fit fun ho => h ⟨hl, ho⟩]
      rfl
    · rw [sent_of_not_fit hl]
      rfl
  refine ⟨⟨fun heq => Classical.byContradiction fun h => ?_, hfit⟩, hunfit⟩
  rw [hunfit h] at heq
  cases heq

def everyClause : EnvelopeQuery where
  source := some ⟨"agent"⟩
  eventTypes := some [.hostDiscovered, .hostHeartbeat]
  after := some ⟨1⟩
  earliest := some ⟨5, 1000⟩
  latest := some ⟨9, 0⟩
  limit := some 2
  offset := some 1

def allOf : EnvelopeQuery :=
  { EnvelopeQuery.all with limit := some 9223372036854775808 }

/-- The rows come in another order than they are kept in the log. -/
theorem answer_query_every_clause :
    let report := fun id second => NewEnvelope.withId
      ⟨⟨"agent"⟩, .hostHeartbeat, .null, ⟨second, 1000⟩⟩ ⟨id⟩
    let log : EventLog := ⟨[report 1 5, report 2 5, report 4 6, report 5 7, report 6 8]⟩
    let s := Statement.readLog (.query everyClause)
    answer s.text s.params log.envelopes.reverse = .ok (log.query everyClause) ∧
      (log.query everyClause).map (·.id.value) = [4, 5] := by
  intro report log s
  have hkept : TimesKept everyClause :=
    ⟨fun _ h => by cases h; exact ⟨by decide, by decide⟩,
      fun _ h => by cases h; exact ⟨by decide, by decide⟩⟩
  have hfit : BoundsFit everyClause :=
    ⟨fun _ h => by cases h; decide, fun _ h => by cases h; decide⟩
  have h := answer_query everyClause hkept log (by decide) log.envelopes.reverse
    (List.reverse_perm _)
  exact ⟨h.1.2 hfit, by decide⟩

/-- In memory a limit of `2 ^ 63` is none at all; sent to the database, it is below zero. -/
theorem limit_not_answered :
    let s := Statement.readLog (.query allOf)
    let log : EventLog := ⟨[NewEnvelope.withId ⟨⟨"agent"⟩, .hostHeartbeat, .null, ⟨5, 0⟩⟩ ⟨1⟩]⟩
    log.query allOf = log.envelopes ∧
      answer s.text s.params log.envelopes ≠ .ok (log.query allOf) := by
  intro s log
  have hnone : (answer s.text s.params log.envelopes).toOption.isNone = true := by decide +kernel
  refine ⟨rfl, fun heq => ?_⟩
  rw [heq] at hnone
  cases hnone

end SelectClauses

end AgentFacts
