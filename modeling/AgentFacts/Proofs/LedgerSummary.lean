import Mathlib.Data.List.Induction
import Mathlib.Order.Bounds.Defs
import AgentFacts.Proofs.Alone
import AgentFacts.Proofs.Serializable

namespace AgentFacts

section Greatest

variable {α : Type} [LE α] {as bs : List α} {a b : α}

theorem isGreatest_singleton (hrefl : ∀ a : α, a ≤ a) (a : α) : IsGreatest {x | x ∈ [a]} a := by
  refine ⟨List.mem_singleton.2 rfl, fun x hx => ?_⟩
  rw [List.mem_singleton.1 hx]
  exact hrefl a

theorem isGreatest_snoc [DecidableLE α] (hrefl : ∀ a : α, a ≤ a)
    (htrans : ∀ {a b c : α}, a ≤ b → b ≤ c → a ≤ c) (htotal : ∀ a b : α, a ≤ b ∨ b ≤ a)
    (h : IsGreatest {x | x ∈ as} a) :
    IsGreatest {x | x ∈ as ++ [b]} (if a ≤ b then b else a) := by
  split
  next hle =>
    refine ⟨List.mem_append_right _ (List.mem_singleton.2 rfl), fun x hx => ?_⟩
    rcases List.mem_append.1 hx with hx | hx
    · exact htrans (h.2 hx) hle
    · rw [List.mem_singleton.1 hx]
      exact hrefl b
  next hle =>
    refine ⟨List.mem_append_left _ h.1, fun x hx => ?_⟩
    rcases List.mem_append.1 hx with hx | hx
    · exact h.2 hx
    · rw [List.mem_singleton.1 hx]
      exact (htotal a b).resolve_left hle

theorem isGreatest_unique (hantisymm : ∀ {a b : α}, a ≤ b → b ≤ a → a = b)
    (ha : IsGreatest {x | x ∈ as} a) (hb : IsGreatest {x | x ∈ bs} b)
    (hsame : ∀ x, x ∈ as ↔ x ∈ bs) : a = b :=
  hantisymm (hb.2 ((hsame a).1 ha.1)) (ha.2 ((hsame b).2 hb.1))

end Greatest

/-- The greatest of some ids, as long as there are any. -/
def EnvelopeId.NewestOf (ids : List EnvelopeId) : Option EnvelopeId → Prop
  | none => ids = []
  | some newest => IsGreatest {id | id ∈ ids} newest

theorem EnvelopeId.NewestOf.unique {ids ids' : List EnvelopeId} {last last' : Option EnvelopeId}
    (h : NewestOf ids last) (h' : NewestOf ids' last') (hsame : ∀ id, id ∈ ids ↔ id ∈ ids') :
    last = last' := by
  cases last with
  | none =>
    cases last' with
    | none => rfl
    | some newest' =>
      have hnone : ids = [] := h
      have hm := (hsame newest').2 (h' : IsGreatest _ _).1
      rw [hnone] at hm
      cases hm
  | some newest =>
    cases last' with
    | none =>
      have hnone : ids' = [] := h'
      have hm := (hsame newest).1 (h : IsGreatest _ _).1
      rw [hnone] at hm
      cases hm
    | some newest' => exact congrArg some (isGreatest_unique EnvelopeId.le_antisymm h h' hsame)

/-- The last of some ascending ids is the greatest. -/
theorem EnvelopeId.newestOf_getLast? {ids : List EnvelopeId} (h : ids.Pairwise (· < ·)) :
    NewestOf ids ids.getLast? := by
  cases hl : ids.getLast? with
  | none => exact List.getLast?_eq_none_iff.1 hl
  | some last => exact ⟨List.mem_of_getLast? hl, fun id hm => le_of_getLast? h hl hm⟩

namespace OutcomeRecord

def successes (records : List OutcomeRecord) : List EnvelopeId :=
  (records.filter (·.outcome.isSuccess)).map (·.envelope)

def ofPair (key : LedgerKey) (records : List OutcomeRecord) : List OutcomeRecord :=
  records.filter fun r => decide (r.key = key)

end OutcomeRecord

namespace Subscription

def key (row : Subscription) : LedgerKey :=
  ⟨row.source, row.eventType⟩

/-- A row tells of the outcomes of its pair, in the order in which they have been noted. -/
structure Tells (row : Subscription) (records : List OutcomeRecord) : Prop where
  lastEnvelope : EnvelopeId.NewestOf (OutcomeRecord.successes records) row.lastEnvelope
  lastProcessedAt : IsGreatest {t | t ∈ records.map (·.processedAt)} row.lastProcessedAt
  outcome : records.getLast?.map (·.outcome) = some row.outcome
  stale : ∀ id, row.isStale id = true ↔
    ∃ r ∈ records, r.outcome = .success ∧ id ≤ r.envelope

/-- What a row says whatever the order of its outcomes. -/
def tolerant (row : Subscription) : Option EnvelopeId × Instant × (EnvelopeId → Bool) :=
  (row.lastEnvelope, row.lastProcessedAt, row.isStale)

end Subscription

def ReadModels.ledgerRows (m : ReadModels) : List Subscription :=
  m.answer .subscriptions

/-- The ledger sums up some outcomes. -/
structure ReadModels.SumsUp (m : ReadModels) (records : List OutcomeRecord) : Prop where
  /-- By agent and event type, and none of the pairs twice. -/
  ascending : m.ledgerRows.Pairwise fun row later => compare row.key later.key = .lt
  pairs : ∀ key, key ∈ m.ledgerRows.map (·.key) ↔ key ∈ records.map (·.key)
  rows : ∀ row ∈ m.ledgerRows, row.Tells (OutcomeRecord.ofPair row.key records)
  /-- Whoever asks for the row of a pair finds it. -/
  finds : ∀ key row, m.subscription? key.source key.eventType = some row ↔
    row ∈ m.ledgerRows ∧ row.key = key

namespace OutcomeRecord

variable {records : List OutcomeRecord} {r : OutcomeRecord} {key : LedgerKey} {id : EnvelopeId}

theorem mem_successes :
    id ∈ successes records ↔ ∃ r ∈ records, r.outcome = .success ∧ r.envelope = id := by
  have hs : ∀ outcome : Outcome, outcome.isSuccess = true ↔ outcome = .success := by
    intro outcome
    cases outcome <;> simp [Outcome.isSuccess]
  simp [successes, hs, and_assoc]

theorem successes_snoc (records : List OutcomeRecord) (r : OutcomeRecord) :
    successes (records ++ [r]) =
      successes records ++ if r.outcome.isSuccess then [r.envelope] else [] := by
  unfold successes
  rw [List.filter_append, List.map_append]
  split
  next h => simp [h]
  next h => simp [h]

theorem mem_ofPair : r ∈ ofPair key records ↔ r ∈ records ∧ r.key = key := by
  simp [ofPair]

theorem ofPair_snoc (key : LedgerKey) (records : List OutcomeRecord) (r : OutcomeRecord) :
    ofPair key (records ++ [r]) = ofPair key records ++ if r.key = key then [r] else [] := by
  unfold ofPair
  rw [List.filter_append]
  split
  next h => simp [h]
  next h => simp [h]

end OutcomeRecord

namespace Subscription

variable {row : Subscription} {records : List OutcomeRecord} {key : LedgerKey}

/-- The row that some outcomes of one pair come to, noted one after another. -/
def ofRecords : List OutcomeRecord → Option Subscription
  | [] => none
  | first :: rest => some (rest.foldl apply (ofRecord first))

theorem ofRecords_snoc (records : List OutcomeRecord) (r : OutcomeRecord) :
    ofRecords (records ++ [r]) =
      some (match ofRecords records with
        | none => ofRecord r
        | some row => row.apply r) := by
  cases records with
  | nil => rfl
  | cons first rest => simp [ofRecords, List.foldl_append]

/-- A row keeps the pair that its first outcome is about. -/
theorem key_of_ofRecords (h : ofRecords records = some row) (hk : ∀ r ∈ records, r.key = key) :
    row.key = key := by
  induction records using List.reverseRecOn generalizing row with
  | nil => cases h
  | append_singleton records r ih =>
    rw [ofRecords_snoc] at h
    obtain rfl := Option.some.inj h
    split
    · exact hk r (by simp)
    next old hold =>
      have hkey : old.key = key := ih hold fun r hr => hk r (List.mem_append_left _ hr)
      exact hkey

theorem isStale_iff (h : EnvelopeId.NewestOf (OutcomeRecord.successes records) row.lastEnvelope)
    (id : EnvelopeId) :
    row.isStale id = true ↔ ∃ r ∈ records, r.outcome = .success ∧ id ≤ r.envelope := by
  unfold isStale
  cases hl : row.lastEnvelope with
  | none =>
    rw [hl] at h
    have hnone : OutcomeRecord.successes records = [] := h
    constructor
    · intro hf
      cases hf
    · rintro ⟨r, hr, hs, -⟩
      have hm : r.envelope ∈ OutcomeRecord.successes records :=
        OutcomeRecord.mem_successes.2 ⟨r, hr, hs, rfl⟩
      rw [hnone] at hm
      cases hm
  | some last =>
    rw [hl] at h
    have hgreatest : IsGreatest {id | id ∈ OutcomeRecord.successes records} last := h
    simp only [decide_eq_true_eq]
    constructor
    · intro hle
      obtain ⟨r, hr, hs, rfl⟩ := OutcomeRecord.mem_successes.1 hgreatest.1
      exact ⟨r, hr, hs, hle⟩
    · rintro ⟨r, hr, hs, hle⟩
      exact EnvelopeId.le_trans hle
        (hgreatest.2 (OutcomeRecord.mem_successes.2 ⟨r, hr, hs, rfl⟩))

theorem tells_ofRecord (r : OutcomeRecord) : (ofRecord r).Tells [r] := by
  have hlast : EnvelopeId.NewestOf (OutcomeRecord.successes [r]) (ofRecord r).lastEnvelope := by
    have hsnoc := OutcomeRecord.successes_snoc [] r
    rw [List.nil_append] at hsnoc
    rw [hsnoc]
    unfold ofRecord
    dsimp only
    split
    · exact isGreatest_singleton EnvelopeId.le_refl r.envelope
    · rfl
  exact ⟨hlast, isGreatest_singleton Instant.le_refl r.processedAt, rfl, isStale_iff hlast⟩

theorem Tells.apply (h : row.Tells records) (r : OutcomeRecord) :
    (row.apply r).Tells (records ++ [r]) := by
  have hlast : EnvelopeId.NewestOf (OutcomeRecord.successes (records ++ [r]))
      (row.apply r).lastEnvelope := by
    have hold := h.lastEnvelope
    rw [OutcomeRecord.successes_snoc]
    unfold Subscription.apply
    dsimp only
    split
    · cases hl : row.lastEnvelope with
      | none =>
        rw [hl] at hold
        have hnone : OutcomeRecord.successes records = [] := hold
        rw [hnone]
        exact isGreatest_singleton EnvelopeId.le_refl r.envelope
      | some last =>
        rw [hl] at hold
        exact isGreatest_snoc EnvelopeId.le_refl EnvelopeId.le_trans EnvelopeId.le_total hold
    · rw [List.append_nil]
      exact hold
  refine ⟨hlast, ?_, by simp [Subscription.apply], isStale_iff hlast⟩
  rw [List.map_append]
  exact isGreatest_snoc Instant.le_refl Instant.le_trans Instant.le_total h.lastProcessedAt

theorem tells_of_ofRecords (h : ofRecords records = some row) : row.Tells records := by
  induction records using List.reverseRecOn generalizing row with
  | nil => cases h
  | append_singleton records r ih =>
    rw [ofRecords_snoc] at h
    obtain rfl := Option.some.inj h
    split
    next hnone =>
      cases records with
      | nil => exact tells_ofRecord r
      | cons first rest => cases hnone
    next old hold => exact (ih hold).apply r

/-- The order of the outcomes shows in nothing but the outcome of the row. -/
theorem Tells.tolerant_eq {row' : Subscription} {records' : List OutcomeRecord}
    (h : row.Tells records) (h' : row'.Tells records') (hsame : ∀ r, r ∈ records ↔ r ∈ records') :
    row.tolerant = row'.tolerant := by
  have hstale : row.isStale = row'.isStale := by
    funext id
    rw [Bool.eq_iff_iff, h.stale, h'.stale]
    simp only [hsame]
  have htime : row.lastProcessedAt = row'.lastProcessedAt :=
    isGreatest_unique Instant.le_antisymm h.lastProcessedAt h'.lastProcessedAt fun t => by
      simp only [List.mem_map, hsame]
  have hlast : row.lastEnvelope = row'.lastEnvelope := by
    have hmem : ∀ id, id ∈ OutcomeRecord.successes records ↔
        id ∈ OutcomeRecord.successes records' := fun id => by
      simp only [OutcomeRecord.mem_successes, hsame]
    exact EnvelopeId.NewestOf.unique h.lastEnvelope h'.lastEnvelope hmem
  unfold tolerant
  rw [hlast, htime, hstale]

end Subscription

def Edit.record? : Edit → Option OutcomeRecord
  | .write _ => none
  | .record r => some r

namespace ReadModels

variable {m m' : ReadModels} {records records' : List OutcomeRecord}

/-- The ledger tells of a pair what has been noted of it, and changes to other rows do not
matter. -/
theorem ledger_editAll (edits : List Edit) (key : LedgerKey) :
    (editAll .empty edits).ledger.get? key =
      Subscription.ofRecords (OutcomeRecord.ofPair key (edits.filterMap Edit.record?)) := by
  induction edits using List.reverseRecOn with
  | nil => rfl
  | append_singleton edits edit ih =>
    have hstep : editAll .empty (edits ++ [edit]) = (editAll .empty edits).edit edit :=
      List.foldl_append
    rw [hstep, List.filterMap_append]
    cases edit with
    | write w =>
      change ((editAll .empty edits).write w).ledger.get? key = _
      change _ = Subscription.ofRecords (OutcomeRecord.ofPair key (_ ++ []))
      rw [ledger_write, ih, List.append_nil]
    | record r =>
      change ((editAll .empty edits).record r).ledger.get? key = _
      change _ = Subscription.ofRecords (OutcomeRecord.ofPair key (_ ++ [r]))
      rw [OutcomeRecord.ofPair_snoc]
      by_cases hk : r.key = key
      · subst hk
        rw [ledger_record_self, if_pos rfl, Subscription.ofRecords_snoc, ← ih]
        rfl
      · rw [ledger_record_ne (Ne.symm hk), if_neg hk, List.append_nil]
        exact ih

theorem sumsUp_of_ledger (h : ∀ key,
    m.ledger.get? key = Subscription.ofRecords (OutcomeRecord.ofPair key records)) :
    m.SumsUp records := by
  have hkey : ∀ {key row}, m.ledger.get? key = some row → row.key = key := by
    intro key row hrow
    exact Subscription.key_of_ofRecords ((h key).symm.trans hrow) fun r hr =>
      (OutcomeRecord.mem_ofPair.1 hr).2
  have hrows : ∀ {row}, row ∈ m.ledgerRows ↔ m.ledger.get? row.key = some row := by
    intro row
    constructor
    · intro hm
      obtain ⟨⟨key, row⟩, hentry, rfl⟩ := List.mem_map.1 hm
      have hrow := Table.get?_eq_some_iff.2 hentry
      rw [hkey hrow]
      exact hrow
    · intro hrow
      exact List.mem_map.2 ⟨(row.key, row), Table.get?_eq_some_iff.1 hrow, rfl⟩
  refine ⟨?_, fun key => ?_, fun row hm => ?_, fun key row => ?_⟩
  · refine List.pairwise_map.2 (m.ledger.sorted.imp_of_mem fun ha hb hlt => ?_)
    rw [hkey (Table.get?_eq_some_iff.2 ha), hkey (Table.get?_eq_some_iff.2 hb)]
    exact hlt
  · -- A pair has a row as soon as there is an outcome of it.
    constructor
    · intro hm
      obtain ⟨row, hlisted, rfl⟩ := List.mem_map.1 hm
      have hrow := (h row.key).symm.trans (hrows.1 hlisted)
      cases hp : OutcomeRecord.ofPair row.key records with
      | nil =>
        rw [hp] at hrow
        cases hrow
      | cons r rest =>
        obtain ⟨hr, hk⟩ := OutcomeRecord.mem_ofPair.1 (hp ▸ List.mem_cons_self)
        exact List.mem_map.2 ⟨r, hr, hk⟩
    · intro hm
      obtain ⟨r, hr, rfl⟩ := List.mem_map.1 hm
      cases hp : OutcomeRecord.ofPair r.key records with
      | nil =>
        have hr := OutcomeRecord.mem_ofPair.2 ⟨hr, rfl⟩
        rw [hp] at hr
        cases hr
      | cons first rest =>
        have hrow := h r.key
        rw [hp] at hrow
        have hk := hkey hrow
        exact List.mem_map.2 ⟨_, hrows.2 (by rw [hk]; exact hrow), hk⟩
  · exact Subscription.tells_of_ofRecords ((h row.key).symm.trans (hrows.1 hm))
  · constructor
    · intro hrow
      have hk := hkey hrow
      exact ⟨hrows.2 (by rw [hk]; exact hrow), hk⟩
    · rintro ⟨hm, rfl⟩
      exact hrows.1 hm

/-- Two ledgers that sum up the same outcomes differ in the outcomes of the rows only. -/
theorem SumsUp.tolerant_eq (h : m.SumsUp records) (h' : m'.SumsUp records')
    (hperm : records.Perm records') (key : LedgerKey) :
    (m.subscription? key.source key.eventType).map Subscription.tolerant =
      (m'.subscription? key.source key.eventType).map Subscription.tolerant := by
  have hpairs : key ∈ m.ledgerRows.map (·.key) ↔ key ∈ m'.ledgerRows.map (·.key) := by
    rw [h.pairs, h'.pairs]
    exact (hperm.map _).mem_iff
  cases hrow : m.subscription? key.source key.eventType with
  | none =>
    cases hrow' : m'.subscription? key.source key.eventType with
    | none => rfl
    | some row' =>
      obtain ⟨hm', hk'⟩ := (h'.finds key row').1 hrow'
      obtain ⟨row, hm, hk⟩ := List.mem_map.1 (hpairs.2 (List.mem_map.2 ⟨row', hm', hk'⟩))
      rw [(h.finds key row).2 ⟨hm, hk⟩] at hrow
      cases hrow
  | some row =>
    obtain ⟨hm, rfl⟩ := (h.finds key row).1 hrow
    obtain ⟨row', hm', hk⟩ := List.mem_map.1 (hpairs.1 (List.mem_map.2 ⟨row, hm, rfl⟩))
    rw [(h'.finds row.key row').2 ⟨hm', hk⟩]
    refine congrArg some ((h.rows row hm).tolerant_eq (h'.rows row' hm') fun r => ?_)
    rw [OutcomeRecord.mem_ofPair, OutcomeRecord.mem_ofPair, hk, hperm.mem_iff]

end ReadModels

namespace Clients

variable {c : Clients}

/-- The outcomes that have been noted for good, in the order in which that was done: on their own,
or in a transaction that has been committed. -/
def records (c : Clients) : List OutcomeRecord :=
  c.completed.flatten.filterMap Edit.record?

theorem sumsUp_of_sound (h : Sound c) : c.committed.SumsUp c.records := by
  refine ReadModels.sumsUp_of_ledger fun key => ?_
  have hserial : c.committed = ReadModels.editAll .empty c.completed.flatten :=
    h.serial.trans List.foldl_flatten.symm
  rw [hserial]
  exact ReadModels.ledger_editAll _ key

end Clients

/-- How a client notes outcomes: one on its own, or some in a transaction, which it commits. -/
inductive Posting where
  | alone (task : TaskId) (record : OutcomeRecord)
  | together (task : TaskId) (records : List OutcomeRecord)

namespace Posting

def records : Posting → List OutcomeRecord
  | .alone _ r => [r]
  | .together _ rs => rs

def moves : Posting → List Clients.Move
  | .alone task r => [.call task (.record r)]
  | .together task rs =>
    .call task .begin :: (rs.map fun r => .call task (.recordIn r)) ++ [.call task .commit]

end Posting

/-- A lock that is free is given to whoever asks for it. -/
theorem World.withLock_free {w : World} (hf : w.faults = .none) (hl : w.models.lock = .free)
    (task : TaskId) (site : ModelSite) (run : ModelStore → α × ModelStore) :
    ∃ world, w.withLock task site run = .reply (.ok (run w.models).1) world := by
  have hn : (if w.models.awaits task then ((none : Option (Halt ProjectionError)), w.faults)
      else w.faults.nextModel site) = (none, .none) := by
    rw [hf]
    split <;> rfl
  have hadmits : w.models.admits task = true := by simp [ModelStore.admits, hl]
  unfold withLock
  rw [hn]
  dsimp only
  rw [if_pos hadmits]
  exact ⟨_, rfl⟩

namespace Clients

variable {c : Clients} {task : TaskId}

/-- Nobody has a transaction open or waits for the store. -/
structure Quiet (c : Clients) : Prop where
  sound : Sound c
  unclaimed : c.world.models.Unclaimed
  closed : ∀ task, c.draft task = none

/-- One client has a transaction open, and nobody waits for the store. -/
structure Busy (c : Clients) (task : TaskId) (d : Draft) : Prop where
  sound : Sound c
  unclaimed : c.world.models.Unclaimed
  opened : c.draft task = some d

theorem Quiet.free (h : Quiet c) : c.world.models.lock = .free := by
  cases hl : c.world.models.lock with
  | free => rfl
  | granted owner => exact absurd hl (h.unclaimed.granted owner)
  | held owner copy =>
    exact absurd hl (((h.sound.fits owner).outside (standing_copy_none.2 (h.closed owner))).1 copy)

theorem quiet_fresh (w : World) : Quiet (fresh w) :=
  ⟨sound_fresh w, ⟨rfl, fun owner h => by cases h⟩, fun _ => rfl⟩

theorem Quiet.record (h : Quiet c) (task : TaskId) (r : OutcomeRecord) :
    Quiet (c.step (.call task (.record r))) ∧
      (c.step (.call task (.record r))).completed = c.completed ++ [[.record r]] := by
  obtain ⟨world, ha⟩ := World.withLock_free h.sound.faultless h.free task .record (·.record r)
  have ha : c.world.answer task (.record r) = .reply _ world := ha
  have hsound := step_sound h.sound (.call task (.record r))
  rw [step_reply ha] at hsound ⊢
  have hfree : (c.standing task).allows (.record r) := standing_copy_none.2 (h.closed task)
  refine ⟨⟨hsound, World.answer_unclaimed hfree ha h.unclaimed, fun other => ?_⟩, rfl⟩
  change (c.assign task (c.draft task)).draft other = none
  by_cases ho : other = task
  · subst ho
    rw [assign_self, h.closed]
  · rw [assign_ne ho, h.closed]

theorem Quiet.begin (h : Quiet c) (task : TaskId) :
    Busy (c.step (.call task .begin)) task ⟨c.committed, []⟩ ∧
      (c.step (.call task .begin)).completed = c.completed := by
  obtain ⟨world, ha⟩ := World.withLock_free h.sound.faultless h.free task .begin
    fun models => ((), models.begin task)
  have ha : c.world.answer task .begin = .reply _ world := ha
  have hsound := step_sound h.sound (.call task .begin)
  rw [step_reply ha] at hsound ⊢
  have hfree : (c.standing task).allows .begin := standing_copy_none.2 (h.closed task)
  exact ⟨⟨hsound, World.answer_unclaimed hfree ha h.unclaimed, assign_self c task _⟩,
    List.append_nil _⟩

theorem Busy.recordIn {d : Draft} (h : Busy c task d) (r : OutcomeRecord) :
    Busy (c.step (.call task (.recordIn r))) task (d.extend (.record r)) ∧
      (c.step (.call task (.recordIn r))).completed = c.completed := by
  obtain ⟨reply, world, ha, -⟩ := within_replies h.sound task (k := .recordIn r) rfl
  have hreply : reply = Draft.reply (c.draft task) (·.rowAfter r) :=
    (answered_sound h.sound ha).1
  have hsound := step_sound h.sound (.call task (.recordIn r))
  have hallows : (c.standing task).allows (.recordIn r) := trivial
  have hunclaimed := World.answer_unclaimed hallows ha h.unclaimed
  rw [step_reply ha] at hsound ⊢
  rw [h.opened] at hreply
  subst hreply
  refine ⟨⟨hsound, hunclaimed, ?_⟩, List.append_nil _⟩
  change (c.assign task _).draft task = _
  rw [assign_self, h.opened]
  rfl

theorem Busy.recordAll {d : Draft} (h : Busy c task d) (rs : List OutcomeRecord) :
    Busy (c.play (rs.map fun r => .call task (.recordIn r))) task
        ⟨d.base, d.edits ++ rs.map .record⟩ ∧
      (c.play (rs.map fun r => .call task (.recordIn r))).completed = c.completed := by
  induction rs generalizing c d with
  | nil =>
    rw [List.map_nil, List.map_nil, List.append_nil]
    exact ⟨h, rfl⟩
  | cons r rs ih =>
    obtain ⟨hbusy, hcompleted⟩ := h.recordIn r
    obtain ⟨hbusy', hcompleted'⟩ := ih hbusy
    refine ⟨?_, hcompleted'.trans hcompleted⟩
    have hedits : d.edits ++ Edit.record r :: rs.map .record =
        (d.extend (.record r)).edits ++ rs.map .record := by
      simp [Draft.extend]
    rw [List.map_cons (f := Edit.record), hedits]
    exact hbusy'

theorem Busy.commit {d : Draft} (h : Busy c task d) :
    Quiet (c.step (.call task .commit)) ∧
      (c.step (.call task .commit)).completed = c.completed ++ [d.edits] := by
  obtain ⟨hclosed, hcompleted⟩ : (c.step (.call task .commit)).draft task = none ∧ _ :=
    commit_done h.sound
  obtain ⟨reply, world, ha, -⟩ := within_replies h.sound task (k := .commit) rfl
  have hallows : (c.standing task).allows .commit := trivial
  have hunclaimed := World.answer_unclaimed hallows ha h.unclaimed
  have hsound := step_sound h.sound (.call task .commit)
  rw [h.opened] at hcompleted
  refine ⟨⟨hsound, by rw [step_reply ha]; exact hunclaimed, fun other => ?_⟩, hcompleted⟩
  by_cases ho : other = task
  · subst ho
    exact hclosed
  · -- Nobody else had a transaction open while this client did.
    have hother : c.draft other = none := by
      cases hd : c.draft other with
      | none => rfl
      | some d' =>
        have halone := h.sound.alone (by rw [h.opened]; rfl) (by rw [hd]; rfl)
        exact absurd halone.symm ho
    rw [step_reply ha]
    exact (assign_ne ho _).trans hother

theorem Quiet.posted (h : Quiet c) (p : Posting) :
    Quiet (c.play p.moves) ∧
      (c.play p.moves).completed = c.completed ++ [p.records.map .record] := by
  cases p with
  | alone task r => exact h.record task r
  | together task rs =>
    obtain ⟨hbegun, hcompleted⟩ := h.begin task
    obtain ⟨hbusy, hcompleted'⟩ := hbegun.recordAll rs
    obtain ⟨hquiet, hcompleted''⟩ := hbusy.commit
    have hplay : c.play (Posting.moves (.together task rs)) =
        ((c.step (.call task .begin)).play (rs.map fun r => .call task (.recordIn r))).step
          (.call task .commit) := by
      change (_ ++ [Move.call task .commit]).foldl step (c.step (.call task .begin)) = _
      rw [List.foldl_append]
      rfl
    rw [hplay, hcompleted'', hcompleted', hcompleted]
    exact ⟨hquiet, rfl⟩

/-- Whatever is to be noted, and in which transactions, clients can note just that. -/
theorem Quiet.records_posted (h : Quiet c) (postings : List Posting) :
    (c.play (postings.flatMap (·.moves))).records =
      c.records ++ postings.flatMap (·.records) := by
  induction postings generalizing c with
  | nil => exact (List.append_nil _).symm
  | cons p postings ih =>
    obtain ⟨hquiet, hcompleted⟩ := h.posted p
    have hrecords : (c.play p.moves).records = c.records ++ p.records := by
      unfold records
      rw [hcompleted, List.flatten_append, List.filterMap_append]
      simp [List.filterMap_map, Function.comp_def, Edit.record?]
    rw [List.flatMap_cons, List.flatMap_cons, ← List.append_assoc, ← hrecords, ← ih hquiet]
    unfold play
    rw [List.foldl_append]

/-- However outcomes get into the ledger, each on its own or in transactions that are committed, it
sums them up. In another order they leave the same rows but for the outcomes there. And there is no
limit to what may be noted: any outcomes, by any clients, in any transactions. -/
theorem ledger_sums_up (w : World) :
    (∀ moves, ((fresh w).play moves).committed.SumsUp ((fresh w).play moves).records) ∧
    (∀ moves moves' : List Move,
      ((fresh w).play moves).records.Perm ((fresh w).play moves').records →
      ∀ key : LedgerKey,
        (((fresh w).play moves).committed.subscription? key.source key.eventType).map
            Subscription.tolerant =
          (((fresh w).play moves').committed.subscription? key.source key.eventType).map
            Subscription.tolerant) ∧
    ∀ postings : List Posting,
      ((fresh w).play (postings.flatMap (·.moves))).records = postings.flatMap (·.records) := by
  have hsums : ∀ moves,
      ((fresh w).play moves).committed.SumsUp ((fresh w).play moves).records :=
    fun moves => sumsUp_of_sound (play_sound (sound_fresh w) moves)
  refine ⟨hsums, fun moves moves' hperm key => ?_, fun postings => ?_⟩
  · exact (hsums moves).tolerant_eq (hsums moves') hperm key
  · exact (quiet_fresh w).records_posted postings

end Clients

end AgentFacts
