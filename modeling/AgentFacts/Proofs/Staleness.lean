import AgentFacts.ReadModels.Basic

namespace AgentFacts

namespace EnvelopeId

variable {a b c : EnvelopeId}

theorem le_iff : a ≤ b ↔ a.value ≤ b.value := Iff.rfl
theorem lt_iff : a < b ↔ a.value < b.value := Iff.rfl

theorem le_refl (a : EnvelopeId) : a ≤ a := Int.le_refl a.value

theorem le_trans (hab : a ≤ b) (hbc : b ≤ c) : a ≤ c := Int.le_trans hab hbc

theorem le_total (a b : EnvelopeId) : a ≤ b ∨ b ≤ a := Int.le_total a.value b.value

theorem le_antisymm (hab : a ≤ b) (hba : b ≤ a) : a = b :=
  congrArg mk (Int.le_antisymm hab hba)

theorem lt_trans (hab : a < b) (hbc : b < c) : a < c := Int.lt_trans hab hbc

theorem not_le : ¬ a ≤ b ↔ b < a := Int.not_le

theorem le_of_lt (h : a < b) : a ≤ b := Int.le_of_lt h

theorem lt_irrefl (a : EnvelopeId) : ¬ a < a := Int.lt_irrefl a.value

theorem lt_of_le_of_ne (h : a ≤ b) (hne : a ≠ b) : a < b :=
  Int.lt_iff_le_and_ne.2 ⟨h, fun hv => hne (congrArg mk hv)⟩

theorem latest_of_le (h : a ≤ b) : latest a b = b := if_pos h

end EnvelopeId

/-- What is at the end of an ascending list is the greatest in it. -/
theorem le_of_getLast? {ids : List EnvelopeId} {last id : EnvelopeId}
    (h : ids.Pairwise (· < ·)) (hl : ids.getLast? = some last) (hm : id ∈ ids) : id ≤ last := by
  obtain ⟨before, rfl⟩ := List.getLast?_eq_some_iff.1 hl
  rcases List.mem_append.1 hm with hb | hb
  · exact EnvelopeId.le_of_lt ((List.pairwise_append.1 h).2.2 id hb last (List.mem_singleton.2 rfl))
  · rw [List.mem_singleton.1 hb]
    exact EnvelopeId.le_refl last

theorem Envelope.le_of_getLast? {es : List Envelope} {last e : Envelope}
    (h : es.Pairwise (·.id < ·.id)) (hl : es.getLast? = some last) (hm : e ∈ es) :
    e.id ≤ last.id := by
  refine AgentFacts.le_of_getLast? (List.pairwise_map.2 h) ?_ (List.mem_map_of_mem hm)
  rw [List.getLast?_map, hl]
  rfl

/-- Past the last of some ascending envelopes lie those that come after it. -/
theorem Envelope.filter_past {es rest : List Envelope} {last : Envelope}
    (h : (es ++ rest).Pairwise (·.id < ·.id)) (hl : es.getLast? = some last) :
    (es ++ rest).filter (fun e => decide (last.id < e.id)) = rest := by
  obtain ⟨hes, -, hrest⟩ := List.pairwise_append.1 h
  rw [List.filter_append, List.filter_eq_nil_iff.2, List.filter_eq_self.2, List.nil_append]
  · exact fun e hm => decide_eq_true (hrest last (List.mem_of_getLast? hl) e hm)
  · intro e hm hlt
    have hle := Envelope.le_of_getLast? hes hl hm
    exact EnvelopeId.not_le.2 (of_decide_eq_true hlt) hle

theorem Instant.le_latest_left (a b : Instant) : a ≤ a.latest b := by
  unfold latest
  split
  next h => exact h
  next => exact le_refl a

def Envelope.key (e : Envelope) : LedgerKey :=
  ⟨e.source, e.eventType⟩

theorem OutcomeRecord.key_ofEnvelope (e : Envelope) (outcome : Outcome) (time : Instant) :
    (ofEnvelope e outcome time).key = e.key := rfl

namespace ReadModels

variable (m : ReadModels)

/-- The newest envelope of a pair with visible effects. -/
def lastEnvelope? (key : LedgerKey) : Option EnvelopeId :=
  (m.ledger.get? key).bind (·.lastEnvelope)

/-- An envelope is not newer than the newest one with visible effects. -/
def Stale (e : Envelope) : Prop :=
  ∃ last, m.lastEnvelope? e.key = some last ∧ e.id ≤ last

variable {m}

theorem stale_iff {e : Envelope} :
    (m.subscription? e.source e.eventType).any (·.isStale e.id) = true ↔ m.Stale e := by
  unfold Stale lastEnvelope? subscription? Envelope.key
  cases m.ledger.get? ⟨e.source, e.eventType⟩ with
  | none => simp
  | some row => cases h : row.lastEnvelope <;> simp [Subscription.isStale, h]

theorem stale_congr {m' : ReadModels} {e : Envelope}
    (h : m'.lastEnvelope? e.key = m.lastEnvelope? e.key) : m'.Stale e ↔ m.Stale e := by
  unfold Stale
  rw [h]

/-- With an envelope, all older ones of its pair are stale. -/
theorem Stale.of_le {e newer : Envelope} (h : m.Stale newer) (hk : e.key = newer.key)
    (hle : e.id ≤ newer.id) : m.Stale e := by
  obtain ⟨last, hl, hlast⟩ := h
  exact ⟨last, hk ▸ hl, EnvelopeId.le_trans hle hlast⟩

theorem lt_of_not_stale {e : Envelope} {last : EnvelopeId} (hs : ¬ m.Stale e)
    (hl : m.lastEnvelope? e.key = some last) : last < e.id := by
  rw [← EnvelopeId.not_le]
  intro hle
  exact hs ⟨last, hl, hle⟩

theorem ledger_record_self (m : ReadModels) (r : OutcomeRecord) :
    (m.record r).ledger.get? r.key = some (m.rowAfter r) :=
  Table.get?_insert_self ..

theorem ledger_record_ne {key : LedgerKey} {r : OutcomeRecord} (h : key ≠ r.key) :
    (m.record r).ledger.get? key = m.ledger.get? key :=
  Table.get?_insert_ne h ..

theorem lastEnvelope?_record_ne {key : LedgerKey} {r : OutcomeRecord} (h : key ≠ r.key) :
    (m.record r).lastEnvelope? key = m.lastEnvelope? key := by
  unfold lastEnvelope?
  rw [ledger_record_ne h]

theorem outcome_rowAfter (m : ReadModels) (r : OutcomeRecord) :
    (m.rowAfter r).outcome = r.outcome := by
  unfold rowAfter
  split <;> rfl

/-- A ledger row never goes back in time. -/
theorem le_lastProcessedAt_rowAfter {r : OutcomeRecord} {row : Subscription}
    (h : m.ledger.get? r.key = some row) :
    row.lastProcessedAt ≤ (m.rowAfter r).lastProcessedAt := by
  unfold rowAfter
  rw [h]
  exact Instant.le_latest_left _ _

theorem lastEnvelope_rowAfter_failure {r : OutcomeRecord} (h : r.outcome.isSuccess = false) :
    (m.rowAfter r).lastEnvelope = m.lastEnvelope? r.key := by
  unfold rowAfter lastEnvelope?
  cases m.ledger.get? r.key with
  | none => simp [Subscription.ofRecord, h]
  | some row => simp [Subscription.apply, h]

/-- A failure leaves in place what the ledger says about visible effects. -/
theorem lastEnvelope?_record_failure {r : OutcomeRecord} (h : r.outcome.isSuccess = false)
    (key : LedgerKey) : (m.record r).lastEnvelope? key = m.lastEnvelope? key := by
  by_cases hk : key = r.key
  · subst hk
    unfold lastEnvelope?
    rw [ledger_record_self]
    exact lastEnvelope_rowAfter_failure h
  · exact lastEnvelope?_record_ne hk

theorem lastEnvelope_rowAfter_success {e : Envelope} {time : Instant} (hs : ¬ m.Stale e) :
    (m.rowAfter (.ofEnvelope e .success time)).lastEnvelope = some e.id := by
  unfold rowAfter
  rw [OutcomeRecord.key_ofEnvelope]
  cases hf : m.ledger.get? e.key with
  | none => rfl
  | some row =>
    cases hl : row.lastEnvelope with
    | none => simp [Subscription.apply, OutcomeRecord.ofEnvelope, Outcome.isSuccess, hl]
    | some last =>
      have hlt := lt_of_not_stale hs (by unfold lastEnvelope?; rw [hf]; exact hl)
      simp [Subscription.apply, OutcomeRecord.ofEnvelope, Outcome.isSuccess, hl,
        EnvelopeId.latest_of_le (EnvelopeId.le_of_lt hlt)]

/-- The success of an envelope that is newer than the last one puts it in that one's place. -/
theorem lastEnvelope?_record_success {e : Envelope} {time : Instant} (hs : ¬ m.Stale e) :
    (m.record (.ofEnvelope e .success time)).lastEnvelope? e.key = some e.id := by
  have hrow := ledger_record_self m (.ofEnvelope e .success time)
  rw [OutcomeRecord.key_ofEnvelope] at hrow
  unfold lastEnvelope?
  rw [hrow]
  exact lastEnvelope_rowAfter_success hs

/-- Whatever is noted, what has visible effects gets no older. -/
theorem lastEnvelope?_record_le {r : OutcomeRecord} {key : LedgerKey} {last : EnvelopeId}
    (h : m.lastEnvelope? key = some last) :
    ∃ last', (m.record r).lastEnvelope? key = some last' ∧ last ≤ last' := by
  by_cases hk : key = r.key
  · subst hk
    unfold lastEnvelope? at h
    cases hf : m.ledger.get? r.key with
    | none =>
      rw [hf] at h
      cases h
    | some row =>
      rw [hf] at h
      have hl : row.lastEnvelope = some last := h
      unfold lastEnvelope?
      rw [ledger_record_self, Option.bind_some]
      unfold rowAfter
      rw [hf]
      cases hs : r.outcome.isSuccess with
      | false => exact ⟨last, by simp [Subscription.apply, hs, hl], EnvelopeId.le_refl last⟩
      | true =>
        refine ⟨last.latest r.envelope, by simp [Subscription.apply, hs, hl], ?_⟩
        unfold EnvelopeId.latest
        split
        next hle => exact hle
        next => exact EnvelopeId.le_refl last
  · exact ⟨last, (lastEnvelope?_record_ne hk).trans h, EnvelopeId.le_refl last⟩

@[simp] theorem ledger_write (m : ReadModels) (w : Write) : (m.write w).ledger = m.ledger := by
  cases w with
  | recordHeartbeat agent time =>
    change (m.recordHeartbeat agent time).ledger = m.ledger
    unfold recordHeartbeat
    split <;> rfl
  | _ => rfl

theorem rowAfter_write (m : ReadModels) (w : Write) (r : OutcomeRecord) :
    (m.write w).rowAfter r = m.rowAfter r := by
  unfold rowAfter
  rw [ledger_write]

@[simp] theorem lastEnvelope?_write (m : ReadModels) (w : Write) :
    (m.write w).lastEnvelope? = m.lastEnvelope? := by
  unfold lastEnvelope?
  rw [ledger_write]

theorem stale_write {w : Write} {e : Envelope} : (m.write w).Stale e ↔ m.Stale e :=
  stale_congr (by rw [lastEnvelope?_write])

end ReadModels

end AgentFacts
