import AgentFacts.Proofs.NewestValid
import AgentFacts.Proofs.StandardCharter

namespace AgentFacts

namespace Envelope

variable {e : Envelope} {agent : AgentId}

theorem ne_of_bind_ok {x : Except ε α} {f : α → Place} {place : Place} (hf : ∀ a, f a ≠ place) :
    (do let a ← x; return f a : Except ε Place) ≠ .ok place := by
  intro h
  obtain ⟨a, _, ha⟩ := ok_of_bind_ok h
  exact hf a (Except.ok.inj ha)

theorem key_of_place_sapInstances (h : e.place = .ok (.sapInstances agent)) :
    e.key = ⟨agent, .sapSystemDiscovered⟩ := by
  unfold place at h
  split at h
  · exact absurd h (ne_of_bind_ok fun _ => Place.noConfusion)
  split at h
  next ht =>
    cases h
    exact congrArg _ ht
  split at h
  · cases h
  split at h
  · exact absurd h (ne_of_bind_ok fun _ => Place.noConfusion)
  · cases h

theorem key_of_place_slesSubscriptions (h : e.place = .ok (.slesSubscriptions agent)) :
    e.key = ⟨agent, .subscriptionDiscovered⟩ := by
  unfold place at h
  split at h
  · exact absurd h (ne_of_bind_ok fun _ => Place.noConfusion)
  split at h
  · cases h
  split at h
  next ht =>
    cases h
    exact congrArg _ ht
  split at h
  · exact absurd h (ne_of_bind_ok fun _ => Place.noConfusion)
  · cases h

end Envelope

theorem Projects.isValid {e : Envelope} {m m' : ReadModels} (h : Projects e m m') :
    e.isValid = true := by
  obtain ⟨w, _, hw, _⟩ := h.made
  exact Envelope.isValid_iff.2 ⟨w, hw⟩

/-- A table that holds a set for each agent. The envelopes of one type replace the sets of their
agents, and nothing else changes the table. -/
structure SetTable (α : Type) where
  eventType : EventType
  place : AgentId → Place
  items : ReadModels → AgentId → List α
  replace : AgentId → List α → Write
  items_empty : ∀ agent, items ReadModels.empty agent = []
  items_record : ∀ (m : ReadModels) r, items (m.record r) = items m
  items_replace : ∀ (m : ReadModels) agent set, items (m.write (replace agent set)) agent = set
  items_agree : ∀ {m m' p agent}, ReadModels.AgreeOff p m m' → p ≠ place agent →
    items m' agent = items m agent
  change : ∀ {e w}, Envelope.change e = .ok w → e.eventType = eventType →
    ∃ set, w = replace e.source set
  key_of_place : ∀ {e agent}, Envelope.place e = .ok (place agent) → e.key = ⟨agent, eventType⟩

namespace SetTable

def sapInstances : SetTable SapSystemInstance where
  eventType := .sapSystemDiscovered
  place := .sapInstances
  items := ReadModels.sapInstancesOf
  replace := .replaceSapInstances
  items_empty _ := rfl
  items_record _ _ := rfl
  items_replace _ _ _ := ReadModels.getD_get?_replaceSet_self ..
  items_agree h hp := congrArg (·.getD []) (h.sapInstances _ hp)
  change h ht := by
    obtain ⟨_, set, _, _, hw⟩ := Envelope.sapChange_eq_ok ((Envelope.change_sap ht).symm.trans h)
    exact ⟨set, hw⟩
  key_of_place := Envelope.key_of_place_sapInstances

def slesSubscriptions : SetTable SlesSubscription where
  eventType := .subscriptionDiscovered
  place := .slesSubscriptions
  items := ReadModels.slesSubscriptionsOf
  replace := .replaceSlesSubscriptions
  items_empty _ := rfl
  items_record _ _ := rfl
  items_replace _ _ _ := ReadModels.getD_get?_replaceSet_self ..
  items_agree h hp := congrArg (·.getD []) (h.slesSubscriptions _ hp)
  change h ht := by
    obtain ⟨_, set, _, _, hw⟩ := Envelope.slesChange_eq_ok ((Envelope.change_sles ht).symm.trans h)
    exact ⟨set, hw⟩
  key_of_place := Envelope.key_of_place_slesSubscriptions

variable {T : SetTable α} {log : EventLog} {m m' : ReadModels} {e : Envelope}

/-- Each agent has what the envelope named by the ledger reports, or nothing if there is none. -/
structure Shows (T : SetTable α) (log : EventLog) (m : ReadModels) : Prop where
  unnamed : ∀ agent, m.lastEnvelope? ⟨agent, T.eventType⟩ = none → T.items m agent = []
  named : ∀ e ∈ log.envelopes, e.eventType = T.eventType → m.lastEnvelope? e.key = some e.id →
    e.change = .ok (T.replace e.source (T.items m e.source))

theorem shows_empty (T : SetTable α) (log : EventLog) : T.Shows log .empty where
  unnamed agent _ := T.items_empty agent
  named _ _ _ hl := by cases hl

/-- What an envelope changes belongs to its own pair. -/
theorem items_write_ne {w : Write} {agent : AgentId} (hw : e.change = .ok w)
    (hk : (⟨agent, T.eventType⟩ : LedgerKey) ≠ e.key) :
    T.items (m.write w) agent = T.items m agent := by
  refine T.items_agree (ReadModels.agreeOff_write m w) fun hp => hk ?_
  have he := Envelope.place_of_change hw
  rw [hp] at he
  exact (T.key_of_place he).symm

theorem Shows.record (h : T.Shows log m) {r : OutcomeRecord} (hr : r.outcome.isSuccess = false) :
    T.Shows log (m.record r) where
  unnamed agent hl := by
    rw [ReadModels.lastEnvelope?_record_failure hr] at hl
    rw [T.items_record]
    exact h.unnamed agent hl
  named e he ht hl := by
    rw [ReadModels.lastEnvelope?_record_failure hr] at hl
    rw [T.items_record]
    exact h.named e he ht hl

theorem Shows.projects (h : T.Shows log m) (hasc : log.Ascending) (he : e ∈ log.envelopes)
    (hp : Projects e m m') : T.Shows log m' := by
  have hadv := hp.advances
  obtain ⟨w, time, hw, rfl⟩ := hp.made
  constructor
  · intro agent hl
    rw [T.items_record]
    by_cases hk : (⟨agent, T.eventType⟩ : LedgerKey) = e.key
    · rw [hk, hadv.self] at hl
      cases hl
    · rw [hadv.others _ hk] at hl
      rw [items_write_ne hw hk]
      exact h.unnamed agent hl
  · intro e' he' ht hl
    rw [T.items_record]
    by_cases hk : e'.key = e.key
    · rw [hk, hadv.self] at hl
      obtain rfl := hasc.unique he he' (Option.some.inj hl)
      obtain ⟨set, rfl⟩ := T.change hw ht
      rw [T.items_replace]
      exact hw
    · rw [hadv.others _ hk] at hl
      have hk' : (⟨e'.source, T.eventType⟩ : LedgerKey) ≠ e.key := by
        rw [← ht]
        exact hk
      rw [items_write_ne hw hk']
      exact h.named e' he' ht hl

/-- When the ledger names the newest valid envelope of an agent, the agent has what that one
reports. -/
theorem Shows.newest (h : T.Shows log m) (hasc : log.Ascending) {agent : AgentId}
    (hl : m.lastEnvelope? ⟨agent, T.eventType⟩ =
      (newestValid? log ⟨agent, T.eventType⟩).map (·.id)) :
    (newestValid? log ⟨agent, T.eventType⟩ = none → T.items m agent = []) ∧
      ∀ e, newestValid? log ⟨agent, T.eventType⟩ = some e →
        e.eventType = T.eventType ∧ e.change = .ok (T.replace agent (T.items m agent)) := by
  refine ⟨fun hn => ?_, fun e hn => ?_⟩
  · rw [hn] at hl
    exact h.unnamed agent hl
  · rw [hn] at hl
    obtain ⟨⟨he, hk, _⟩, _⟩ := newestValid?_eq_some hasc hn
    rw [← hk] at hl
    obtain ⟨rfl, ht⟩ := LedgerKey.mk.inj hk
    exact ⟨ht, h.named e he ht hl⟩

end SetTable

namespace ReadModels

/-- The ledger names valid envelopes of the log, and the tables of sets show what these report. -/
structure Faithful (log : EventLog) (m : ReadModels) : Prop where
  valid : ∀ key id, m.lastEnvelope? key = some id →
    ∃ e ∈ log.envelopes, e.key = key ∧ e.id = id ∧ e.isValid = true
  sap : SetTable.sapInstances.Shows log m
  sles : SetTable.slesSubscriptions.Shows log m

/-- For each pair the ledger names the newest valid envelope, and every agent has the sets that its
newest valid envelopes report. -/
structure Recovered (log : EventLog) (m : ReadModels) : Prop where
  ledger : ∀ key, m.lastEnvelope? key = (newestValid? log key).map (·.id)
  sap : ∀ agent,
    match newestValid? log ⟨agent, .sapSystemDiscovered⟩ with
    | none => m.sapInstancesOf agent = []
    | some e => ∃ report, e.payloadAs SapSystemReport.decode = .ok report ∧
        SapSystemInstance.ofReport agent report e.receivedAt = .ok (m.sapInstancesOf agent)
  sles : ∀ agent,
    match newestValid? log ⟨agent, .subscriptionDiscovered⟩ with
    | none => m.slesSubscriptionsOf agent = []
    | some e => ∃ report, e.payloadAs SlesReport.decode = .ok report ∧
        SlesSubscription.ofReport agent report e.receivedAt = .ok (m.slesSubscriptionsOf agent)

variable {log : EventLog} {m m' : ReadModels} {e : Envelope}

theorem faithful_empty (log : EventLog) : Faithful log .empty where
  valid _ _ hl := by cases hl
  sap := SetTable.shows_empty _ log
  sles := SetTable.shows_empty _ log

theorem Faithful.record (h : Faithful log m) {r : OutcomeRecord}
    (hr : r.outcome.isSuccess = false) : Faithful log (m.record r) where
  valid key id hl := by
    rw [lastEnvelope?_record_failure hr] at hl
    exact h.valid key id hl
  sap := h.sap.record hr
  sles := h.sles.record hr

theorem Faithful.projects (h : Faithful log m) (hasc : log.Ascending) (he : e ∈ log.envelopes)
    (hp : Projects e m m') : Faithful log m' where
  valid key id hl := by
    by_cases hk : key = e.key
    · subst hk
      rw [hp.advances.self] at hl
      exact ⟨e, he, rfl, Option.some.inj hl, hp.isValid⟩
    · rw [hp.advances.others key hk] at hl
      exact h.valid key id hl
  sap := h.sap.projects hasc he hp
  sles := h.sles.projects hasc he hp

/-- When nothing valid is left to apply, the ledger names the newest valid envelopes. -/
theorem Faithful.lastEnvelope (h : Faithful log m) (hasc : log.Ascending)
    (hall : ∀ e ∈ log.envelopes, e.isValid = true → m.Stale e) (key : LedgerKey) :
    m.lastEnvelope? key = (newestValid? log key).map (·.id) := by
  cases hn : newestValid? log key with
  | none =>
    cases hl : m.lastEnvelope? key with
    | none => rfl
    | some id =>
      obtain ⟨e, he, hk, _, hv⟩ := h.valid key id hl
      rw [newestValid?_eq_none.1 hn e he hk] at hv
      cases hv
  | some e =>
    obtain ⟨⟨he, hk, hv⟩, hnewest⟩ := newestValid?_eq_some hasc hn
    subst hk
    obtain ⟨last, hl, hle⟩ := hall e he hv
    obtain ⟨e', he', hk', rfl, hv'⟩ := h.valid e.key last hl
    rw [hl]
    exact congrArg some (EnvelopeId.le_antisymm (hnewest e' he' hk' hv') hle)

theorem Faithful.recovered (h : Faithful log m) (hasc : log.Ascending)
    (hall : ∀ e ∈ log.envelopes, e.isValid = true → m.Stale e) : Recovered log m where
  ledger := h.lastEnvelope hasc hall
  sap agent := by
    have hshown := h.sap.newest hasc (h.lastEnvelope hasc hall ⟨agent, .sapSystemDiscovered⟩)
    split
    next hn => exact hshown.1 hn
    next e hn =>
      obtain ⟨ht, hc⟩ := hshown.2 e hn
      obtain ⟨report, set, hd, hs, hw⟩ :=
        Envelope.sapChange_eq_ok ((Envelope.change_sap ht).symm.trans hc)
      cases hw
      exact ⟨report, hd, hs⟩
  sles agent := by
    have hshown := h.sles.newest hasc (h.lastEnvelope hasc hall ⟨agent, .subscriptionDiscovered⟩)
    split
    next hn => exact hshown.1 hn
    next e hn =>
      obtain ⟨ht, hc⟩ := hshown.2 e hn
      obtain ⟨report, set, hd, hs, hw⟩ :=
        Envelope.slesChange_eq_ok ((Envelope.change_sles ht).symm.trans hc)
      cases hw
      exact ⟨report, hd, hs⟩

end ReadModels

/-- Whatever workers with the standard registry do keeps the read models faithful to the log that
their envelopes come from. -/
theorem Crew.faithful_did {x : Executor} {faulty : Prop} {log : EventLog} {c c' : Crew}
    (hasc : log.Ascending) (h : c.committed.Faithful log)
    (hd : Did (.standard x faulty (· ∈ log.envelopes)) c c') : c'.committed.Faithful log := by
  cases hd with
  | nothing hc _ =>
    rw [hc]
    exact h
  | commit _ hc _ => exact h.projects hasc hc.1 hc.2
  | note _ _ _ hn hc _ =>
    rw [hc]
    exact h.record hn.not_success

end AgentFacts
