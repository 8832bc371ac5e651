import AgentFacts.EventLog.Basic
import AgentFacts.Proofs.Handlers
import AgentFacts.Proofs.Staleness
import Mathlib.Data.List.Induction

namespace AgentFacts

namespace EventLog

/-- The log of some reports. Those that are not fit for it leave no trace. -/
def ofReports (reports : List NewEnvelope) : EventLog :=
  reports.foldl (fun log e => (log.persist e).2) .empty

/-- The ids ascend, and the next one is greater than all of them. -/
structure Ascending (log : EventLog) : Prop where
  ids : log.envelopes.Pairwise (·.id < ·.id)
  next : ∀ e ∈ log.envelopes, e.id < log.nextId

theorem Ascending.append {log : EventLog} (h : log.Ascending) (e : NewEnvelope) :
    (log.append e).Ascending where
  ids := by
    refine List.pairwise_append.2
      ⟨h.ids, List.pairwise_singleton _ _, fun earlier hm other ho => ?_⟩
    rw [List.mem_singleton.1 ho]
    exact h.next earlier hm
  next other hm := by
    have hlast : log.nextId < (log.append e).nextId := by
      have hlen : (log.append e).envelopes.length = log.envelopes.length + 1 := by
        unfold EventLog.append
        rw [List.length_append, List.length_singleton]
      simp only [EnvelopeId.lt_iff, nextId, hlen]
      omega
    rcases List.mem_append.1 hm with hm | hm
    · exact EnvelopeId.lt_trans (h.next other hm) hlast
    · rw [List.mem_singleton.1 hm]
      exact hlast

theorem ascending_ofReports (reports : List NewEnvelope) : (ofReports reports).Ascending := by
  unfold ofReports
  refine List.foldlRecOn reports _ (motive := Ascending)
    ⟨.nil, fun _ hm => absurd hm List.not_mem_nil⟩ fun log h e _ => ?_
  unfold persist
  split
  · exact h.append e
  · exact h

/-- When all reports are fit for the log, it numbers them in their order. -/
theorem envelopes_ofReports {reports : List NewEnvelope}
    (h : ∀ e ∈ reports, e.validate = .ok ()) :
    (ofReports reports).envelopes = reports.mapIdx fun i e => e.withId ⟨i + 1⟩ := by
  induction reports using List.reverseRecOn with
  | nil => rfl
  | append_singleton reports e ih =>
    have hprev := ih fun e' hm => h e' (List.mem_append_left _ hm)
    have hlast : ofReports (reports ++ [e]) = (ofReports reports).append e := by
      unfold ofReports persist
      rw [List.foldl_append, List.foldl_cons, List.foldl_nil,
        h e (List.mem_append_right _ (List.mem_singleton.2 rfl))]
    rw [hlast, List.mapIdx_concat]
    unfold append nextId
    rw [hprev, List.length_mapIdx]

theorem Ascending.unique {log : EventLog} (h : log.Ascending) {e e' : Envelope}
    (hm : e ∈ log.envelopes) (hm' : e' ∈ log.envelopes) (hid : e.id = e'.id) : e = e' := by
  obtain ⟨i, hi, rfl⟩ := List.getElem_of_mem hm
  obtain ⟨j, hj, rfl⟩ := List.getElem_of_mem hm'
  rcases Nat.lt_trichotomy i j with hij | rfl | hij
  · have hlt := List.pairwise_iff_getElem.1 h.ids i j hi hj hij
    rw [hid] at hlt
    exact absurd hlt (EnvelopeId.lt_irrefl _)
  · rfl
  · have hlt := List.pairwise_iff_getElem.1 h.ids j i hj hi hij
    rw [hid] at hlt
    exact absurd hlt (EnvelopeId.lt_irrefl _)

end EventLog

/-- The payload decodes and is valid. -/
def Envelope.isValid (e : Envelope) : Bool :=
  e.change.toOption.isSome

theorem Envelope.isValid_iff {e : Envelope} : e.isValid = true ↔ ∃ w, e.change = .ok w := by
  unfold isValid
  cases e.change <;> simp [Except.toOption]

/-- The newest valid envelope of a pair. -/
def newestValid? (log : EventLog) (key : LedgerKey) : Option Envelope :=
  (log.envelopes.filter fun e => e.key = key ∧ e.isValid).getLast?

section NewestValid

variable {log : EventLog} {key : LedgerKey}

theorem newestValid?_eq_none :
    newestValid? log key = none ↔ ∀ e ∈ log.envelopes, e.key = key → e.isValid = false := by
  unfold newestValid?
  rw [List.getLast?_eq_none_iff, List.filter_eq_nil_iff]
  simp

theorem newestValid?_eq_some (h : log.Ascending) {e : Envelope}
    (he : newestValid? log key = some e) :
    (e ∈ log.envelopes ∧ e.key = key ∧ e.isValid = true) ∧
      ∀ e' ∈ log.envelopes, e'.key = key → e'.isValid = true → e'.id ≤ e.id := by
  unfold newestValid? at he
  have hmem := List.mem_of_getLast? he
  refine ⟨by simpa using hmem, fun e' hm' hk' hv' => ?_⟩
  have hsorted := h.ids.sublist (List.filter_sublist (p := fun e => e.key = key ∧ e.isValid))
  exact Envelope.le_of_getLast? hsorted he (by simpa using ⟨hm', hk', hv'⟩)

end NewestValid

end AgentFacts
