import AgentFacts.Proofs.CommitOrder

namespace AgentFacts

/-- What has visible effects in one state has, or has been overtaken, in another. -/
def ReadModels.Since (m m' : ReadModels) : Prop :=
  ∀ key last, m.lastEnvelope? key = some last →
    ∃ last', m'.lastEnvelope? key = some last' ∧ last ≤ last'

namespace ReadModels

variable {m m' n : ReadModels} {e : Envelope}

theorem Since.refl (m : ReadModels) : m.Since m :=
  fun _ last h => ⟨last, h, EnvelopeId.le_refl last⟩

theorem Since.trans (h : m.Since m') (h' : m'.Since n) : m.Since n := by
  intro key last hl
  obtain ⟨last', hl', hle⟩ := h key last hl
  obtain ⟨last'', hl'', hle'⟩ := h' key last' hl'
  exact ⟨last'', hl'', EnvelopeId.le_trans hle hle'⟩

/-- Who is stale stays so. -/
theorem Since.stale (h : m.Since m') (hs : m.Stale e) : m'.Stale e := by
  obtain ⟨last, hl, hle⟩ := hs
  obtain ⟨last', hl', hle'⟩ := h _ _ hl
  exact ⟨last', hl', EnvelopeId.le_trans hle hle'⟩

theorem since_record (m : ReadModels) (r : OutcomeRecord) : m.Since (m.record r) :=
  fun _ _ h => lastEnvelope?_record_le h

end ReadModels

theorem Advances.since {e : Envelope} {m m' : ReadModels} (h : Advances e m m') : m.Since m' := by
  intro key last hl
  by_cases hk : key = e.key
  · subst hk
    exact ⟨e.id, h.self, EnvelopeId.le_of_lt (ReadModels.lt_of_not_stale h.due hl)⟩
  · exact ⟨last, (h.others key hk).trans hl, EnvelopeId.le_refl last⟩

/-- The success of an envelope that was due: its change is made and noted. -/
structure Projects (e : Envelope) (m m' : ReadModels) : Prop where
  due : ¬ m.Stale e
  made : ∃ w time, e.change = .ok w ∧ m' = (m.write w).record (.ofEnvelope e .success time)

theorem Projects.advances {e : Envelope} {m m' : ReadModels} (h : Projects e m m') :
    Advances e m m' := by
  obtain ⟨w, time, _, rfl⟩ := h.made
  exact advances_of_makes time h.due (ReadModels.lastEnvelope?_write m w)

/-- The failure of an envelope, with a reason to note it. -/
structure NotesFailure (x : Executor) (e : Envelope) (σ : Standing) (r : OutcomeRecord) : Prop where
  record : ∃ reason time, r = .ofEnvelope e (.failure reason) time
  due : Executor.Due x e σ

theorem NotesFailure.not_success {x : Executor} {e : Envelope} {σ : Standing} {r : OutcomeRecord}
    (h : NotesFailure x e σ r) : r.outcome.isSuccess = false := by
  obtain ⟨reason, time, rfl⟩ := h.record
  rfl

theorem NotesFailure.key {x : Executor} {e : Envelope} {σ : Standing} {r : OutcomeRecord}
    (h : NotesFailure x e σ r) : r.key = e.key ∧ r.envelope = e.id := by
  obtain ⟨reason, time, rfl⟩ := h.record
  exact ⟨rfl, rfl⟩

/-- An envelope that asks for a change is of a known type. -/
theorem Envelope.known_of_change {e : Envelope} {w : Write} (h : e.change = .ok w) :
    e.eventType ∈ EventType.known := by
  unfold change at h
  simp only [EventType.known, List.mem_cons, List.not_mem_nil, or_false]
  split at h
  next ht => simp [ht]
  split at h
  next ht => simp [ht]
  split at h
  next ht => simp [ht]
  split at h
  next ht => simp [ht]
  unfold hostChange at h
  split at h
  next ht => simp [ht]
  split at h
  next ht => simp [ht]
  split at h
  next ht => simp [ht]
  cases h

namespace Charter

variable {x : Executor} {faulty : Prop} {p : Envelope → Prop} {e : Envelope}

/-- The terms of workers with the standard registry. Whether the stores may fail is left open, and
so is which envelopes there are. -/
def standard (x : Executor) (faulty : Prop) (p : Envelope → Prop) : Charter where
  faulty
  drift := ReadModels.Since
  drift_refl := ReadModels.Since.refl
  drift_trans := ReadModels.Since.trans
  commits e m m' := p e ∧ Projects e m m'
  notes := NotesFailure x
  admits := Standing.allows
  admits_allowed h := h
  ends e σ := faulty ∧ σ.struck = true ∨ ∀ w, e.change = .ok w → σ.seen.Stale e
  commits_drift h := h.2.advances.since
  notes_drift _ _ := ReadModels.since_record _ _

theorem standard_orderly (x : Executor) (faulty : Prop) (p : Envelope → Prop) :
    (standard x faulty p).Orderly where
  commits h := h.2.advances
  notes h := h.not_success

theorem standard_serves (hx : Registry.standard = .ok x.registry) (hp : p e) :
    ((standard x faulty p).accord e).Serves x e e.effect where
  does hp := Executor.does_standard hx hp
  commits := by
    intro m m' time hs hmade
    obtain ⟨w, hw, rfl⟩ := hmade
    exact ⟨hp, hs, w, time, hw, rfl⟩
  notes reason time hd := ⟨⟨reason, time, rfl⟩, hd⟩

/-- Unless the store has failed its worker, an envelope with a change is visible when that one is
done. -/
theorem standard_ends (hx : Registry.standard = .ok x.registry) {base : ReadModels}
    {σ : Standing} {result : Except (Halt ProjectionError) DispatchOutcome}
    (h : Projection.Ends
      (Executor.Dispatched ((standard x faulty p).accord e) e.effect x e base 0)
      (Executor.TornDown ((standard x faulty p).accord e) base 0) σ result) :
    (standard x faulty p).ends e σ := by
  cases result with
  | error halt => exact .inl h.2.1
  | ok outcome =>
    cases h with
    | applied _ hs =>
      cases hs with
      | applied _ hdue hmade hseen _ _ =>
        obtain ⟨w, hw, rfl⟩ := hmade
        refine .inr fun _ _ => ⟨e.id, ?_, EnvelopeId.le_refl e.id⟩
        rw [hseen]
        exact ReadModels.lastEnvelope?_record_success (mt ReadModels.stale_write.1 hdue)
    | skipped _ hs =>
      cases hs with
      | stale _ hst => exact .inr fun _ _ => hst
    | failed _ hwhy _ =>
      rcases hwhy with hf | ⟨-, -, -, error, herr, -⟩
      · exact .inl hf
      · refine .inr fun w hw => ?_
        have herr : e.change = .error error := herr
        rw [hw] at herr
        cases herr
    | unknown hmissing _ =>
      refine .inr fun w hw => ?_
      have hk := (Registry.isSome_find?_standard hx _).2 (Envelope.known_of_change hw)
      rw [hmissing] at hk
      cases hk

theorem standard_upheld (hx : Registry.standard = .ok x.registry) (hp : p e) :
    (standard x faulty p).Upheld x e e.effect :=
  ⟨standard_serves hx hp, standard_ends hx⟩

end Charter

end AgentFacts
