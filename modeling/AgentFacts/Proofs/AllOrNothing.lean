import AgentFacts.Proofs.Panics
import AgentFacts.Proofs.StandardDispatch

namespace AgentFacts

def ReadModels.SameLedgerOff (key : LedgerKey) (m m' : ReadModels) : Prop :=
  ∀ other, other ≠ key → m'.ledger.get? other = m.ledger.get? other

/-- An envelope has been applied: the change that it asks for is made, in the table of its projector
and in the row that it names, and the ledger row of its pair is what its success makes of it. -/
structure Applied (x : Executor) (e : Envelope) (m m' : ReadModels) : Prop where
  entities : ∃ w, e.change = .ok w ∧ e.place = .ok w.place ∧
    (x.registry.find? e.eventType).map (·.name) = some w.place.table ∧
    ReadModels.SameEntities (m.write w) m' ∧ ReadModels.AgreeOff w.place m m'
  row : ∃ row time, m'.ledger.get? e.key = some row ∧
    row = m.rowAfter (.ofEnvelope e .success time) ∧ row.outcome = .success ∧
    row.lastEnvelope = some e.id
  others : ReadModels.SameLedgerOff e.key m m'

/-- A failure is in the ledger, and nothing else has changed. -/
structure FailureNoted (e : Envelope) (reason : String) (m m' : ReadModels) : Prop where
  entities : ReadModels.SameEntities m m'
  row : ∃ row time, m'.ledger.get? e.key = some row ∧
    row = m.rowAfter (.ofEnvelope e (.failure reason) time) ∧ row.outcome = .failure reason ∧
    row.lastEnvelope = m.lastEnvelope? e.key ∧
    ∀ old, m.ledger.get? e.key = some old → old.lastProcessedAt ≤ row.lastProcessedAt
  others : ReadModels.SameLedgerOff e.key m m'

def World.lostFailures (w : World) : Nat :=
  w.journal.tally .ledgerWriteFailed

/-- A failure has been told: in the ledger, or by the count of those that could not be noted. -/
def FailureTold (e : Envelope) (reason : String) (w w' : World) : Prop :=
  FailureNoted e reason w.models.committed w'.models.committed ∧
      w'.lostFailures = w.lostFailures ∨
    w'.models.committed = w.models.committed ∧ w'.lostFailures = w.lostFailures + 1

/-- What a dispatch leaves behind, by its outcome. Without one it has been torn down by a panic that
was planned for the read models. -/
def AllOrNothing (x : Executor) (e : Envelope) (w w' : World) :
    Except (Halt ProjectionError) DispatchOutcome → Prop
  | .ok .applied =>
    Applied x e w.models.committed w'.models.committed ∧ w'.lostFailures = w.lostFailures
  | .ok .skipped =>
    w.models.committed.Stale e ∧ w'.models.committed = w.models.committed ∧
      w'.lostFailures = w.lostFailures
  | .ok (.failed reason) => FailureTold e reason w w'
  | .ok .unknownEventType =>
    x.registry.find? e.eventType = none ∧ FailureTold e Executor.unknownReason w w'
  | .error halt =>
    halt = .panic ∧ (∃ site, some .panic ∈ w.faults.models site) ∧
      w'.models.committed = w.models.committed ∧ w'.lostFailures = w.lostFailures

namespace Accord

def alone : Accord where
  faulty := True
  drift := Eq
  drift_refl _ := rfl
  drift_trans h h' := h.trans h'
  commits _ _ := True
  notes _ _ := True
  admits := Standing.allows
  admits_allowed h := h

theorem alone_serves {x : Executor} (hx : Registry.standard = .ok x.registry) (e : Envelope) :
    alone.Serves x e e.effect where
  does hp := Executor.does_standard hx hp
  commits _ _ _ := trivial
  notes _ _ _ := trivial

end Accord

variable {x : Executor} {e : Envelope} {m m' : ReadModels}

theorem applied_of_effect (hx : Registry.standard = .ok x.registry) {p : Projector} {time : Instant}
    (hp : x.registry.find? e.eventType = some p) (hs : ¬ m.Stale e) (hm : e.effect.makes m m') :
    Applied x e m (m'.record (.ofEnvelope e .success time)) := by
  obtain ⟨w, hw, rfl⟩ := hm
  obtain ⟨hmem, ht⟩ := Registry.handler_standard hx hp
  have hoff := ReadModels.agreeOff_write m w
  refine ⟨⟨w, hw, Envelope.place_of_change hw, ?_, ReadModels.sameEntities_record _ _,
    hoff.hosts, hoff.clusters, hoff.sapInstances, hoff.slesSubscriptions, hoff.checksResults⟩,
    ⟨_, time, ReadModels.ledger_record_self .., ReadModels.rowAfter_write ..,
      ReadModels.outcome_rowAfter ..,
      ReadModels.lastEnvelope_rowAfter_success (mt ReadModels.stale_write.1 hs)⟩, ?_⟩
  · rw [hp, Option.map_some, (Projector.project_of_mem_all hmem ht).2 w hw]
  · intro other hne
    have hne' : other ≠ (OutcomeRecord.ofEnvelope e .success time).key := hne
    rw [ReadModels.ledger_record_ne hne', ReadModels.ledger_write]

theorem failureNoted_record (m : ReadModels) (e : Envelope) (reason : String) (time : Instant) :
    FailureNoted e reason m (m.record (.ofEnvelope e (.failure reason) time)) where
  entities := ReadModels.sameEntities_record _ _
  row := ⟨_, time, ReadModels.ledger_record_self .., rfl, ReadModels.outcome_rowAfter ..,
    ReadModels.lastEnvelope_rowAfter_failure rfl,
    fun _ hold => ReadModels.le_lastProcessedAt_rowAfter hold⟩
  others _ hne := ReadModels.ledger_record_ne hne

theorem failureTold_of_told {w w' : World} {reason : String} {σ : Standing}
    (ht : Executor.Told .alone e w.models.committed 0 reason σ)
    (hm : w'.models.committed = σ.seen) (hl : w'.lostFailures = w.lostFailures + σ.lost) :
    FailureTold e reason w w' := by
  rcases ht.2 with ⟨m, time, rfl, hs, h0⟩ | ⟨-, hd, h1⟩
  · refine .inl ⟨?_, by omega⟩
    rw [hm, hs]
    exact failureNoted_record _ e reason time
  · exact .inr ⟨hm.trans hd.symm, by omega⟩

/-- Whatever the stores do to its calls, a dispatch comes to an end with the lock free, and it has
changed all that the envelope asks for or nothing. -/
theorem dispatch_all_or_nothing (hx : Registry.standard = .ok x.registry) (w : World)
    (task : TaskId) (e : Envelope) (hfree : w.models.lock = .free) (hline : w.models.line = []) :
    ∃ result w', w.runAlone task (x.dispatch e).run = some (result, w') ∧
      w'.models.lock = .free ∧ AllOrNothing x e w w' result := by
  have hp := Executor.meets_dispatch (Accord.alone_serves hx e)
    (Standing.Idle.fresh .alone w.models.committed)
  obtain ⟨result, w', hrun, σ, hq, h⟩ :=
    Lone.runAlone trivial (fun h => h) hp (Lone.start task hfree hline)
  refine ⟨result, w', hrun, ?_⟩
  have hl : w'.lostFailures = w.lostFailures + σ.lost := h.tally
  have hseen : σ.copy = none → w'.models.committed = σ.seen := fun hc => (h.fits.outside hc).2.symm
  cases result with
  | error halt =>
    obtain ⟨hi, -, rfl⟩ := hq
    have hplanned : ∃ site, some .panic ∈ w.faults.models site :=
      (World.endures_runAlone (Executor.endures_dispatch x e) hrun).resolve_left fun hc => hc rfl
    exact ⟨h.lock_free hi.copy, rfl, hplanned, (hseen hi.copy).trans hi.drift.symm,
      hl.trans (congrArg (w.lostFailures + ·) hi.lost)⟩
  | ok outcome =>
    cases hq with
    | applied hf hs =>
      cases hs with
      | applied hd hdue hm hsn hc hk =>
        refine ⟨h.lock_free hc, ?_, hl.trans (congrArg (w.lostFailures + ·) hk)⟩
        rw [hseen hc, hsn]
        cases hd
        exact applied_of_effect hx hf hdue hm
    | skipped hf hs =>
      cases hs with
      | stale hi hst =>
        have hm : w'.models.committed = w.models.committed :=
          (hseen hi.copy).trans hi.drift.symm
        have hd : w.models.committed = σ.seen := hi.drift
        exact ⟨h.lock_free hi.copy, hd ▸ hst, hm, hl.trans (congrArg (w.lostFailures + ·) hi.lost)⟩
    | failed hf hw ht => exact ⟨h.lock_free ht.1, failureTold_of_told ht (hseen ht.1) hl⟩
    | unknown hf ht => exact ⟨h.lock_free ht.1, hf, failureTold_of_told ht (hseen ht.1) hl⟩

/-- An envelope that is due, while the store panics at the first commit. -/
theorem dispatch_all_or_nothing_commit_panic :
    ∃ r, Registry.standard = .ok r ∧
      let x : Executor := ⟨r, .standard⟩
      let w : World := .new ⟨0, 0⟩ 1 (.ofQueues [(.commit, [some .panic])] [])
      let e : Envelope := ⟨⟨1⟩, ⟨"agent"⟩, .hostHeartbeat, .ofMembers [], ⟨0, 0⟩⟩
      ∃ result w', w.runAlone (.client 0) (x.dispatch e).run = some (result, w') ∧
        w'.models.lock = .free ∧ AllOrNothing x e w w' result := by
  obtain ⟨r, hr⟩ := Registry.exists_standard
  exact ⟨r, hr, dispatch_all_or_nothing (x := ⟨r, .standard⟩) hr _ (.client 0) _ rfl rfl⟩

end AgentFacts
