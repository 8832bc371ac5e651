import AgentFacts.Proofs.AllOrNothing
import AgentFacts.Proofs.ReportTables

namespace AgentFacts

/-- What becomes of an envelope that nobody disturbs. -/
inductive Handled (e : Envelope) (m : ReadModels) : DispatchOutcome → ReadModels → Prop where
  | applied {w : Write} {time : Instant} (due : ¬ m.Stale e) (change : e.change = .ok w) :
    Handled e m .applied ((m.write w).record (.ofEnvelope e .success time))
  | skipped (known : e.eventType ∈ EventType.known) (stale : m.Stale e) : Handled e m .skipped m
  | failed {error : ProjectionError} {time : Instant} (known : e.eventType ∈ EventType.known)
    (due : ¬ m.Stale e) (change : e.change = .error error) :
    Handled e m (.failed error.message) (m.record (.ofEnvelope e (.failure error.message) time))
  | unknown {time : Instant} (unknown : e.eventType ∉ EventType.known) :
    Handled e m .unknownEventType
      (m.record (.ofEnvelope e (.failure Executor.unknownReason) time))

/-- The outcome that the ledger shows for an envelope that has not been skipped. -/
def Envelope.outcome (e : Envelope) : Outcome :=
  if e.eventType ∈ EventType.known then
    match e.change with
    | .ok _ => .success
    | .error error => .failure error.message
  else .failure Executor.unknownReason

theorem Envelope.outcome_of_isValid {e : Envelope} (h : e.isValid = true) :
    e.outcome = .success := by
  obtain ⟨w, hw⟩ := isValid_iff.1 h
  unfold outcome
  rw [if_pos (known_of_change hw), hw]

theorem Envelope.outcome_of_not_isValid {e : Envelope} (h : e.isValid = false) :
    e.outcome.isSuccess = false := by
  unfold outcome
  split
  · cases hc : e.change with
    | ok w => rw [isValid_iff.2 ⟨w, hc⟩] at h; cases h
    | error error => rfl
  · rfl

/-- The outcome of the dispatch of an envelope that has not been skipped. -/
def Envelope.dispatched (e : Envelope) : DispatchOutcome :=
  if e.eventType ∈ EventType.known then
    match e.change with
    | .ok _ => .applied
    | .error error => .failed error.message
  else .unknownEventType

theorem Envelope.dispatched_ne_skipped (e : Envelope) : e.dispatched ≠ .skipped := by
  unfold dispatched
  split
  · cases e.change <;> exact fun h => by cases h
  · exact fun h => by cases h

/-- An envelope is skipped, or it makes the one change and has the one outcome that it always has,
whatever the time is. -/
theorem Handled.skipped_or_recorded {e : Envelope} {m m' : ReadModels} {o : DispatchOutcome}
    (h : Handled e m o m') :
    (e.eventType ∈ EventType.known ∧ m.Stale e ∧ m' = m) ∨
      ((e.isValid = true → ¬ m.Stale e) ∧ o = e.dispatched ∧
        ∃ time, m' = (m.project e).record (.ofEnvelope e e.outcome time)) := by
  unfold Envelope.dispatched Envelope.outcome ReadModels.project
  cases h with
  | @applied w time hdue hw =>
    rw [if_pos (Envelope.known_of_change hw), if_pos (Envelope.known_of_change hw), hw]
    exact .inr ⟨fun _ => hdue, rfl, time, rfl⟩
  | skipped hk hs => exact .inl ⟨hk, hs, rfl⟩
  | @failed error time hk hdue he =>
    rw [if_pos hk, if_pos hk, he]
    exact .inr ⟨fun _ => hdue, rfl, time, rfl⟩
  | @unknown time hk =>
    rw [if_neg hk, if_neg hk]
    cases he : e.change with
    | ok w => exact absurd (Envelope.known_of_change he) hk
    | error error =>
      refine .inr ⟨fun hv => ?_, rfl, time, rfl⟩
      obtain ⟨w, hw⟩ := Envelope.isValid_iff.1 hv
      exact absurd (Envelope.known_of_change hw) hk

theorem Handled.eq_of_due {e : Envelope} {m m' : ReadModels} {o : DispatchOutcome}
    (h : Handled e m o m') (hdue : ¬ m.Stale e) :
    o = e.dispatched ∧ ∃ time, m' = (m.project e).record (.ofEnvelope e e.outcome time) :=
  (h.skipped_or_recorded.resolve_left fun hs => hdue hs.2.1).2

/-- What becomes of some envelopes, one after the other. -/
inductive Handles : List Envelope → List DispatchOutcome → ReadModels → ReadModels → Prop where
  | nil {m : ReadModels} : Handles [] [] m m
  | cons {e : Envelope} {es : List Envelope} {o : DispatchOutcome} {os : List DispatchOutcome}
    {m m' n : ReadModels} (first : Handled e m o m') (rest : Handles es os m' n) :
    Handles (e :: es) (o :: os) m n

namespace Handles

variable {es es' : List Envelope} {os os' : List DispatchOutcome} {m m' n : ReadModels}

theorem append (h : Handles es os m m') (h' : Handles es' os' m' n) :
    Handles (es ++ es') (os ++ os') m n := by
  induction h with
  | nil => exact h'
  | cons first _ ih => exact .cons first (ih h')

theorem snoc {e : Envelope} {o : DispatchOutcome} (h : Handles es os m m')
    (h' : Handled e m' o n) : Handles (es ++ [e]) (os ++ [o]) m n :=
  h.append (.cons h' .nil)

theorem append_inv (h : Handles (es ++ es') os m n) :
    ∃ first rest m', os = first ++ rest ∧ Handles es first m m' ∧ Handles es' rest m' n := by
  induction es generalizing os m with
  | nil => exact ⟨[], os, m, rfl, .nil, h⟩
  | cons e es ih =>
    cases h with
    | cons hfirst hrest =>
      obtain ⟨first, rest, m', rfl, h1, h2⟩ := ih hrest
      exact ⟨_ :: first, rest, m', rfl, .cons hfirst h1, h2⟩

end Handles

namespace Accord

def calm : Accord where
  faulty := False
  drift := Eq
  drift_refl _ := rfl
  drift_trans h h' := h.trans h'
  commits _ _ := True
  notes _ _ := True
  admits := Standing.allows
  admits_allowed h := h

theorem calm_serves {x : Executor} (hx : Registry.standard = .ok x.registry) (e : Envelope) :
    calm.Serves x e e.effect where
  does hp := Executor.does_standard hx hp
  commits _ _ _ := trivial
  notes _ _ _ := trivial

end Accord

section Dispatch

variable {x : Executor} {e : Envelope} {base : ReadModels} {σ : Standing}

/-- What a dispatch comes to that nobody disturbs. -/
def Settles (e : Envelope) (base : ReadModels) (σ : Standing)
    (result : Except (Halt ProjectionError) DispatchOutcome) : Prop :=
  σ.copy = none ∧ ∃ outcome, result = .ok outcome ∧ Handled e base outcome σ.seen

theorem handled_of_told {reason : String} (ht : Executor.Told .calm e base 0 reason σ) :
    ∃ time, σ.seen = base.record (.ofEnvelope e (.failure reason) time) := by
  rcases ht.2 with ⟨m, time, hd, hs, -⟩ | ⟨hf, -⟩
  · cases hd
    exact ⟨time, hs⟩
  · exact hf.elim

theorem settles_of_dispatched (hx : Registry.standard = .ok x.registry)
    {result : Except (Halt ProjectionError) DispatchOutcome}
    (h : Projection.Ends (Executor.Dispatched .calm e.effect x e base 0)
      (Executor.TornDown .calm base 0) σ result) : Settles e base σ result := by
  have hknown : ∀ {p}, x.registry.find? e.eventType = some p → e.eventType ∈ EventType.known :=
    fun hp => (Registry.isSome_find?_standard hx _).1 (Option.isSome_iff_exists.2 ⟨_, hp⟩)
  cases result with
  | error halt => exact h.2.1.1.elim
  | ok outcome =>
    cases h with
    | applied _ hs =>
      cases hs with
      | applied hd hdue hmade hseen hc _ =>
        obtain ⟨w, hw, rfl⟩ := hmade
        cases hd
        rw [Settles, hseen]
        exact ⟨hc, _, rfl, .applied hdue hw⟩
    | skipped hp hs =>
      cases hs with
      | stale hi hst =>
        have hd : base = σ.seen := hi.drift
        rw [Settles, ← hd]
        exact ⟨hi.copy, _, rfl, .skipped (hknown hp) (hd ▸ hst)⟩
    | failed hp hwhy ht =>
      rcases hwhy with hf | ⟨m, hd, hdue, error, herr, rfl⟩
      · exact hf.1.elim
      · cases hd
        obtain ⟨time, hs⟩ := handled_of_told ht
        rw [Settles, hs]
        exact ⟨ht.1, _, rfl, .failed (hknown hp) hdue herr⟩
    | unknown hn ht =>
      obtain ⟨time, hs⟩ := handled_of_told ht
      rw [Settles, hs]
      refine ⟨ht.1, _, rfl, .unknown fun hk => ?_⟩
      have hsome := (Registry.isSome_find?_standard hx _).2 hk
      rw [hn] at hsome
      cases hsome

/-- A dispatch that nobody disturbs handles its envelope. -/
theorem settles_dispatch (hx : Registry.standard = .ok x.registry) (e : Envelope)
    (base : ReadModels) :
    (x.dispatch e).run.Meets .calm (Settles e base) (.fresh base) :=
  Program.Meets.mono (Executor.meets_dispatch (Accord.calm_serves hx e) (.fresh .calm base))
    fun _ _ h => settles_of_dispatched hx h

end Dispatch

namespace World

/-- Nobody has the read models or waits for them, and no store is to fail. -/
structure Quiet (w : World) : Prop where
  free : w.models.lock = .free
  line : w.models.line = []
  faults : w.faults = .none

def dispatchAll (w : World) (task : TaskId) (x : Executor) :
    List Envelope → Option (List (Except (Halt ProjectionError) DispatchOutcome) × World)
  | [] => some ([], w)
  | e :: es =>
    match w.runAlone task (x.dispatch e).run with
    | none => none
    | some (result, w') =>
      (dispatchAll w' task x es).map fun (results, w'') => (result :: results, w'')

variable {w : World} {x : Executor}

theorem Quiet.dispatch (h : w.Quiet) (hx : Registry.standard = .ok x.registry) (task : TaskId)
    (e : Envelope) :
    ∃ outcome w', w.runAlone task (x.dispatch e).run = some (.ok outcome, w') ∧ w'.Quiet ∧
      Handled e w.models.committed outcome w'.models.committed := by
  obtain ⟨result, w', hrun, hbears, σ, ⟨hc, outcome, rfl, hh⟩, hlone⟩ :=
    Lone.runAlone_bears (A := .calm) (fun hf => hf h.faults) (fun h => h)
      (settles_dispatch hx e w.models.committed) (Lone.start task h.free h.line)
  refine ⟨outcome, w', hrun,
    ⟨hlone.lock_free hc, hlone.unclaimed.line, Classical.not_not.1 hbears⟩, ?_⟩
  rw [← show σ.seen = w'.models.committed from (hlone.fits.outside hc).2]
  exact hh

/-- A worker who has the read models to itself handles envelope after envelope. -/
theorem Quiet.dispatchAll (h : w.Quiet) (hx : Registry.standard = .ok x.registry) (task : TaskId)
    (es : List Envelope) :
    ∃ os w', w.dispatchAll task x es = some (os.map .ok, w') ∧ w'.Quiet ∧
      Handles es os w.models.committed w'.models.committed := by
  induction es generalizing w with
  | nil => exact ⟨[], w, rfl, h, .nil⟩
  | cons e es ih =>
    obtain ⟨o, w', hrun, hq, hh⟩ := h.dispatch hx task e
    obtain ⟨os, w'', hall, hq', hhs⟩ := ih hq
    refine ⟨o :: os, w'', ?_, hq', .cons hh hhs⟩
    unfold World.dispatchAll
    rw [hrun]
    dsimp only
    rw [hall]
    rfl

end World

end AgentFacts
