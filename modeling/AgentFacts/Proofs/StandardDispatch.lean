import AgentFacts.Proofs.DispatchContract
import AgentFacts.Proofs.Handlers

namespace AgentFacts

/-- What an envelope does to the read models when it is applied. -/
def Envelope.effect (e : Envelope) : Effect where
  makes m m' := ∃ w, e.change = .ok w ∧ m' = m.write w
  fails error := e.change = .error error

namespace Projector

variable {A : Accord} {e : Envelope} {σ : Standing}

theorem meets_tell {found : Bool} {w : Write} {Q : Standing → Unit → Prop} (hq : Q σ ()) :
    (tell e found w).Meets A Q σ := by
  unfold tell
  split
  · split
    · exact hq
    · exact Program.meets_log hq
  · exact Program.meets_log hq
  · exact hq

theorem does_ofChange (A : Accord) (name : String) (eventTypes : List EventType) (e : Envelope) :
    (ofChange name eventTypes Envelope.change).Does A e.effect e := by
  intro base lost σ copy ho hc
  unfold ofChange
  dsimp only
  cases hw : e.change with
  | error error => exact ⟨ho, rfl, .inr hw⟩
  | ok w =>
    dsimp only
    rw [Projection.meets_bind]
    refine Projection.meets_write hc ?_ fun hf _ => ⟨ho.hit, rfl, .inl ⟨hf, rfl⟩⟩
    rw [Projection.meets_lift]
    exact meets_tell ⟨ho.withCopy _, rfl, _, rfl, w, hw, rfl⟩

end Projector

namespace Executor

variable {A : Accord} {x : Executor}

/-- The projectors of the standard registry do what the envelopes ask for. -/
theorem does_standard (hx : Registry.standard = .ok x.registry) {e : Envelope} {p : Projector}
    (hp : x.registry.find? e.eventType = some p) : p.Does A e.effect e := by
  obtain ⟨hm, ht⟩ := Registry.handler_standard hx hp
  intro base lost σ copy ho hc
  rw [(Projector.project_of_mem_all hm ht).1]
  exact Projector.does_ofChange A p.name p.eventTypes e ho hc

end Executor

end AgentFacts
