import AgentFacts.Proofs.StoreView

namespace AgentFacts

def Reaction.world : Reaction α → World
  | .reply _ w => w
  | .wait w => w

/-- What a task leaves alone that dispatches an envelope. -/
structure World.Spares (task : TaskId) (w w' : World) : Prop where
  events : w'.events = w.events
  queue : w'.queue = w.queue
  streams : w'.streams = w.streams
  faults : w'.faults = w.faults
  timer : ∀ other, other ≠ task → w'.timerOf? other = w.timerOf? other

namespace World

variable {w : World} {task other : TaskId}

theorem wake_eq (w : World) (task : TaskId) : ∃ woken, w.wake task = { w with woken } := by
  unfold wake
  split
  · exact ⟨w.woken, rfl⟩
  · split
    · exact ⟨w.woken, rfl⟩
    · exact ⟨_, rfl⟩

theorem wakeIdle_eq (w : World) : ∃ woken, w.wakeIdle = { w with woken } := by
  unfold wakeIdle
  split
  · exact ⟨w.woken, rfl⟩
  · exact wake_eq ..

theorem withModels_eq (w : World) (models : ModelStore) :
    ∃ woken, w.withModels models = { w with models, woken } := by
  unfold withModels
  dsimp only
  split
  · split
    · exact ⟨w.woken, rfl⟩
    · exact wake_eq ..
  · exact ⟨w.woken, rfl⟩

theorem timerOf?_setTimer (h : other ≠ task) (deadline : Span) :
    (w.setTimer task deadline).timerOf? other = w.timerOf? other := by
  unfold timerOf? setTimer
  rw [List.find?_append]
  simp [h.symm]

theorem timerOf?_clearTimer (h : other ≠ task) :
    (w.clearTimer task).timerOf? other = w.timerOf? other := by
  unfold timerOf? clearTimer
  rw [List.find?_filter]
  congr 2
  funext timer
  by_cases ht : timer.task = other
  · simp [ht, h]
  · simp [ht]

theorem Spares.refl (task : TaskId) (w : World) : Spares task w w :=
  ⟨rfl, rfl, rfl, rfl, fun _ _ => rfl⟩

theorem spares_withModels (w : World) (models : ModelStore) :
    Spares task w (w.withModels models) := by
  obtain ⟨woken, hw⟩ := withModels_eq w models
  rw [hw]
  exact ⟨rfl, rfl, rfl, rfl, fun _ _ => rfl⟩

theorem spares_limitTimer (w : World) (limit : Option Span) :
    Spares task w (w.limitTimer task limit) := by
  unfold limitTimer
  split
  · exact .refl task w
  · split
    · exact .refl task w
    · exact ⟨rfl, rfl, rfl, rfl, fun _ ho => timerOf?_setTimer ho _⟩

theorem Spares.clearTimer {w' : World} (h : Spares task w w') :
    Spares task w (w'.clearTimer task) :=
  ⟨h.events, h.queue, h.streams, h.faults,
    fun other ho => (timerOf?_clearTimer ho).trans (h.timer other ho)⟩

theorem spares_inTransaction (hf : w.faults = .none) (site : ModelSite)
    (run : ModelStore → Except ProjectionError α × ModelStore) :
    Spares task w (w.inTransaction site run).world := by
  unfold inTransaction
  rw [hf]
  have h : Spares task _ _ := spares_withModels { w with faults := .none } (run w.models).2
  exact ⟨h.events, h.queue, h.streams, h.faults.trans hf.symm, h.timer⟩

theorem spares_withLock (hf : w.faults = .none) (site : ModelSite)
    (run : ModelStore → α × ModelStore) : Spares task w (w.withLock task site run).world := by
  have hn : (if w.models.awaits task then ((none : Option (Halt ProjectionError)), w.faults)
      else w.faults.nextModel site) = (none, .none) := by
    rw [hf]
    split <;> rfl
  unfold withLock
  rw [hn]
  dsimp only
  split
  · have h : Spares task _ _ := spares_withModels { w with faults := .none } (run w.models).2
    exact ⟨h.events, h.queue, h.streams, h.faults.trans hf.symm, h.timer⟩
  · exact ⟨rfl, rfl, rfl, hf.symm, fun _ _ => rfl⟩

theorem spares_sleep (w : World) (span : Span) : Spares task w (w.sleep task span).world := by
  have h : Spares task w _ := spares_limitTimer w (some span)
  unfold sleep
  dsimp only
  split
  · exact h.clearTimer
  · exact h

/-- While no store fails, a task that dispatches changes only the read models and its own timer, as
far as others can see. -/
theorem spares_answer {σ : Standing} {c : Call} (ha : σ.allows c) (hf : w.faults = .none) :
    Spares task w (w.answer task c).world := by
  cases c with
  | begin => exact spares_withLock hf .begin fun models => ((), models.begin task)
  | record r => exact spares_withLock hf .record (·.record r)
  | find source eventType => exact spares_inTransaction hf .find (·.find task source eventType)
  | write write => exact spares_inTransaction hf .write (·.write task write)
  | recordIn r => exact spares_inTransaction hf .recordIn (·.recordIn task r)
  | commit => exact spares_inTransaction hf .commit (·.commit task)
  | rollback => exact spares_inTransaction hf .rollback (·.rollback task)
  | drop => exact spares_withModels ..
  | sleep span => exact spares_sleep ..
  | now => exact ⟨rfl, rfl, rfl, rfl, fun _ _ => rfl⟩
  | count c => exact ⟨rfl, rfl, rfl, rfl, fun _ _ => rfl⟩
  | log event => exact ⟨rfl, rfl, rfl, rfl, fun _ _ => rfl⟩
  | read _ => exact ha.elim
  | readLog _ => exact ha.elim
  | persist _ => exact ha.elim
  | openStream _ => exact ha.elim
  | nextItem => exact ha.elim
  | send _ _ => exact ha.elim
  | attend _ _ => exact ha.elim
  | visit _ => exact ha.elim

end World

end AgentFacts
