import AgentFacts.Proofs.Alone
import AgentFacts.Proofs.Deliveries

namespace AgentFacts

/-- What a task has put into the log and on the queue, and how the log has answered it. -/
structure Trail where
  logged : List Envelope
  queued : List Envelope
  answers : List (Except (Halt EventLogError) EnvelopeId)

/-- The answer of the log to a call, if it is one to persist something. -/
def Call.logAnswers : (c : Call) → c.Reply → List (Except (Halt EventLogError) EnvelopeId)
  | .persist _, reply => [reply]
  | _, _ => []

/-- Whether a call waits for nothing but for room on the queue, and for that not without end. -/
def Call.IsBrief : Call → Prop
  | .persist _ => True
  | .send _ (some _) => True
  | .now => True
  | .count _ => True
  | .log _ => True
  | _ => False

namespace Trail

def empty : Trail := ⟨[], [], []⟩

/-- Neither the log nor the queue has got anything. -/
def Untouched (t : Trail) : Prop :=
  t.logged = [] ∧ t.queued = []

/-- The log has panicked instead of persisting anything. -/
def Panicked (t : Trail) : Prop :=
  t.Untouched ∧ t.answers = [.error .panic]

/-- At most one envelope is logged, and nothing is queued but what has been logged before. -/
def Orderly (t : Trail) : Prop :=
  t.logged.length ≤ 1 ∧ t.queued <+: t.logged

def after (t : Trail) (c : Call) (reply : c.Reply) : Trail where
  logged := t.logged ++ c.logged reply
  queued := t.queued ++ c.queued reply
  answers := t.answers ++ c.logAnswers reply

/-- What a call that has been answered is seen to add. -/
def observe (t : Trail) (w w' : World) (answers : List (Except (Halt EventLogError) EnvelopeId)) :
    Trail where
  logged := t.logged ++ w'.events.envelopes.drop w.events.envelopes.length
  queued := t.queued ++ w'.queue.items.drop w.queue.items.length
  answers := t.answers ++ answers

theorem observe_eq {w w' : World} {logged queued : List Envelope} (t : Trail)
    (h : w.Delivers w' logged queued)
    (answers : List (Except (Halt EventLogError) EnvelopeId)) :
    t.observe w w' answers =
      ⟨t.logged ++ logged, t.queued ++ queued, t.answers ++ answers⟩ := by
  unfold observe
  rw [h.events, h.queue.items, List.drop_left, List.drop_left]

end Trail

/-- A program makes none but brief calls and leaves an orderly trail all along; `Q` tells of the
trail in the end. -/
def Program.Leaves (Q : Trail → α → Prop) (p : Program α) (t : Trail) : Prop :=
  p.Keeps (fun t c => t.Orderly ∧ c.IsBrief) (fun t c reply t' => t' = t.after c reply)
    (fun t a => t.Orderly ∧ Q t a) t

theorem Program.Leaves.orderly {Q : Trail → α → Prop} {p : Program α} {t : Trail}
    (h : p.Leaves Q t) : t.Orderly := by
  cases p with
  | done a => exact h.1
  | call c next => exact h.1.1

structure Visit (α : Type) where
  world : World
  rest : Program α
  trail : Trail

namespace Visit

/-- The task makes its next call or asks again, time passes, or others have gone on and have added
something to the log. -/
inductive Turn where
  | go
  | elapse (span : Span)
  | others (world : World) (more : List Envelope)

/-- Whether no panic is in store for those who persist something. -/
def Turn.IsCalm : Turn → Prop
  | .others world _ => some .panic ∉ world.faults.log .persist
  | _ => True

/-- Whether a turn leaves all but the task alone. -/
def Turn.IsAlone : Turn → Prop
  | .others _ _ => False
  | _ => True

def start (w : World) (p : Program α) : Visit α := ⟨w, p, .empty⟩

def go (v : Visit α) (task : TaskId) : Visit α :=
  match v.rest with
  | .done _ => v
  | .call c next =>
    match v.world.answer task c with
    | .reply reply world =>
      ⟨world, next reply, v.trail.observe v.world world (c.logAnswers reply)⟩
    | .wait world => ⟨world, v.rest, v.trail.observe v.world world []⟩

def step (task : TaskId) (v : Visit α) : Turn → Visit α
  | .go => v.go task
  | .elapse span =>
    { v with world := { v.world with clock := ⟨v.world.clock.nanos + span.nanos⟩ } }
  | .others world more =>
    { v with world := { world with events := ⟨v.world.events.envelopes ++ more⟩ } }

def play (task : TaskId) (v : Visit α) (turns : List Turn) : Visit α :=
  turns.foldl (step task) v

/-- What can be said of a visit at any time: the log keeps what the task has put there, `Q` tells of
the trail when it is done, and it will be done when the others leave it alone. -/
structure Settles (Q : Trail → α → Prop) (task : TaskId) (v : Visit α) : Prop where
  orderly : v.trail.Orderly
  durable : ∀ e ∈ v.trail.logged, e ∈ v.world.events.envelopes
  told : ∀ {a}, v.rest = .done a → Q v.trail a
  ends : ∃ turns a, (∀ turn ∈ turns, turn.IsAlone) ∧ (v.play task turns).rest = .done a

variable {Q : Trail → α → Prop} {task : TaskId} {v : Visit α}

theorem go_reply {c : Call} {next : c.Reply → Program α} {reply : c.Reply} {world : World}
    (hr : v.rest = .call c next) (h : v.world.answer task c = .reply reply world) :
    v.go task = ⟨world, next reply, v.trail.after c reply⟩ := by
  obtain ⟨w, rest, t⟩ := v
  subst hr
  simp only [go, h]
  rw [t.observe_eq (World.delivers_reply h)]
  rfl

theorem go_wait {c : Call} {next : c.Reply → Program α} {world : World}
    (hr : v.rest = .call c next) (h : v.world.answer task c = .wait world) :
    v.go task = { v with world } := by
  obtain ⟨w, rest, t⟩ := v
  subst hr
  simp only [go, h]
  rw [t.observe_eq (World.delivers_wait h)]
  simp only [List.append_nil]

theorem go_done {a : α} (hr : v.rest = .done a) : v.go task = v := by
  obtain ⟨w, rest, t⟩ := v
  subst hr
  rfl

/-- What is kept at each turn: the trail is one that the program may have left, and the log has all
of it. -/
structure Fits (Q : Trail → α → Prop) (v : Visit α) : Prop where
  leaves : v.rest.Leaves Q v.trail
  durable : ∀ e ∈ v.trail.logged, e ∈ v.world.events.envelopes

theorem Fits.go (h : v.Fits Q) : (v.go task).Fits Q := by
  have hl := h.leaves
  cases hr : v.rest with
  | done a =>
    rw [go_done hr]
    exact h
  | call c next =>
    rw [hr] at hl
    cases ha : v.world.answer task c with
    | reply reply world =>
      have hd := World.delivers_reply ha
      rw [go_reply hr ha]
      refine ⟨hl.2 reply _ rfl, fun e he => ?_⟩
      change e ∈ world.events.envelopes
      rw [hd.events]
      rcases List.mem_append.1 he with he | he
      · exact List.mem_append_left _ (h.durable e he)
      · exact List.mem_append_right _ he
    | wait world =>
      have hd := World.delivers_wait ha
      rw [go_wait hr ha]
      refine ⟨h.leaves, fun e he => ?_⟩
      change e ∈ world.events.envelopes
      rw [hd.events]
      exact List.mem_append_left _ (h.durable e he)

theorem Fits.step (h : v.Fits Q) (turn : Turn) : (v.step task turn).Fits Q := by
  cases turn with
  | go => exact h.go
  | elapse span => exact ⟨h.leaves, h.durable⟩
  | others world more =>
    exact ⟨h.leaves, fun e he => List.mem_append_left _ (h.durable e he)⟩

theorem Fits.play (h : v.Fits Q) (turns : List Turn) : (v.play task turns).Fits Q := by
  induction turns generalizing v with
  | nil => exact h
  | cons turn turns ih => exact ih (h.step turn)

theorem play_append (v : Visit α) (turns more : List Turn) :
    v.play task (turns ++ more) = (v.play task turns).play task more :=
  List.foldl_append

/-- The log does not panic on its own. -/
structure Calm (v : Visit α) : Prop where
  faults : some .panic ∉ v.world.faults.log .persist
  answers : .error .panic ∉ v.trail.answers

theorem Calm.step (h : v.Calm) {turn : Turn} (ht : turn.IsCalm) : (v.step task turn).Calm := by
  cases turn with
  | elapse span => exact ⟨h.faults, h.answers⟩
  | others world more => exact ⟨ht, h.answers⟩
  | go =>
    change (v.go task).Calm
    cases hr : v.rest with
    | done a =>
      rw [go_done hr]
      exact h
    | call c next =>
      have hw := v.world.within_answer task c
      cases ha : v.world.answer task c with
      | wait world =>
        rw [ha] at hw
        rw [go_wait hr ha]
        exact ⟨fun hm => h.faults ((hw.log .persist).subset hm), h.answers⟩
      | reply reply world =>
        rw [ha] at hw
        rw [go_reply hr ha]
        refine ⟨fun hm => h.faults ((hw.log .persist).subset hm), fun hm => ?_⟩
        rcases List.mem_append.1 hm with hm | hm
        · exact h.answers hm
        · cases c with
          | persist e =>
            obtain rfl := List.mem_singleton.1 hm
            exact h.faults (World.planned_persist ha)
          | _ => cases hm

theorem Calm.play (h : v.Calm) {turns : List Turn} (ht : ∀ turn ∈ turns, turn.IsCalm) :
    (v.play task turns).Calm := by
  induction turns generalizing v with
  | nil => exact h
  | cons turn turns ih =>
    exact ih (h.step (ht turn List.mem_cons_self)) fun turn' hm =>
      ht turn' (List.mem_cons_of_mem _ hm)

end Visit

end AgentFacts
