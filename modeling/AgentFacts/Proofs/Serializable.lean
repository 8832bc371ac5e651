import AgentFacts.Proofs.CrewSafety
import AgentFacts.Proofs.FaultPlans

namespace AgentFacts

/-- One change to the read models, in a transaction or outside of one. -/
inductive Edit where
  | write (write : Write)
  | record (record : OutcomeRecord)

namespace ReadModels

def edit (m : ReadModels) : Edit → ReadModels
  | .write w => m.write w
  | .record r => m.record r

/-- Makes changes one after another. -/
def editAll (m : ReadModels) (edits : List Edit) : ReadModels :=
  edits.foldl edit m

/-- What transactions amount to that are executed one after another, from the empty state on. -/
def serial (transactions : List (List Edit)) : ReadModels :=
  transactions.foldl editAll .empty

theorem serial_append (done more : List (List Edit)) :
    serial (done ++ more) = more.foldl editAll (serial done) :=
  List.foldl_append

end ReadModels

/-- An open transaction: the committed state when it was opened, and what it has changed since. -/
structure Draft where
  base : ReadModels
  edits : List Edit

namespace Draft

def view (d : Draft) : ReadModels :=
  d.base.editAll d.edits

def extend (d : Draft) (edit : Edit) : Draft :=
  { d with edits := d.edits ++ [edit] }

theorem view_extend (d : Draft) (edit : Edit) : (d.extend edit).view = d.view.edit edit :=
  List.foldl_append

/-- The reply to a call on a transaction, which comes from its view as long as it is open. -/
def reply (draft : Option Draft) (answer : ReadModels → α) : Except (Halt ProjectionError) α :=
  match draft with
  | none => .error (.error .transactionClosed)
  | some d => .ok (answer d.view)

/-- What a client has open after a call has been answered, in a committed state. -/
def next (m : ReadModels) (draft : Option Draft) : (k : Call) → k.Reply → Option Draft
  | .begin, .ok _ => some ⟨m, []⟩
  | .write w, .ok _ => draft.map (·.extend (.write w))
  | .recordIn r, .ok _ => draft.map (·.extend (.record r))
  | .commit, .ok _ => none
  | .rollback, .ok _ => none
  | .drop, _ => none
  | _, _ => draft

/-- What a call has completed that has been answered. -/
def completed (draft : Option Draft) : (k : Call) → k.Reply → List (List Edit)
  | .commit, .ok _ => draft.toList.map (·.edits)
  | .record r, .ok _ => [[.record r]]
  | _, _ => []

end Draft

/-- Whether a call is on a transaction that has been opened before. -/
def Call.isWithin : Call → Bool
  | .find _ _ | .write _ | .recordIn _ | .commit | .rollback => true
  | _ => false

/-- What the clients have open, and what has been completed so far, in order. -/
structure Clients where
  world : World
  draft : TaskId → Option Draft
  completed : List (List Edit)

namespace Clients

inductive Move where
  | call (task : TaskId) (call : Call)
  | leave (task : TaskId)
  | turn (world : World)

def fresh (w : World) : Clients where
  world := { w with models := .empty, faults := .none }
  draft _ := none
  completed := []

def committed (c : Clients) : ReadModels := c.world.models.committed

def assign (c : Clients) (task : TaskId) (draft : Option Draft) : Clients :=
  { c with draft := fun other => if other = task then draft else c.draft other }

def answered (c : Clients) (task : TaskId) (k : Call) (reply : k.Reply) (world : World) : Clients :=
  { c.assign task (Draft.next c.committed (c.draft task) k reply) with
    world
    completed := c.completed ++ Draft.completed (c.draft task) k reply }

def step (c : Clients) : Move → Clients
  | .call task k =>
    match c.world.answer task k with
    | .reply reply world => c.answered task k reply world
    | .wait world => { c with world }
  | .leave task => { c.assign task none with world := c.world.forget task }
  | .turn world =>
    { c with world := { world with models := c.world.models, faults := .none } }

def play (c : Clients) (moves : List Move) : Clients :=
  moves.foldl step c

/-- The reply that a client is to get: in a transaction what its view says, and outside of one what
the committed state says. -/
def Answers (c : Clients) (task : TaskId) : (k : Call) → k.Reply → Prop
  | .begin, reply => reply = .ok ()
  | .find source eventType, reply =>
    reply = Draft.reply (c.draft task) (·.subscription? source eventType)
  | .write w, reply => reply = Draft.reply (c.draft task) (·.finds w)
  | .recordIn r, reply => reply = Draft.reply (c.draft task) (·.rowAfter r)
  | .commit, reply => reply = Draft.reply (c.draft task) fun _ => ()
  | .rollback, reply => reply = Draft.reply (c.draft task) fun _ => ()
  | .record r, reply => reply = .ok (c.committed.rowAfter r)
  | .read question, reply => reply = .ok (c.committed.answer question)
  | _, _ => True

end Clients

/-- Nobody fails, and the committed state is the one that has last been seen. -/
def Accord.exact : Accord where
  faulty := False
  drift := Eq
  drift_refl _ := rfl
  drift_trans := Eq.trans
  commits _ _ := True
  notes _ _ := True
  admits _ _ := True
  admits_allowed _ := trivial

namespace World

variable {w w' : World} {task : TaskId}

theorem answer_faultless (hf : w.faults = .none) (task : TaskId) (k : Call) :
    (w.answer task k).world.faults = .none :=
  (hf ▸ w.within_answer task k).eq_none

theorem read_value {question : ModelRead} {reply : Except ProjectionError question.Answer}
    (h : w.read task question = .reply reply w') :
    reply = .ok (w.models.committed.answer question) := by
  unfold read at h
  split at h
  · cases h
    rfl
  · cases h

end World

namespace ModelStore

variable {s : ModelStore} {task : TaskId}

theorem inTransaction_closed (h : s.staged? task = none) (f : ReadModels → α × ReadModels) :
    s.inTransaction task f = (.error .transactionClosed, s) := by
  unfold inTransaction
  rw [h]

theorem commit_closed (h : s.staged? task = none) :
    s.commit task = (.error .transactionClosed, s) := by
  unfold commit
  rw [h]

theorem rollback_closed (h : s.staged? task = none) :
    s.rollback task = (.error .transactionClosed, s) := by
  unfold rollback
  rw [h]

end ModelStore

namespace Clients

variable {c : Clients} {task : TaskId}

/-- How a client stands to the store. -/
def standing (c : Clients) (task : TaskId) : Standing where
  seen := c.committed
  copy := (c.draft task).map (·.view)
  lost := 0
  struck := false

/-- The store works on what the clients have open, and has committed what they have completed. -/
structure Sound (c : Clients) : Prop where
  faultless : c.world.faults = .none
  fits : ∀ task, (c.standing task).Fits .exact task c.world.models
  base : ∀ {task d}, c.draft task = some d → d.base = c.committed
  serial : c.committed = .serial c.completed

theorem standing_copy_none : (c.standing task).copy = none ↔ c.draft task = none :=
  Option.map_eq_none_iff

theorem standing_copy_some {d : Draft} (h : c.draft task = some d) :
    (c.standing task).copy = some d.view := by
  unfold standing
  rw [h]
  rfl

@[simp] theorem assign_self (c : Clients) (task : TaskId) (draft : Option Draft) :
    (c.assign task draft).draft task = draft := if_pos rfl

theorem assign_ne {other : TaskId} (h : other ≠ task) (draft : Option Draft) :
    (c.assign task draft).draft other = c.draft other := if_neg h

theorem sound_fresh (w : World) : Sound (fresh w) where
  faultless := rfl
  fits task := ⟨fun h => (by cases h), fun _ => ⟨fun copy h => (by cases h), rfl⟩⟩
  base h := by cases h
  serial := rfl

namespace Sound

/-- Somebody has got in line, or something has happened that does not concern the read models. -/
theorem same (h : Sound c) {world : World} (hf : world.faults = .none)
    (hl : world.models.lock = c.world.models.lock)
    (hc : world.models.committed = c.world.models.committed) : Sound { c with world } where
  faultless := hf
  fits other := by
    have hfit : (c.standing other).Fits .exact other world.models := (h.fits other).same hl hc
    refine ⟨fun hcopy => ⟨(hfit.opened hcopy).1, rfl⟩, fun hcopy => ⟨(hfit.outside hcopy).1, rfl⟩⟩
  base hd := (h.base hd).trans hc.symm
  serial := hc.trans h.serial

/-- One client has gone on; what it has open now and what it has completed fit the store, and the
others have what they had. -/
theorem assign (h : Sound c) {world : World} {draft : Option Draft} {done : List (List Edit)}
    {σ : Standing} (hf : world.faults = .none) (ht : c.world.models.Turn task world.models)
    (hfit : σ.Fits .exact task world.models) (hcopy : σ.copy = draft.map (·.view))
    (hbase : ∀ d, draft = some d → d.base = world.models.committed)
    (hserial : world.models.committed = done.foldl ReadModels.editAll c.committed) :
    Sound { c.assign task draft with world, completed := c.completed ++ done } where
  faultless := hf
  fits other := by
    by_cases he : other = task
    · subst he
      have hd := assign_self c other draft
      constructor
      · intro copy hc
        have hc : ((c.assign other draft).draft other).map (·.view) = some copy := hc
        rw [hd, ← hcopy] at hc
        exact ⟨(hfit.opened hc).1, rfl⟩
      · intro hc
        have hc : ((c.assign other draft).draft other).map (·.view) = none := hc
        rw [hd, ← hcopy] at hc
        exact ⟨(hfit.outside hc).1, rfl⟩
    · have hd := assign_ne (c := c) he draft
      have hold := h.fits other
      constructor
      · intro copy hc
        have hc : ((c.assign task draft).draft other).map (·.view) = some copy := hc
        rw [hd] at hc
        exact ⟨(ht.held_iff he).2 (hold.opened hc).1, rfl⟩
      · intro hc
        have hc : ((c.assign task draft).draft other).map (·.view) = none := hc
        rw [hd] at hc
        exact ⟨fun copy hl => (hold.outside hc).1 copy ((ht.held_iff he).1 hl), rfl⟩
  base := by
    intro other d hd
    by_cases he : other = task
    · subst he
      exact hbase d ((assign_self c other draft).symm.trans hd)
    · have hd := (assign_ne he draft).symm.trans hd
      have hl := ((h.fits other).opened (standing_copy_some hd)).1
      exact (h.base hd).trans (ht.committed_of_held he hl).symm
  serial := by
    rw [ReadModels.serial_append, ← h.serial]
    exact hserial

theorem alone (h : Sound c) {other : TaskId} (ht : (c.draft task).isSome)
    (ho : (c.draft other).isSome) : task = other := by
  obtain ⟨d, hd⟩ := Option.isSome_iff_exists.1 ht
  obtain ⟨d', hd'⟩ := Option.isSome_iff_exists.1 ho
  have hl := ((h.fits task).opened (standing_copy_some hd)).1
  have hl' := ((h.fits other).opened (standing_copy_some hd')).1
  rw [hl] at hl'
  exact (ModelLock.held.inj hl').1

end Sound

/-- The reply to a call on a transaction comes from the view, and so does what is open then. -/
theorem within_view {f : ReadModels → α × Standing} {reply : Except (Halt ProjectionError) α}
    {next : Except (Halt ProjectionError) α → Option Draft} {σ' : Standing}
    (h : Accord.exact.within (c.standing task) f reply σ')
    (hclosed : c.draft task = none → next (.error (.error .transactionClosed)) = none)
    (hopen : ∀ d, c.draft task = some d →
      (f d.view).2.copy = (next (.ok (f d.view).1)).map (·.view)) :
    reply = Draft.reply (c.draft task) (fun m => (f m).1) ∧
      σ'.copy = (next reply).map (·.view) := by
  cases hd : c.draft task with
  | none =>
    have hn : (c.standing task).copy = none := standing_copy_none.2 hd
    cases reply with
    | ok a =>
      obtain ⟨copy, hc, -⟩ := h
      rw [hn] at hc
      cases hc
    | error halt =>
      rcases h with ⟨hf, -⟩ | ⟨-, rfl, rfl⟩
      · exact hf.elim
      · rw [hclosed hd]
        exact ⟨rfl, hn⟩
  | some d =>
    have hs : (c.standing task).copy = some d.view := standing_copy_some hd
    cases reply with
    | ok a =>
      obtain ⟨copy, hc, he⟩ := h
      rw [hs] at hc
      obtain rfl := Option.some.inj hc
      obtain ⟨rfl, rfl⟩ := Prod.mk.inj he
      exact ⟨rfl, hopen d hd⟩
    | error halt =>
      rcases h with ⟨hf, -⟩ | ⟨hn, -, -⟩
      · exact hf.elim
      · rw [hs] at hn
        cases hn

/-- The reply to a call is the right one, and the client has open afterwards what it should. -/
theorem answers_of_reacts {k : Call} {reply : k.Reply} {σ' : Standing}
    (hr : Accord.exact.Reacts (c.standing task) k reply σ')
    (hread : ∀ question, k = .read question → c.Answers task k reply) :
    c.Answers task k reply ∧
      σ'.copy = (Draft.next c.committed (c.draft task) k reply).map (·.view) := by
  cases k with
  | begin =>
    cases reply with
    | error halt => exact hr.1.elim
    | ok u =>
      obtain ⟨-, m, hm, he⟩ := hr
      obtain rfl : c.committed = m := hm
      obtain ⟨-, rfl⟩ := Prod.mk.inj he
      exact ⟨rfl, rfl⟩
  | record r =>
    cases reply with
    | error halt => exact hr.1.elim
    | ok row =>
      obtain ⟨hc, m, hm, he⟩ := hr
      obtain rfl : c.committed = m := hm
      obtain ⟨rfl, rfl⟩ := Prod.mk.inj he
      exact ⟨rfl, hc.symm⟩
  | find source eventType =>
    apply within_view hr (fun hd => hd)
    intro d hd
    simp only [Draft.next, hd]
    rfl
  | write w =>
    apply within_view hr (fun hd => hd)
    intro d hd
    simp only [Draft.next, hd]
    exact congrArg some (d.view_extend (.write w)).symm
  | recordIn r =>
    apply within_view hr (fun hd => hd)
    intro d hd
    simp only [Draft.next, hd]
    exact congrArg some (d.view_extend (.record r)).symm
  | commit => exact within_view hr (fun hd => hd) fun _ _ => rfl
  | rollback => exact within_view hr (fun hd => hd) fun _ _ => rfl
  | drop =>
    cases hr
    exact ⟨trivial, rfl⟩
  | read question =>
    cases hr
    exact ⟨hread question rfl, rfl⟩
  | count counter =>
    cases hr
    refine ⟨trivial, ?_⟩
    unfold Standing.countLost
    split <;> rfl
  | _ =>
    cases hr
    exact ⟨trivial, rfl⟩

/-- A call changes the committed state by what it has completed, and by nothing else. -/
theorem committed_of_leaves {k : Call} {reply : k.Reply} {m : ReadModels}
    (hbase : ∀ {d}, c.draft task = some d → d.base = c.committed)
    (hl : k.Leaves (c.standing task) c.committed m reply) :
    m = (Draft.completed (c.draft task) k reply).foldl ReadModels.editAll c.committed := by
  cases k with
  | commit =>
    cases reply with
    | error halt => exact hl
    | ok u =>
      have hl : (c.standing task).copy = some m := hl
      obtain ⟨d, hd, hv⟩ := Option.map_eq_some_iff.1 hl
      rw [hd, ← hbase hd]
      exact hv.symm
  | record r => cases reply <;> exact hl
  | _ => exact hl

/-- What a client has open began in the committed state. -/
theorem base_of_next {k : Call} {reply : k.Reply} {m : ReadModels} {σ' : Standing} {d : Draft}
    (hbase : ∀ {d}, c.draft task = some d → d.base = c.committed)
    (hr : Accord.exact.Reacts (c.standing task) k reply σ')
    (hl : k.Leaves (c.standing task) c.committed m reply)
    (hd : Draft.next c.committed (c.draft task) k reply = some d) : d.base = m := by
  cases k with
  | begin =>
    cases reply with
    | error halt => exact hr.1.elim
    | ok u =>
      cases hd
      exact Eq.symm hl
  | write w =>
    cases reply with
    | error halt => exact (hbase hd).trans (Eq.symm hl)
    | ok b =>
      obtain ⟨d', hd', rfl⟩ := Option.map_eq_some_iff.1 hd
      exact (hbase hd').trans (Eq.symm hl)
  | recordIn r =>
    cases reply with
    | error halt => exact (hbase hd).trans (Eq.symm hl)
    | ok row =>
      obtain ⟨d', hd', rfl⟩ := Option.map_eq_some_iff.1 hd
      exact (hbase hd').trans (Eq.symm hl)
  | commit =>
    cases reply with
    | error halt => exact (hbase hd).trans (Eq.symm hl)
    | ok u => cases hd
  | rollback =>
    cases reply with
    | error halt => exact (hbase hd).trans (Eq.symm hl)
    | ok u => cases hd
  | record r =>
    cases reply with
    | error halt => exact hr.1.elim
    | ok row =>
      have hn : c.draft task = none := standing_copy_none.1 hr.1
      have hd : c.draft task = some d := hd
      rw [hn] at hd
      cases hd
  | drop => cases hd
  | _ => exact (hbase hd).trans (Eq.symm hl)

theorem answered_sound (h : Sound c) {k : Call} {reply : k.Reply} {world : World}
    (ha : c.world.answer task k = .reply reply world) :
    c.Answers task k reply ∧ Sound (c.answered task k reply world) := by
  obtain ⟨σ', hr, hfit, ht, hl⟩ :=
    World.answer_reply (A := .exact) (fun hn => hn h.faultless) (h.fits task) ha
  have hf : world.faults = .none := by
    have hw := World.answer_faultless h.faultless task k
    rw [ha] at hw
    exact hw
  have hread : ∀ question, k = .read question → c.Answers task k reply := by
    intro question he
    subst he
    exact World.read_value ha
  obtain ⟨hans, hcopy⟩ := answers_of_reacts hr hread
  exact ⟨hans, h.assign hf ht hfit hcopy (fun d => base_of_next h.base hr hl)
    (committed_of_leaves h.base hl)⟩

theorem leave_sound (h : Sound c) : Sound (c.step (.leave task)) := by
  have hm : (c.world.forget task).models = c.world.models.forget task := by
    obtain ⟨woken, hw⟩ := World.withModels_eq c.world (c.world.models.forget task)
    unfold World.forget
    rw [hw]
    rfl
  have hf : (c.world.forget task).faults = .none := by
    obtain ⟨woken, hw⟩ := World.withModels_eq c.world (c.world.models.forget task)
    unfold World.forget
    rw [hw]
    exact h.faultless
  have hc : (c.world.forget task).models.committed = c.committed := by
    rw [hm]
    exact ModelStore.forget_committed c.world.models task
  have hfit : ((c.standing task).closed c.committed).Fits .exact task
      (c.world.forget task).models := by
    rw [← hc]
    apply Standing.fits_closed
    intro copy
    rw [hm]
    exact ModelStore.forget_lock c.world.models task copy
  have hturn : c.world.models.Turn task (c.world.forget task).models := by
    rw [hm]
    exact ModelStore.forget_turn c.world.models task
  have hnext : Sound { c.assign task none with
      world := c.world.forget task, completed := c.completed ++ [] } :=
    h.assign hf hturn hfit rfl (fun d hd => by cases hd) hc
  rw [List.append_nil] at hnext
  exact hnext

theorem step_reply {k : Call} {reply : k.Reply} {world : World}
    (ha : c.world.answer task k = .reply reply world) :
    c.step (.call task k) = c.answered task k reply world := by
  simp only [step, ha]

theorem step_wait {k : Call} {world : World} (ha : c.world.answer task k = .wait world) :
    c.step (.call task k) = { c with world } := by
  simp only [step, ha]

theorem step_sound (h : Sound c) (move : Move) : Sound (c.step move) := by
  cases move with
  | call task k =>
    cases ha : c.world.answer task k with
    | reply reply world =>
      rw [step_reply ha]
      exact (answered_sound h ha).2
    | wait world =>
      obtain ⟨hl, hc⟩ := World.answer_wait ha
      have hw := World.answer_faultless h.faultless task k
      rw [ha] at hw
      rw [step_wait ha]
      exact h.same hw hl hc
  | leave task => exact leave_sound h
  | turn world => exact h.same rfl rfl rfl

theorem play_sound (h : Sound c) (moves : List Move) : Sound (c.play moves) := by
  induction moves generalizing c with
  | nil => exact h
  | cons move moves ih => exact ih (step_sound h move)

/-- A call on a transaction is answered at once, and does nothing if there is none open. -/
theorem within_replies (h : Sound c) (task : TaskId) {k : Call} (hk : k.isWithin = true) :
    ∃ reply world, c.world.answer task k = .reply reply world ∧
      (c.draft task = none → world.models = c.world.models) := by
  have hclosed : c.draft task = none → c.world.models.staged? task = none := fun hd =>
    ModelStore.staged?_of_not_held ((h.fits task).outside (standing_copy_none.2 hd)).1
  have hreply : ∀ {α : Type} (site : ModelSite)
      (f : ModelStore → Except ProjectionError α × ModelStore),
      (c.world.models.staged? task = none → (f c.world.models).2 = c.world.models) →
      ∃ reply world, c.world.inTransaction site f = .reply reply world ∧
        (c.draft task = none → world.models = c.world.models) := by
    intro α site f hn
    cases ha : c.world.inTransaction site f with
    | wait world => exact absurd ha World.inTransaction_ne_wait
    | reply reply world =>
      refine ⟨reply, world, rfl, fun hd => ?_⟩
      rcases World.inTransaction_reply ha with ⟨-, -, -, hw⟩ | ⟨-, hw⟩
      · exact hw
      · exact hw.trans (hn (hclosed hd))
  cases k with
  | find source eventType =>
    exact hreply .find (·.find task source eventType) fun hs =>
      congrArg Prod.snd (ModelStore.inTransaction_closed hs _)
  | write w =>
    exact hreply .write (·.write task w) fun hs =>
      congrArg Prod.snd (ModelStore.inTransaction_closed hs _)
  | recordIn r =>
    exact hreply .recordIn (·.recordIn task r) fun hs =>
      congrArg Prod.snd (ModelStore.inTransaction_closed hs _)
  | commit =>
    exact hreply .commit (·.commit task) fun hs => congrArg Prod.snd (ModelStore.commit_closed hs)
  | rollback =>
    exact hreply .rollback (·.rollback task) fun hs =>
      congrArg Prod.snd (ModelStore.rollback_closed hs)
  | _ => cases hk

theorem commit_done (h : Sound c) :
    (c.step (.call task .commit)).draft task = none ∧
      (c.step (.call task .commit)).completed =
        c.completed ++ (c.draft task).toList.map (·.edits) := by
  obtain ⟨reply, world, ha, -⟩ := within_replies h task (k := .commit) rfl
  have hr : reply = Draft.reply (c.draft task) fun _ => () := (answered_sound h ha).1
  rw [step_reply ha]
  unfold answered
  cases hd : c.draft task with
  | none =>
    rw [hd] at hr
    rw [hr]
    exact ⟨assign_self c task none, rfl⟩
  | some d =>
    rw [hd] at hr
    rw [hr]
    exact ⟨assign_self c task none, rfl⟩

end Clients

end AgentFacts
