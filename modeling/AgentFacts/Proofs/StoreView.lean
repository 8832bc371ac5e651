import AgentFacts.Pipeline.World
import AgentFacts.Proofs.Accord

namespace AgentFacts

/-- What one task does to a store at a time: nothing that others see, or else, when it is its turn,
whatever leaves the lock with itself, with nobody or with one who has waited. -/
inductive ModelStore.Turn (task : TaskId) (s s' : ModelStore) : Prop where
  | aside (lock : s'.lock = s.lock) (committed : s'.committed = s.committed)
  | own (may : s.admits task = true ∨ ∃ copy, s.lock = .held task copy)
      (leaves : ∀ {other copy}, s'.lock = .held other copy → other = task)

/-- How a task stands to a store. -/
structure Standing.Fits (A : Accord) (task : TaskId) (σ : Standing) (s : ModelStore) : Prop where
  opened : ∀ {copy}, σ.copy = some copy → s.lock = .held task copy ∧ s.committed = σ.seen
  outside : σ.copy = none → (∀ copy, s.lock ≠ .held task copy) ∧ A.drift σ.seen s.committed

/-- What a call that has been answered leaves as the committed state. -/
def Call.Leaves (σ : Standing) (m m' : ReadModels) : (c : Call) → c.Reply → Prop
  | .commit, .ok _ => σ.copy = some m'
  | .record r, .ok _ => m' = m.record r
  | _, _ => m' = m

namespace ModelStore

variable {s s' : ModelStore} {task other : TaskId} {copy : ReadModels}

theorem staged?_of_held (h : s.lock = .held task copy) : s.staged? task = some copy := by
  unfold staged?
  rw [h]
  exact if_pos (beq_self_eq_true task)

theorem staged?_of_not_held (h : ∀ copy, s.lock ≠ .held task copy) : s.staged? task = none := by
  unfold staged?
  split
  next owner copy hl =>
    refine if_neg fun he => ?_
    obtain rfl := eq_of_beq he
    exact h copy hl
  next => rfl

theorem lock_of_staged? (h : s.staged? task = some copy) : s.lock = .held task copy := by
  unfold staged? at h
  split at h
  next owner copy' hl =>
    split at h
    next he =>
      obtain rfl := eq_of_beq he
      obtain rfl := Option.some.inj h
      exact hl
    next => cases h
  next => cases h

@[simp] theorem release_committed (s : ModelStore) : s.release.committed = s.committed := by
  unfold release
  split <;> rfl

/-- Who passes the lock on does not hand it to an open transaction. -/
theorem release_lock (s : ModelStore) (owner : TaskId) (copy : ReadModels) :
    s.release.lock ≠ .held owner copy := by
  unfold release
  split <;> exact fun h => by cases h

@[simp] theorem queueUp_committed (s : ModelStore) (owner : TaskId) :
    (s.queueUp owner).committed = s.committed := by
  unfold queueUp
  split <;> rfl

@[simp] theorem queueUp_lock (s : ModelStore) (owner : TaskId) :
    (s.queueUp owner).lock = s.lock := by
  unfold queueUp
  split <;> rfl

theorem not_held_of_admits (h : s.admits task = true) (other : TaskId) (copy : ReadModels) :
    s.lock ≠ .held other copy := by
  intro hl
  unfold admits at h
  rw [hl] at h
  cases h

theorem Turn.refl (task : TaskId) (s : ModelStore) : s.Turn task s := .aside rfl rfl

theorem Turn.pass (h : s.admits task = true ∨ ∃ copy, s.lock = .held task copy)
    (t : ModelStore) : s.Turn task t.release :=
  .own h fun hl => absurd hl (release_lock t _ _)

theorem Turn.held_iff (h : s.Turn task s') (hne : other ≠ task) :
    s'.lock = .held other copy ↔ s.lock = .held other copy := by
  cases h with
  | aside hl _ => rw [hl]
  | own may leaves =>
    constructor
    · exact fun hl => absurd (leaves hl) hne
    · intro hl
      rcases may with ha | ⟨copy', hl'⟩
      · exact absurd hl (not_held_of_admits ha other copy)
      · rw [hl] at hl'
        exact absurd (ModelLock.held.inj hl').1 hne

theorem Turn.committed_of_held (h : s.Turn task s') (hne : other ≠ task)
    (hl : s.lock = .held other copy) : s'.committed = s.committed := by
  cases h with
  | aside _ hc => exact hc
  | own may _ =>
    rcases may with ha | ⟨copy', hl'⟩
    · exact absurd hl (not_held_of_admits ha other copy)
    · rw [hl] at hl'
      exact absurd (ModelLock.held.inj hl').1 hne

end ModelStore

namespace Standing

variable {A : Accord} {σ : Standing} {s s' : ModelStore} {task other : TaskId}

/-- The standing of a task fits while another one goes on. -/
theorem Fits.frame (h : σ.Fits A other s) (hne : other ≠ task) (ht : s.Turn task s')
    (hd : A.drift s.committed s'.committed) : σ.Fits A other s' where
  opened hc := by
    obtain ⟨hl, hm⟩ := h.opened hc
    exact ⟨(ht.held_iff hne).2 hl, (ht.committed_of_held hne hl).trans hm⟩
  outside hc := by
    obtain ⟨hl, hm⟩ := h.outside hc
    exact ⟨fun copy hl' => hl copy ((ht.held_iff hne).1 hl'), A.drift_trans hm hd⟩

theorem Fits.same (h : σ.Fits A task s) (hl : s'.lock = s.lock)
    (hm : s'.committed = s.committed) : σ.Fits A task s' where
  opened hc := by
    rw [hl, hm]
    exact h.opened hc
  outside hc := by
    rw [hl, hm]
    exact h.outside hc

theorem Fits.hit (h : σ.Fits A task s) : σ.hit.Fits A task s := ⟨h.opened, h.outside⟩

/-- A task that is done with its transaction stands where it has left the committed state. -/
theorem fits_closed (h : ∀ copy, s.lock ≠ .held task copy) :
    (σ.closed s.committed).Fits A task s where
  opened hc := by cases hc
  outside _ := ⟨h, A.drift_refl _⟩

theorem fits_release (σ : Standing) (task : TaskId) (s : ModelStore) :
    (σ.closed s.committed).Fits A task s.release := by
  rw [← ModelStore.release_committed s]
  exact fits_closed (ModelStore.release_lock s task)

theorem fits_withCopy {copy : ReadModels} (hl : s.lock = .held task copy)
    (hm : s.committed = σ.seen) : (σ.withCopy copy).Fits A task s where
  opened hc := by
    obtain rfl := Option.some.inj hc
    exact ⟨hl, hm⟩
  outside hc := by cases hc

end Standing

namespace World

@[simp] theorem wake_models (w : World) (task : TaskId) : (w.wake task).models = w.models := by
  unfold wake
  split
  · rfl
  · split <;> rfl

@[simp] theorem wakeIdle_models (w : World) : w.wakeIdle.models = w.models := by
  unfold wakeIdle
  split
  · rfl
  · exact wake_models ..

@[simp] theorem withModels_models (w : World) (models : ModelStore) :
    (w.withModels models).models = models := by
  unfold withModels
  dsimp only
  split
  · split
    · rfl
    · exact wake_models ..
  · rfl

@[simp] theorem limitTimer_models (w : World) (task : TaskId) (limit : Option Span) :
    (w.limitTimer task limit).models = w.models := by
  unfold limitTimer
  split
  · rfl
  · split <;> rfl

variable {w w' : World} {task : TaskId}

/-- A call on a transaction is replaced by a fault, or else made. -/
theorem inTransaction_reply {site : ModelSite}
    {f : ModelStore → Except ProjectionError α × ModelStore}
    {reply : Except (Halt ProjectionError) α} (h : w.inTransaction site f = .reply reply w') :
    (∃ halt, reply = .error halt ∧ w.faults ≠ .none ∧ w'.models = w.models) ∨
      reply = (f w.models).1.mapError .error ∧ w'.models = (f w.models).2 := by
  unfold inTransaction at h
  split at h
  next halt faults hf =>
    cases h
    refine .inl ⟨halt, rfl, ?_, rfl⟩
    intro hn
    rw [hn] at hf
    cases hf
  next faults hf =>
    cases h
    exact .inr ⟨rfl, by simp⟩

/-- A call that needs the lock is replaced by a fault, or else made by someone who is admitted. -/
theorem withLock_reply {site : ModelSite} {f : ModelStore → α × ModelStore}
    {reply : Except (Halt ProjectionError) α} (h : w.withLock task site f = .reply reply w') :
    (∃ halt, reply = .error halt ∧ w.faults ≠ .none ∧ w'.models = w.models) ∨
      w.models.admits task = true ∧ reply = .ok (f w.models).1 ∧ w'.models = (f w.models).2 := by
  unfold withLock at h
  dsimp only at h
  split at h
  next halt hf =>
    cases h
    refine .inl ⟨halt, rfl, ?_, rfl⟩
    intro hn
    rw [hn] at hf
    split at hf <;> cases hf
  next hf =>
    split at h
    next ha =>
      cases h
      exact .inr ⟨ha, rfl, by simp⟩
    next => cases h

theorem withLock_wait {site : ModelSite} {f : ModelStore → α × ModelStore}
    (h : w.withLock task site f = .wait w') :
    w.models.admits task = false ∧ w'.models = w.models.queueUp task := by
  unfold withLock at h
  dsimp only at h
  split at h
  · cases h
  · split at h
    · cases h
    next ha =>
      cases h
      exact ⟨Bool.eq_false_iff.2 ha, rfl⟩

/-- A call that has been answered: the reply is one to count on, the standing still fits, and the
committed state is what such a reply leaves. -/
def Answered (A : Accord) (task : TaskId) (σ : Standing) (w w' : World) (c : Call)
    (reply : c.Reply) : Prop :=
  ∃ σ', A.Reacts σ c reply σ' ∧ σ'.Fits A task w'.models ∧ w.models.Turn task w'.models ∧
    c.Leaves σ w.models.committed w'.models.committed reply

variable {A : Accord} {σ : Standing}

theorem Answered.of_models {c : Call} {reply : c.Reply} {σ' : Standing} {s' : ModelStore}
    (hw : w'.models = s') (hr : A.Reacts σ c reply σ') (hfit : σ'.Fits A task s')
    (ht : w.models.Turn task s') (hl : c.Leaves σ w.models.committed s'.committed reply) :
    Answered A task σ w w' c reply := by
  subst hw
  exact ⟨σ', hr, hfit, ht, hl⟩

theorem admits_copy (hσ : σ.Fits A task w.models) (ha : w.models.admits task = true) :
    σ.copy = none := by
  cases hc : σ.copy with
  | none => rfl
  | some copy => exact absurd (hσ.opened hc).1 (ModelStore.not_held_of_admits ha task copy)

/-- A call on a transaction fails and changes nothing, or else works on the copy. -/
theorem inTransaction_view {site : ModelSite}
    {f : ModelStore → Except ProjectionError α × ModelStore}
    {reply : Except (Halt ProjectionError) α} (hf : w.faults ≠ .none → A.faulty)
    (hσ : σ.Fits A task w.models)
    (hn : w.models.staged? task = none → f w.models = (.error .transactionClosed, w.models))
    (h : w.inTransaction site f = .reply reply w') :
    (∃ halt, reply = .error halt ∧ w'.models = w.models ∧
        ∀ g, ∃ σ', A.within σ g reply σ' ∧ σ'.Fits A task w'.models) ∨
      ∃ copy, σ.copy = some copy ∧ w.models.staged? task = some copy ∧
        reply = (f w.models).1.mapError .error ∧ w'.models = (f w.models).2 := by
  rcases inTransaction_reply h with ⟨halt, rfl, hfault, hw⟩ | ⟨hr, hw⟩
  · refine .inl ⟨halt, rfl, hw, fun g => ⟨σ.hit, .inl ⟨hf hfault, rfl⟩, ?_⟩⟩
    rw [hw]
    exact hσ.hit
  cases hc : σ.copy with
  | none =>
    rw [hn (ModelStore.staged?_of_not_held (hσ.outside hc).1)] at hr hw
    refine .inl ⟨_, hr, hw, fun g => ⟨σ, ?_, ?_⟩⟩
    · rw [hr]
      exact .inr ⟨hc, rfl, rfl⟩
    · rw [hw]
      exact hσ
  | some copy => exact .inr ⟨copy, rfl, ModelStore.staged?_of_held (hσ.opened hc).1, hr, hw⟩

/-- A call that works on the copy shows nothing of that to others. -/
theorem staging_view {site : ModelSite} {f : ReadModels → α × ReadModels}
    {reply : Except (Halt ProjectionError) α} (hf : w.faults ≠ .none → A.faulty)
    (hσ : σ.Fits A task w.models)
    (h : w.inTransaction site (·.inTransaction task f) = .reply reply w') :
    ∃ σ', A.within σ (fun m => ((f m).1, σ.withCopy (f m).2)) reply σ' ∧
      σ'.Fits A task w'.models ∧ w.models.Turn task w'.models ∧
      w'.models.committed = w.models.committed := by
  have hn : w.models.staged? task = none →
      w.models.inTransaction task f = (.error .transactionClosed, w.models) := by
    intro hs
    unfold ModelStore.inTransaction
    rw [hs]
  rcases inTransaction_view hf hσ hn h with ⟨halt, rfl, hw, hg⟩ | ⟨copy, hc, hs, rfl, hw⟩
  · obtain ⟨σ', hr, hσ'⟩ := hg fun m => ((f m).1, σ.withCopy (f m).2)
    exact ⟨σ', hr, hσ', hw ▸ .refl task _, congrArg _ hw⟩
  · have hl := ModelStore.lock_of_staged? hs
    have hm := (hσ.opened hc).2
    have hop : w.models.inTransaction task f =
        (.ok (f copy).1, { w.models with lock := .held task (f copy).2 }) := by
      unfold ModelStore.inTransaction
      rw [hs]
    rw [hop] at hw ⊢
    rw [hw]
    exact ⟨σ.withCopy (f copy).2, ⟨copy, hc, rfl⟩, Standing.fits_withCopy rfl hm,
      .own (.inr ⟨copy, hl⟩) fun he => (ModelLock.held.inj he).1.symm, rfl⟩

theorem commit_view {site : ModelSite} {reply : Except (Halt ProjectionError) Unit}
    (hf : w.faults ≠ .none → A.faulty) (hσ : σ.Fits A task w.models)
    (h : w.inTransaction site (·.commit task) = .reply reply w') :
    Answered A task σ w w' .commit reply := by
  have hn : w.models.staged? task = none →
      w.models.commit task = (.error .transactionClosed, w.models) := by
    intro hs
    unfold ModelStore.commit
    rw [hs]
  rcases inTransaction_view hf hσ hn h with ⟨halt, rfl, hw, hg⟩ | ⟨copy, hc, hs, rfl, hw⟩
  · obtain ⟨σ', hr, hσ'⟩ := hg fun m => ((), σ.closed m)
    exact ⟨σ', hr, hσ', hw ▸ .refl task _, congrArg _ hw⟩
  · have hop : w.models.commit task = (.ok (), { w.models with committed := copy }.release) := by
      unfold ModelStore.commit
      rw [hs]
    rw [hop] at hw ⊢
    let s' : ModelStore := { w.models with committed := copy }
    have hw : w'.models = s'.release := hw
    exact .of_models hw ⟨copy, hc, rfl⟩ (Standing.fits_release σ task s')
      (.pass (.inr ⟨copy, ModelStore.lock_of_staged? hs⟩) s')
      (hc.trans (congrArg some (ModelStore.release_committed s').symm))

theorem rollback_view {site : ModelSite} {reply : Except (Halt ProjectionError) Unit}
    (hf : w.faults ≠ .none → A.faulty) (hσ : σ.Fits A task w.models)
    (h : w.inTransaction site (·.rollback task) = .reply reply w') :
    Answered A task σ w w' .rollback reply := by
  have hn : w.models.staged? task = none →
      w.models.rollback task = (.error .transactionClosed, w.models) := by
    intro hs
    unfold ModelStore.rollback
    rw [hs]
  rcases inTransaction_view hf hσ hn h with ⟨halt, rfl, hw, hg⟩ | ⟨copy, hc, hs, rfl, hw⟩
  · obtain ⟨σ', hr, hσ'⟩ := hg fun _ => ((), σ.closed σ.seen)
    exact ⟨σ', hr, hσ', hw ▸ .refl task _, congrArg _ hw⟩
  · have hop : w.models.rollback task = (.ok (), w.models.release) := by
      unfold ModelStore.rollback
      rw [hs]
    rw [hop] at hw ⊢
    have hfit : (σ.closed w.models.committed).Fits A task w.models.release :=
      Standing.fits_release σ task w.models
    rw [(hσ.opened hc).2] at hfit
    exact .of_models hw ⟨copy, hc, rfl⟩ hfit
      (.pass (.inr ⟨copy, ModelStore.lock_of_staged? hs⟩) _) (ModelStore.release_committed _)

theorem drop_view (hσ : σ.Fits A task w.models) :
    Answered A task σ w (w.withModels (w.models.drop task)) .drop () := by
  refine ⟨σ.closed σ.seen, rfl, ?_⟩
  rw [withModels_models]
  unfold ModelStore.drop
  cases hc : σ.copy with
  | none =>
    rw [ModelStore.staged?_of_not_held (hσ.outside hc).1, Standing.closed_self hc]
    exact ⟨hσ, .refl task _, rfl⟩
  | some copy =>
    have hs := ModelStore.staged?_of_held (hσ.opened hc).1
    have hfit : (σ.closed w.models.committed).Fits A task w.models.release :=
      Standing.fits_release σ task w.models
    rw [(hσ.opened hc).2] at hfit
    rw [hs]
    exact ⟨hfit, .pass (.inr ⟨copy, (hσ.opened hc).1⟩) _, ModelStore.release_committed _⟩

theorem begin_view {site : ModelSite} {reply : Except (Halt ProjectionError) Unit}
    (hf : w.faults ≠ .none → A.faulty) (hσ : σ.Fits A task w.models)
    (h : w.withLock task site (fun models => ((), models.begin task)) = .reply reply w') :
    Answered A task σ w w' .begin reply := by
  rcases withLock_reply h with ⟨halt, rfl, hfault, hw⟩ | ⟨ha, rfl, hw⟩
  · exact .of_models hw ⟨hf hfault, rfl⟩ hσ.hit (.refl task _) rfl
  · have hc := admits_copy hσ ha
    refine .of_models hw ⟨hc, w.models.committed, (hσ.outside hc).2, rfl⟩
      ⟨fun he => ?_, fun he => (by cases he)⟩
      (.own (.inl ha) fun he => (ModelLock.held.inj he).1.symm) rfl
    obtain rfl := Option.some.inj he
    exact ⟨rfl, rfl⟩

theorem record_view {site : ModelSite} {r : OutcomeRecord}
    {reply : Except (Halt ProjectionError) Subscription} (hf : w.faults ≠ .none → A.faulty)
    (hσ : σ.Fits A task w.models)
    (h : w.withLock task site (·.record r) = .reply reply w') :
    Answered A task σ w w' (.record r) reply := by
  rcases withLock_reply h with ⟨halt, rfl, hfault, hw⟩ | ⟨ha, rfl, hw⟩
  · exact .of_models hw ⟨hf hfault, rfl⟩ hσ.hit (.refl task _) rfl
  · have hc := admits_copy hσ ha
    exact .of_models hw ⟨hc, w.models.committed, (hσ.outside hc).2, rfl⟩
      (Standing.fits_release σ task { w.models with committed := w.models.committed.record r })
      (.pass (.inl ha) _) (ModelStore.release_committed _)

theorem read_reply {question : ModelRead} {reply : Except ProjectionError question.Answer}
    (h : w.read task question = .reply reply w') :
    w.models.admits task = true ∧ w'.models = w.models.release := by
  unfold read at h
  split at h
  next ha =>
    cases h
    exact ⟨ha, withModels_models ..⟩
  next => cases h

theorem read_view {question : ModelRead} {reply : Except ProjectionError question.Answer}
    (hσ : σ.Fits A task w.models) (h : w.read task question = .reply reply w') :
    Answered A task σ w w' (.read question) reply := by
  obtain ⟨ha, hw⟩ := read_reply h
  have hc := admits_copy hσ ha
  refine .of_models hw rfl
    ⟨fun he => ?_, fun _ => ⟨ModelStore.release_lock _ task, ?_⟩⟩ (.pass (.inl ha) _)
    (ModelStore.release_committed _)
  · rw [hc] at he
    cases he
  · rw [ModelStore.release_committed]
    exact (hσ.outside hc).2

theorem persist_models {e : NewEnvelope} {reply : Except (Halt EventLogError) EnvelopeId}
    (h : w.persist e = .reply reply w') : w'.models = w.models := by
  unfold persist at h
  split at h
  · cases h
    rfl
  · split at h <;> cases h <;> rfl

theorem openStream_models {after : Option EnvelopeId} {reply : Except (Halt EventLogError) Nat}
    (h : w.openStream task after = .reply reply w') : w'.models = w.models := by
  unfold openStream at h
  split at h <;> cases h <;> rfl

theorem nextItem_models {reply : Option (Except (Halt EventLogError) Envelope)}
    (h : w.nextItem task = .reply reply w') : w'.models = w.models := by
  unfold nextItem at h
  split at h
  · cases h
    rfl
  · split at h <;> cases h <;> rfl

theorem send_models {e : Envelope} {limit : Option Span} {reply : SendResult}
    (h : w.send task e limit = .reply reply w') : w'.models = w.models := by
  unfold send at h
  split at h
  · cases h
    rfl
  · cases h
    exact wakeIdle_models _
  · dsimp only at h
    split at h
    · cases h
      exact limitTimer_models ..
    · cases h

theorem sleep_models {span : Span} {reply : Unit} (h : w.sleep task span = .reply reply w') :
    w'.models = w.models := by
  unfold sleep at h
  dsimp only at h
  split at h
  · cases h
    exact limitTimer_models ..
  · cases h

/-- A call that does not concern the store. -/
theorem apart_view {c : Call} {reply : c.Reply} (hσ : σ.Fits A task w.models)
    (hw : w'.models = w.models) (hr : A.Reacts σ c reply σ)
    (hl : c.Leaves σ w.models.committed w.models.committed reply) :
    Answered A task σ w w' c reply :=
  .of_models hw hr hσ (.refl task _) hl

theorem count_view {c : Counter} (hσ : σ.Fits A task w.models) :
    Answered A task σ w (w.withJournal (·.count c)) (.count c) () := by
  refine .of_models rfl rfl ?_ (.refl task _) rfl
  unfold Standing.countLost
  split
  · exact ⟨hσ.opened, hσ.outside⟩
  · exact hσ

/-- Each reply of the store is one that the task has to count on. -/
theorem answer_reply {c : Call} {reply : c.Reply} (hf : w.faults ≠ .none → A.faulty)
    (hσ : σ.Fits A task w.models) (h : w.answer task c = .reply reply w') :
    Answered A task σ w w' c reply := by
  cases c with
  | begin => exact begin_view hf hσ h
  | find source eventType =>
    exact staging_view (f := fun m => (m.subscription? source eventType, m)) hf hσ h
  | write write => exact staging_view (f := fun m => (m.finds write, m.write write)) hf hσ h
  | recordIn r => exact staging_view (f := fun m => (m.rowAfter r, m.record r)) hf hσ h
  | commit => exact commit_view hf hσ h
  | rollback => exact rollback_view hf hσ h
  | drop =>
    cases h
    exact drop_view hσ
  | record r => exact record_view hf hσ h
  | read question => exact read_view hσ h
  | persist e => exact apart_view hσ (persist_models h) rfl rfl
  | openStream after => exact apart_view hσ (openStream_models h) rfl rfl
  | nextItem => exact apart_view hσ (nextItem_models h) rfl rfl
  | send e limit => exact apart_view hσ (send_models h) rfl rfl
  | sleep span => exact apart_view hσ (sleep_models h) rfl rfl
  | count c =>
    cases h
    exact count_view hσ
  | readLog question =>
    cases h
    exact apart_view hσ rfl rfl rfl
  | now =>
    cases h
    exact apart_view hσ rfl rfl rfl
  | log event =>
    cases h
    exact apart_view hσ rfl rfl rfl
  | attend script id =>
    cases h
    exact apart_view hσ rfl rfl rfl
  | visit step =>
    cases h
    exact apart_view hσ rfl rfl rfl

theorem inTransaction_ne_wait {site : ModelSite}
    {f : ModelStore → Except ProjectionError α × ModelStore} :
    w.inTransaction site f ≠ .wait w' := by
  unfold inTransaction
  split <;> exact fun h => by cases h

theorem read_wait {question : ModelRead} (h : w.read task question = .wait w') :
    w.models.admits task = false ∧ w'.models = w.models.queueUp task := by
  unfold read at h
  split at h
  · cases h
  next ha =>
    cases h
    exact ⟨Bool.eq_false_iff.2 ha, rfl⟩

theorem send_wait {e : Envelope} {limit : Option Span} (h : w.send task e limit = .wait w') :
    w'.models = w.models := by
  unfold send at h
  split at h
  · cases h
  · cases h
  · dsimp only at h
    split at h
    · cases h
    · cases h
      exact limitTimer_models ..

theorem sleep_wait {span : Span} (h : w.sleep task span = .wait w') : w'.models = w.models := by
  unfold sleep at h
  dsimp only at h
  split at h
  · cases h
  · cases h
    exact limitTimer_models ..

/-- Who has to wait is in line for the lock, sleeps, or waits for room on the queue. -/
theorem answer_wait_cases {c : Call} (h : w.answer task c = .wait w') :
    (Standing.needsLock c = true ∧ w.models.admits task = false ∧
        w'.models = w.models.queueUp task) ∨
      (∃ span, c = .sleep span) ∨ ∃ e limit, c = .send e limit := by
  cases c with
  | begin =>
    simp only [answer] at h
    exact .inl ⟨rfl, withLock_wait h⟩
  | record r =>
    simp only [answer] at h
    exact .inl ⟨rfl, withLock_wait h⟩
  | read question => exact .inl ⟨rfl, read_wait h⟩
  | send e limit => exact .inr (.inr ⟨e, limit, rfl⟩)
  | sleep span => exact .inr (.inl ⟨span, rfl⟩)
  | persist e =>
    simp only [answer, persist] at h
    split at h
    · cases h
    · split at h <;> cases h
  | openStream after =>
    simp only [answer, openStream] at h
    split at h <;> cases h
  | nextItem =>
    simp only [answer, nextItem] at h
    split at h
    · cases h
    · split at h <;> cases h
  | _ =>
    simp only [answer] at h
    first
      | exact absurd h inTransaction_ne_wait
      | cases h

/-- Who has to wait has changed nothing but the line. -/
theorem answer_wait {c : Call} (h : w.answer task c = .wait w') :
    w'.models.lock = w.models.lock ∧ w'.models.committed = w.models.committed := by
  rcases answer_wait_cases h with ⟨-, -, hw⟩ | ⟨span, rfl⟩ | ⟨e, limit, rfl⟩
  · rw [hw]
    exact ⟨ModelStore.queueUp_lock .., ModelStore.queueUp_committed ..⟩
  · rw [sleep_wait h]
    exact ⟨rfl, rfl⟩
  · rw [send_wait h]
    exact ⟨rfl, rfl⟩

end World

end AgentFacts
