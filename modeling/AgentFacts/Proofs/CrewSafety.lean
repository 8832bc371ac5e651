import AgentFacts.Proofs.Crew
import AgentFacts.Proofs.DispatchContract
import AgentFacts.Proofs.StoreView

namespace AgentFacts

/-- The terms on which workers share the read models; each works on its envelope's own. -/
structure Charter where
  faulty : Prop
  drift : ReadModels → ReadModels → Prop
  drift_refl : ∀ m, drift m m
  drift_trans : ∀ {m n k}, drift m n → drift n k → drift m k
  commits : Envelope → ReadModels → ReadModels → Prop
  notes : Envelope → Standing → OutcomeRecord → Prop
  admits : Standing → Call → Prop
  admits_allowed : ∀ {σ c}, σ.allows c → admits σ c
  /-- How a worker stands when it is done with its envelope. -/
  ends : Envelope → Standing → Prop
  commits_drift : ∀ {e m m'}, commits e m m' → drift m m'
  notes_drift : ∀ {e σ r m}, notes e σ r → drift σ.seen m → drift m (m.record r)

namespace Charter

def accord (K : Charter) (e : Envelope) : Accord where
  faulty := K.faulty
  drift := K.drift
  drift_refl := K.drift_refl
  drift_trans := K.drift_trans
  commits := K.commits e
  notes := K.notes e
  admits := K.admits
  admits_allowed := K.admits_allowed

/-- Dispatching an envelope keeps to the charter. -/
structure Upheld (K : Charter) (x : Executor) (e : Envelope) (f : Effect) : Prop where
  serves : (K.accord e).Serves x e f
  ends : ∀ {base σ result}, Projection.Ends (Executor.Dispatched (K.accord e) f x e base 0)
    (Executor.TornDown (K.accord e) base 0) σ result → K.ends e σ

end Charter

/-- A worker keeps to the charter in what is left to do for its envelope. -/
structure Errand.Kept (K : Charter) (task : TaskId) (s : ModelStore) (errand : Errand)
    (σ : Standing) : Prop where
  fits : σ.Fits (K.accord errand.envelope) task s
  meets : errand.rest.Meets (K.accord errand.envelope)
    (fun σ _ => σ.copy = none ∧ K.ends errand.envelope σ) σ
  drift : K.drift errand.base σ.seen
  struck : σ.struck = true → errand.struck = true

/-- Who has no envelope holds no transaction, and who has one keeps to the charter. -/
structure Crew.Sound (K : Charter) (c : Crew) : Prop where
  idle : ∀ {task}, c.errand task = none → ∀ copy, c.world.models.lock ≠ .held task copy
  busy : ∀ {task errand}, c.errand task = some errand →
    ∃ σ, errand.Kept K task c.world.models σ

/-- What a move does to the committed state. -/
inductive Crew.Did (K : Charter) (c c' : Crew) : Prop where
  | nothing (committed : c'.committed = c.committed) (history : c'.history = c.history)
  | commit {task : TaskId} {errand : Errand} (busy : c.errand task = some errand)
      (commits : K.commits errand.envelope c.committed c'.committed)
      (history : c'.history = c.history ++ [.commit errand.envelope.key errand.envelope.id])
  | note {task : TaskId} {errand : Errand} {σ : Standing} {r : OutcomeRecord}
      (busy : c.errand task = some errand) (kept : errand.Kept K task c.world.models σ)
      (outside : σ.copy = none) (notes : K.notes errand.envelope σ r)
      (committed : c'.committed = c.committed.record r)
      (history : c'.history = c.history ++ [.note r errand.base errand.struck])

namespace Accord

variable {A : Accord} {σ σ' : Standing}

theorem within_struck {f : ReadModels → α × Standing} {reply : Except (Halt ProjectionError) α}
    (h : A.within σ f reply σ') (hf : ∀ m, (f m).2.struck = σ.struck) :
    σ'.struck = true → σ.struck = true ∨ ∃ halt, reply = .error halt :=
  within_elim (P := fun reply σ' => σ'.struck = true →
      σ.struck = true ∨ ∃ halt, reply = .error halt) h
    (fun copy _ hs => .inl ((hf copy).symm.trans hs)) (fun _ halt _ => .inr ⟨halt, rfl⟩)
    fun _ _ hs => .inl hs

theorem locking_struck {f : ReadModels → α × Standing} {reply : Except (Halt ProjectionError) α}
    (h : A.locking σ f reply σ') (hf : ∀ m, (f m).2.struck = σ.struck) :
    σ'.struck = true → σ.struck = true ∨ ∃ halt, reply = .error halt :=
  locking_elim (P := fun reply σ' => σ'.struck = true →
      σ.struck = true ∨ ∃ halt, reply = .error halt) h
    (fun m _ hs => .inl ((hf m).symm.trans hs)) fun _ halt _ => .inr ⟨halt, rfl⟩

theorem hasFailed_of_struck {c : Call} {reply : c.Reply} (h : A.Reacts σ c reply σ')
    (hs : σ'.struck = true) : σ.struck = true ∨ c.hasFailed reply = true := by
  have hnew : ∀ {P Q : Prop}, P ∨ Q → (Q → c.hasFailed reply = true) →
      P ∨ c.hasFailed reply = true := fun h hq => h.imp_right hq
  cases c with
  | begin => exact hnew (locking_struck h (fun _ => rfl) hs) fun ⟨_, he⟩ => by rw [he]; rfl
  | record r => exact hnew (locking_struck h (fun _ => rfl) hs) fun ⟨_, he⟩ => by rw [he]; rfl
  | find source eventType =>
    exact hnew (within_struck h (fun _ => rfl) hs) fun ⟨_, he⟩ => by rw [he]; rfl
  | write w => exact hnew (within_struck h (fun _ => rfl) hs) fun ⟨_, he⟩ => by rw [he]; rfl
  | recordIn r => exact hnew (within_struck h (fun _ => rfl) hs) fun ⟨_, he⟩ => by rw [he]; rfl
  | commit => exact hnew (within_struck h (fun _ => rfl) hs) fun ⟨_, he⟩ => by rw [he]; rfl
  | rollback => exact hnew (within_struck h (fun _ => rfl) hs) fun ⟨_, he⟩ => by rw [he]; rfl
  | count c =>
    cases h
    unfold Standing.countLost at hs
    split at hs <;> exact .inl hs
  | _ =>
    cases h
    exact .inl hs

end Accord

namespace Charter

variable {K : Charter} {e : Envelope} {σ σ' : Standing}

/-- What a worker last saw is never undone. -/
theorem drift_of_reacts {c : Call} {reply : c.Reply} (hp : (K.accord e).Permits σ c)
    (h : (K.accord e).Reacts σ c reply σ') : K.drift σ.seen σ'.seen := by
  have hwithin : ∀ {α : Type} {f : ReadModels → α × Standing}
      {reply : Except (Halt ProjectionError) α}, (K.accord e).within σ f reply σ' →
      (∀ copy, σ.copy = some copy → K.drift σ.seen (f copy).2.seen) → K.drift σ.seen σ'.seen :=
    fun h hf => Accord.within_elim (P := fun _ σ' => K.drift σ.seen σ'.seen) h hf
      (fun _ _ => K.drift_refl _) fun _ _ => K.drift_refl _
  have hlocking : ∀ {α : Type} {f : ReadModels → α × Standing}
      {reply : Except (Halt ProjectionError) α}, (K.accord e).locking σ f reply σ' →
      (∀ m, K.drift σ.seen m → K.drift σ.seen (f m).2.seen) → K.drift σ.seen σ'.seen :=
    fun h hf => Accord.locking_elim (P := fun _ σ' => K.drift σ.seen σ'.seen) h hf
      fun _ _ => K.drift_refl _
  cases c with
  | begin => exact hlocking h fun m hm => hm
  | record r => exact hlocking h fun m hm => K.drift_trans hm (K.notes_drift hp.2 hm)
  | commit => exact hwithin h fun copy hc => K.commits_drift (hp.2 copy hc)
  | find source eventType => exact hwithin h fun _ _ => K.drift_refl _
  | write w => exact hwithin h fun _ _ => K.drift_refl _
  | recordIn r => exact hwithin h fun _ _ => K.drift_refl _
  | rollback => exact hwithin h fun _ _ => K.drift_refl _
  | count c =>
    cases h
    unfold Standing.countLost
    split <;> exact K.drift_refl _
  | _ =>
    cases h
    exact K.drift_refl _

end Charter

namespace Errand

variable {K : Charter} {task other : TaskId} {s s' : ModelStore} {errand : Errand} {σ : Standing}

/-- A worker keeps to the charter while another one goes on. -/
theorem Kept.frame (h : errand.Kept K other s σ) (hne : other ≠ task) (ht : s.Turn task s')
    (hd : K.drift s.committed s'.committed) : errand.Kept K other s' σ :=
  ⟨h.fits.frame hne ht hd, h.meets, h.drift, h.struck⟩

theorem Kept.same (h : errand.Kept K task s σ) (hl : s'.lock = s.lock)
    (hc : s'.committed = s.committed) : errand.Kept K task s' σ :=
  ⟨h.fits.same hl hc, h.meets, h.drift, h.struck⟩

/-- Who is done holds no transaction, and stands as the charter has it. -/
theorem Kept.of_isDone (h : errand.Kept K task s σ) (hd : Pipeline.isDone errand.rest = true) :
    σ.copy = none ∧ K.ends errand.envelope σ := by
  have hm := h.meets
  cases hr : errand.rest with
  | done result =>
    rw [hr] at hm
    exact hm
  | call k next =>
    rw [hr] at hd
    cases hd

end Errand

namespace ModelStore

variable (s : ModelStore) (task : TaskId)

theorem forget_committed : (s.forget task).committed = s.committed := by
  unfold forget
  dsimp only
  split
  · rfl
  · split
    · exact release_committed _
    · rfl
  · split
    · exact release_committed _
    · rfl

theorem forget_lock (copy : ReadModels) : (s.forget task).lock ≠ .held task copy := by
  unfold forget
  dsimp only
  split
  next hl =>
    rw [hl]
    intro he
    cases he
  next owner hl =>
    split
    · exact release_lock _ task copy
    · rw [hl]
      intro he
      cases he
  next owner copy' hl =>
    split
    · exact release_lock _ task copy
    next hne =>
      rw [hl]
      intro he
      cases he
      exact hne (beq_self_eq_true task)

theorem forget_turn : s.Turn task (s.forget task) := by
  unfold forget
  dsimp only
  split
  · exact .aside rfl rfl
  next owner hl =>
    split
    next he =>
      refine .pass (.inl ?_) _
      unfold admits
      rw [hl]
      exact he
    · exact .aside rfl rfl
  next owner copy hl =>
    split
    next he =>
      obtain rfl := eq_of_beq he
      exact .pass (.inr ⟨copy, hl⟩) _
    · exact .aside rfl rfl

end ModelStore

namespace Crew

variable {K : Charter} {c : Crew} {task : TaskId}

@[simp] theorem assign_self (c : Crew) (task : TaskId) (errand : Option Errand) :
    (c.assign task errand).errand task = errand := if_pos rfl

theorem assign_ne {other : TaskId} (h : other ≠ task) (errand : Option Errand) :
    (c.assign task errand).errand other = c.errand other := if_neg h

/-- One worker has gone on, and keeps to the charter or has no envelope; then all still do. -/
theorem Sound.assign (h : Sound K c) {world : World} {errand : Option Errand}
    {history : List Deed} (ht : c.world.models.Turn task world.models)
    (hd : K.drift c.committed world.models.committed)
    (hidle : errand = none → ∀ copy, world.models.lock ≠ .held task copy)
    (hbusy : ∀ {next}, errand = some next → ∃ σ, next.Kept K task world.models σ) :
    Sound K { c.assign task errand with world, history } where
  idle := by
    intro other ho copy
    by_cases he : other = task
    · subst he
      exact hidle ((assign_self c other errand).symm.trans ho) copy
    · intro hl
      have ho' := (assign_ne he errand).symm.trans ho
      exact h.idle ho' copy ((ht.held_iff he).1 hl)
  busy := by
    intro other next ho
    by_cases he : other = task
    · subst he
      exact hbusy ((assign_self c other errand).symm.trans ho)
    · have ho' := (assign_ne he errand).symm.trans ho
      obtain ⟨σ, hσ⟩ := h.busy ho'
      exact ⟨σ, hσ.frame he ht hd⟩

theorem Sound.same (h : Sound K c) {world : World} (hl : world.models.lock = c.world.models.lock)
    (hc : world.models.committed = c.world.models.committed) : Sound K { c with world } where
  idle ho copy := by
    rw [hl]
    exact h.idle ho copy
  busy ho := by
    obtain ⟨σ, hσ⟩ := h.busy ho
    exact ⟨σ, hσ.same hl hc⟩

theorem sound_fresh (K : Charter) (w : World) : Sound K (fresh w) where
  idle _ copy h := by cases h
  busy h := by cases h

/-- What a call that has been answered has done to the committed state is among the deeds. -/
theorem did_of_leaves {errand : Errand} {σ : Standing} {k : Call} {reply : k.Reply}
    {σ' : Standing} {c' : Crew} (hb : c.errand task = some errand)
    (hk : errand.Kept K task c.world.models σ) (hp : (K.accord errand.envelope).Permits σ k)
    (hr : (K.accord errand.envelope).Reacts σ k reply σ')
    (hl : k.Leaves σ c.committed c'.committed reply)
    (hh : c'.history = c.history ++ Deed.ofReply errand k reply) : Did K c c' := by
  have hnothing : c'.committed = c.committed → Deed.ofReply errand k reply = [] → Did K c c' := by
    intro hc hd
    rw [hd, List.append_nil] at hh
    exact .nothing hc hh
  cases k with
  | commit =>
    cases reply with
    | error halt => exact hnothing hl rfl
    | ok u =>
      have hl : σ.copy = some c'.committed := hl
      have hc := hp.2 _ hl
      rw [← (hk.fits.opened hl).2] at hc
      exact .commit hb hc hh
  | record r =>
    cases reply with
    | error halt => exact hnothing hl rfl
    | ok row =>
      obtain ⟨hc, -⟩ := hr
      exact .note hb hk hc hp.2 hl hh
  | _ => exact hnothing hl rfl

theorem drift_of_did {c' : Crew} (h : Did K c c') : K.drift c.committed c'.committed := by
  cases h with
  | nothing hc _ =>
    rw [hc]
    exact K.drift_refl _
  | commit _ hc _ => exact K.commits_drift hc
  | note _ hk ho hn hc _ =>
    rw [hc]
    exact K.notes_drift hn (hk.fits.outside ho).2

theorem sound_call (hf : c.world.faults ≠ .none → K.faulty) (h : Sound K c) {errand : Errand}
    (hb : c.errand task = some errand) :
    Sound K (c.call task errand) ∧ Did K c (c.call task errand) := by
  unfold call
  split
  · exact ⟨h, .nothing rfl rfl⟩
  next k next hrest =>
  obtain ⟨σ, hk⟩ := h.busy hb
  have hm := hk.meets
  rw [hrest] at hm
  obtain ⟨hp, hnext⟩ := hm
  split
  next reply world ha =>
    obtain ⟨σ', hr, hfit, hturn, hl⟩ := World.answer_reply hf hk.fits ha
    have hdid : Did K c { c.assign task (some (errand.next k reply (next reply))) with
        world, history := c.history ++ Deed.ofReply errand k reply } :=
      did_of_leaves hb hk hp hr hl rfl
    refine ⟨h.assign hturn (drift_of_did hdid) (fun hn => by cases hn) ?_, hdid⟩
    intro _ he
    cases he
    refine ⟨σ', hfit, hnext reply σ' hr, K.drift_trans hk.drift (Charter.drift_of_reacts hp hr), ?_⟩
    intro hs
    unfold Errand.next
    rw [Bool.or_eq_true]
    exact (Accord.hasFailed_of_struck hr hs).imp_left hk.struck
  next world ha =>
    obtain ⟨hl, hc⟩ := World.answer_wait ha
    exact ⟨h.same hl hc, .nothing hc rfl⟩

theorem sound_take (h : Sound K c) {x : Executor} {e : Envelope} {f : Effect}
    (hx : K.Upheld x e f) (hn : c.errand task = none) :
    Sound K (c.assign task (some (.start x c.committed e))) := by
  refine h.assign (.refl task _) (K.drift_refl _) (fun hn => by cases hn) ?_
  intro _ he
  cases he
  have hi := Standing.Idle.fresh (K.accord e) c.committed
  refine ⟨.fresh c.committed, ⟨fun hc => (by cases hc), fun _ => ⟨h.idle hn, K.drift_refl _⟩⟩, ?_,
    K.drift_refl _, fun hs => (by cases hs)⟩
  refine Program.Meets.mono (Executor.meets_dispatch hx.serves hi) fun σ result hq => ?_
  refine ⟨?_, hx.ends hq⟩
  cases result with
  | error halt => exact hq.1.copy
  | ok outcome =>
    cases hq with
    | applied _ hs =>
      cases hs with
      | applied _ _ _ _ hc _ => exact hc
    | skipped _ hs =>
      cases hs with
      | stale hi _ => exact hi.copy
    | failed _ _ ht => exact ht.1
    | unknown _ ht => exact ht.1

theorem sound_finish (h : Sound K c) {errand : Errand} (hb : c.errand task = some errand)
    (hd : Pipeline.isDone errand.rest = true) : Sound K (c.assign task none) := by
  refine h.assign (.refl task _) (K.drift_refl _) (fun _ => ?_) fun hn => by cases hn
  obtain ⟨σ, hk⟩ := h.busy hb
  exact (hk.fits.outside (hk.of_isDone hd).1).1

theorem forget_models (w : World) (task : TaskId) :
    (w.forget task).models = w.models.forget task :=
  World.withModels_models ..

theorem sound_abandon (h : Sound K c) (task : TaskId) :
    Sound K { c.assign task none with world := c.world.forget task } := by
  have hm := forget_models c.world task
  have hs : Sound K { c.assign task none with
      world := c.world.forget task, history := c.history } := by
    refine h.assign ?_ ?_ (fun _ => ?_) fun hn => by cases hn
    · rw [hm]
      exact ModelStore.forget_turn ..
    · unfold committed
      rw [hm, ModelStore.forget_committed]
      exact K.drift_refl _
    · rw [hm]
      exact ModelStore.forget_lock c.world.models task
  exact hs

theorem assign_same {errand : Option Errand} (h : c.errand task = errand) :
    c.assign task errand = c := by
  have he : (c.assign task errand).errand = c.errand := by
    funext other
    unfold assign
    dsimp only
    split
    next hto => rw [hto, h]
    next => rfl
  obtain ⟨world, errands, history⟩ := c
  unfold assign at he ⊢
  exact congrArg (Crew.mk world · history) he

theorem sound_read (h : Sound K c) (hn : c.errand task = none) (question : ModelRead) :
    let c' : Crew := match c.world.read task question with
      | .reply _ world => { c with world }
      | .wait world => { c with world }
    Sound K c' ∧ Did K c c' := by
  cases hr : c.world.read task question with
  | reply reply world =>
    obtain ⟨ha, hm⟩ := World.read_reply hr
    have hc : world.models.committed = c.world.models.committed := by
      rw [hm, ModelStore.release_committed]
    have hs : Sound K { c.assign task none with world, history := c.history } := by
      refine h.assign ?_ ?_ (fun _ copy => ?_) fun hn => (by cases hn)
      · rw [hm]
        exact .pass (.inl ha) _
      · rw [hc]
        exact K.drift_refl _
      · rw [hm]
        exact ModelStore.release_lock _ task copy
    rw [assign_same hn] at hs
    exact ⟨hs, .nothing hc rfl⟩
  | wait world =>
    obtain ⟨-, hm⟩ := World.read_wait hr
    refine ⟨h.same ?_ ?_, .nothing ?_ rfl⟩
    · rw [hm, ModelStore.queueUp_lock]
    · rw [hm, ModelStore.queueUp_committed]
    · exact (congrArg _ hm).trans (ModelStore.queueUp_committed ..)

/-- Every move keeps the workers to the charter, and changes the committed state only as the
charter has it. -/
theorem sound_step (hf : c.world.faults ≠ .none → K.faulty) (h : Sound K c) {x : Executor}
    {f : Envelope → Effect} {move : Move}
    (hx : ∀ {task e}, move = .take task e → K.Upheld x e (f e)) :
    Sound K (c.step x move) ∧ Did K c (c.step x move) := by
  have hstill : Sound K c ∧ Did K c c := ⟨h, .nothing rfl rfl⟩
  cases move with
  | take task e =>
    unfold step
    dsimp only
    split
    next hn => exact ⟨sound_take h (hx rfl) hn, .nothing rfl rfl⟩
    · exact hstill
  | call task =>
    unfold step
    dsimp only
    split
    · exact hstill
    next hb => exact sound_call hf h hb
  | finish task =>
    unfold step
    dsimp only
    split
    · exact hstill
    next hb =>
      split
      next hd => exact ⟨sound_finish h hb hd, .nothing rfl rfl⟩
      · exact hstill
  | abandon task =>
    refine ⟨sound_abandon h task, .nothing ?_ rfl⟩
    exact (congrArg _ (forget_models c.world task)).trans (ModelStore.forget_committed ..)
  | read task question =>
    unfold step
    dsimp only
    split
    next hn => exact sound_read h hn question
    · exact hstill
  | turn world => exact ⟨h.same rfl rfl, .nothing rfl rfl⟩

theorem errand_step {x : Executor} {move : Move} (hn : c.errand task = none)
    (hm : ∀ e, move ≠ .take task e) : (c.step x move).errand task = none := by
  have hassign : ∀ {other} (errand : Option Errand), other ≠ task ∨ errand = none →
      (c.assign other errand).errand task = none := by
    intro other errand h
    by_cases ht : task = other
    · subst ht
      rw [assign_self]
      exact h.resolve_left fun hne => hne rfl
    · rw [assign_ne ht]
      exact hn
  cases move with
  | take other e =>
    unfold step
    dsimp only
    split
    · refine hassign _ (.inl ?_)
      intro he
      subst he
      exact hm e rfl
    · exact hn
  | call other =>
    unfold step
    dsimp only
    split
    · exact hn
    next errand hb =>
      have hne : other ≠ task := by
        intro he
        subst he
        rw [hn] at hb
        cases hb
      unfold call
      split
      · exact hn
      · split
        · exact hassign _ (.inl hne)
        · exact hn
  | finish other =>
    unfold step
    dsimp only
    split
    · exact hn
    · split
      · exact hassign none (.inr rfl)
      · exact hn
  | abandon other => exact hassign none (.inr rfl)
  | read other question =>
    unfold step
    dsimp only
    split
    · split <;> exact hn
    · exact hn
  | turn world => exact hn

theorem errand_play {x : Executor} {w : World} {moves : List Move}
    (h : ∀ e, .take task e ∉ moves) : (play x (fresh w) moves).errand task = none := by
  have h0 : (fresh w).errand task = none := rfl
  unfold play
  refine List.foldlRecOn moves (step x) (motive := fun c => c.errand task = none) h0 ?_
  intro c hn move hm
  refine errand_step hn fun e he => h e ?_
  rw [← he]
  exact hm

/-- What holds of a sound crew and is kept by each of its moves holds in every run that goes on from
there. -/
theorem Sound.play_induction (hf : K.faulty) {x : Executor} {f : Envelope → Effect}
    {moves : List Move} (hx : ∀ {task e}, .take task e ∈ moves → K.Upheld x e (f e))
    {P : Crew → Prop} (h : Sound K c) (h0 : P c)
    (hs : ∀ {c c'}, Sound K c → P c → Did K c c' → P c') :
    Sound K (play x c moves) ∧ P (play x c moves) := by
  unfold play
  refine List.foldlRecOn moves (step x) (motive := fun c => Sound K c ∧ P c) ⟨h, h0⟩ ?_
  intro c hinv move hm
  obtain ⟨hc, hp⟩ := hinv
  have ht : ∀ {task e}, move = .take task e → K.Upheld x e (f e) := by
    intro task e he
    subst he
    exact hx hm
  obtain ⟨hc', hd⟩ := sound_step (fun _ => hf) hc ht
  exact ⟨hc', hs hc hp hd⟩

/-- What holds of a fresh crew and is kept by each move of a sound one holds in every run. -/
theorem play_induction (hf : K.faulty) {x : Executor} {f : Envelope → Effect} {w : World}
    {moves : List Move}
    (hx : ∀ {task e}, .take task e ∈ moves → K.Upheld x e (f e))
    {P : Crew → Prop} (h0 : P (fresh w))
    (hs : ∀ {c c'}, Sound K c → P c → Did K c c' → P c') :
    Sound K (play x (fresh w) moves) ∧ P (play x (fresh w) moves) :=
  (sound_fresh K w).play_induction hf hx h0 hs

/-- What has happened by some point of a run is not undone in the rest of it. -/
theorem Sound.drift_play (hf : K.faulty) {x : Executor} {f : Envelope → Effect}
    {moves : List Move} (hx : ∀ {task e}, .take task e ∈ moves → K.Upheld x e (f e))
    (h : Sound K c) : K.drift c.committed (play x c moves).committed :=
  (h.play_induction (P := fun c' => K.drift c.committed c'.committed) hf hx (K.drift_refl _)
    fun _ hd hdid => K.drift_trans hd (drift_of_did hdid)).2

end Crew

end AgentFacts
