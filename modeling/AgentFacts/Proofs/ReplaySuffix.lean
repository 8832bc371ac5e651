import AgentFacts.Proofs.LedgerSummary
import AgentFacts.Proofs.ReplayStages

namespace AgentFacts

/-- A replay, with the pipeline that it shares with others. -/
structure Replayer where
  pipeline : Pipeline
  rest : Program (Except (Halt PipelineError) ReplayStats)
  course : Course

namespace Replayer

open Replay (Stage ofEventLog)

inductive Move where
  | feed
  | call (task : TaskId) (c : Call)
  | leave (task : TaskId)
  | work (index : Nat)
  | supervise
  | spawn
  | cancel
  | dropPool
  | closeSenders
  | turn (world : World)

def Move.isFeed : Move → Bool
  | .feed => true
  | _ => false

/-- A replay of what comes after an id, about to begin, by a client who does not wait for anything.
The log holds some reports; all else is as it may be. -/
def start (client : Nat) (after : Option EnvelopeId) (reports : List NewEnvelope)
    (p : Pipeline) : Replayer where
  pipeline := { p with
    world := { p.world.clearTimer (.client client) with events := .ofReports reports } }
  rest := (Replay.run after).run
  course := ⟨none, [], []⟩

def isOpen (s : Replayer) : Bool :=
  s.pipeline.world.queue.isOpen

def result? (s : Replayer) : Option (Except (Halt PipelineError) ReplayStats) :=
  Pipeline.value? s.rest

def within (s : Replayer) (world : World) : Replayer :=
  { s with pipeline := { s.pipeline with world } }

variable (client : Nat) (after : Option EnvelopeId)

def feed (s : Replayer) : Replayer :=
  match s.rest with
  | .done _ => s
  | .call c next =>
    let before := s.pipeline.world
    match before.answer (.client client) c with
    | .reply reply world =>
      { s.within world with
        rest := next reply
        course := (s.course.note after before c reply).grow before world }
    | .wait world => { s.within world with course := s.course.grow before world }

def step (s : Replayer) : Move → Replayer
  | .feed => s.feed client after
  | .call task c =>
    if task = .client client then s else s.within (s.pipeline.world.answer task c).world
  | .leave task => if task = .client client then s else s.within (s.pipeline.world.forget task)
  | .work index => { s with pipeline := s.pipeline.work index }
  | .supervise => { s with pipeline := s.pipeline.runSupervisor }
  | .spawn => { s with pipeline := s.pipeline.spawn }
  | .cancel => { s with pipeline := s.pipeline.cancel }
  | .dropPool => { s with pipeline := s.pipeline.dropPool }
  | .closeSenders => { s with pipeline := s.pipeline.closeSenders }
  | .turn world =>
    let before := s.pipeline.world
    s.within { world with
      queue := before.queue, events := before.events
      streams := before.streams, timers := before.timers }

def play (s : Replayer) (moves : List Move) : Replayer :=
  moves.foldl (step client after) s

/-- A replay stands at a stage, and its course so far shows that. -/
structure Sound (client : Nat) (after : Option EnvelopeId) (s : Replayer) (σ : Stage) : Prop where
  keeps : s.rest.Keeps (Stage.Permits after) Stage.Goes
    (fun σ result => σ.result? = some result) σ
  course : s.course = σ.course
  fits : σ.Fits client s.pipeline.world

/-- What comes of some calls by the replay when the queue is closed. -/
structure Dwindles (s : Replayer) (σ : Stage) (calls : Nat) (s' : Replayer) (σ' : Stage) :
    Prop where
  closed : s'.isOpen = false
  queued : s'.course.queued = s.course.queued
  calls : σ'.calls ≤ σ.calls - calls

variable {client after} {s s' : Replayer} {σ σ' : Stage}

theorem Dwindles.trans {s'' : Replayer} {σ'' : Stage} {n n' : Nat} (h : s.Dwindles σ n s' σ')
    (h' : s'.Dwindles σ' n' s'' σ'') : s.Dwindles σ (n + n') s'' σ'' where
  closed := h'.closed
  queued := h'.queued.trans h.queued
  calls := by
    have hfirst := h.calls
    have hrest := h'.calls
    omega

theorem sound_start (client : Nat) (after : Option EnvelopeId) (reports : List NewEnvelope)
    (p : Pipeline) : (start client after reports p).Sound client after .opening where
  keeps := Replay.stages_run after
  course := rfl
  fits := {
    stream := fun hs => by cases hs
    timer := World.timerOf?_clearTimer_self p.world (.client client)
    refused := fun hr => by cases hr
    ascending := EventLog.ascending_ofReports reports
    held := .nil }

theorem Sound.result?_eq (h : s.Sound client after σ) : s.result? = σ.result? := by
  have hk := h.keeps
  unfold result?
  cases hr : s.rest with
  | done result =>
    rw [hr] at hk
    exact (show σ.result? = some result from hk).symm
  | call c next =>
    rw [hr] at hk
    exact (Stage.result?_of_permits hk.1).symm

/-- The pipeline has gone on, and has left to the client what it needs. -/
theorem Sound.others (h : s.Sound client after σ) {p : Pipeline}
    (hw : World.Leaves client s.pipeline.world p.world) :
    Sound client after { s with pipeline := p } σ ∧
      (s.isOpen = false → s.Dwindles σ 0 { s with pipeline := p } σ) :=
  ⟨⟨h.keeps, h.course, h.fits.leaves hw⟩, fun ho => ⟨hw.closed ho, rfl, Nat.le_refl _⟩⟩

/-- The replay goes on by one call, unless it has returned. -/
theorem Sound.feed (h : s.Sound client after σ) :
    ∃ σ', (s.feed client after).Sound client after σ' ∧
      (s.isOpen = false → s.Dwindles σ 1 (s.feed client after) σ') := by
  have hk := h.keeps
  unfold Replayer.feed
  split
  next result hr =>
    rw [hr] at hk
    have hcalls := Stage.calls_eq_zero_iff.2 ⟨result, hk⟩
    exact ⟨σ, h, fun ho => ⟨ho, rfl, by omega⟩⟩
  next c next hr =>
    rw [hr] at hk
    obtain ⟨hp, hnext⟩ := hk
    dsimp only
    split
    next reply world ha =>
      obtain ⟨σ', hanswers⟩ := Stage.answers h.fits hp ha
      rw [h.course, hanswers.noted]
      refine ⟨σ', ⟨hnext reply σ' hanswers.goes, rfl, hanswers.fits⟩, fun ho => ?_⟩
      obtain ⟨hclosed, hqueued⟩ := hanswers.closed ho
      have hcalls := hanswers.goes.calls_lt hqueued
      refine ⟨hclosed, ?_, by omega⟩
      rw [h.course]
      exact hqueued
    next world ha =>
      obtain ⟨hw, hq, hopen⟩ := Stage.waits h.fits hp ha
      rw [Course.grow_eq hq, List.append_nil]
      refine ⟨σ, ⟨h.keeps, h.course, h.fits.leaves hw⟩, fun ho => ?_⟩
      cases hopen.symm.trans ho

theorem Sound.step (h : s.Sound client after σ) (move : Move) :
    ∃ σ', (s.step client after move).Sound client after σ' ∧
      (s.isOpen = false →
        s.Dwindles σ (if move.isFeed then 1 else 0) (s.step client after move) σ') := by
  have hothers {p : Pipeline} (hw : World.Leaves client s.pipeline.world p.world) :
      ∃ σ', Sound client after { s with pipeline := p } σ' ∧
        (s.isOpen = false → s.Dwindles σ 0 { s with pipeline := p } σ') :=
    ⟨σ, h.others hw⟩
  cases move with
  | feed => exact h.feed
  | call task c =>
    by_cases ht : task = .client client
    · rw [show s.step client after (.call task c) = s from if_pos ht]
      exact hothers (.refl client _)
    · rw [show s.step client after (.call task c) = s.within _ from if_neg ht]
      exact hothers (World.leaves_answer ht s.pipeline.world c)
  | leave task =>
    by_cases ht : task = .client client
    · rw [show s.step client after (.leave task) = s from if_pos ht]
      exact hothers (.refl client _)
    · rw [show s.step client after (.leave task) = s.within _ from if_neg ht]
      exact hothers (World.leaves_forget ht s.pipeline.world)
  | work index => exact hothers (Pipeline.leaves_work s.pipeline client index)
  | supervise => exact hothers (Pipeline.leaves_runSupervisor s.pipeline client)
  | spawn => exact hothers (Pipeline.leaves_spawn s.pipeline client)
  | cancel => exact hothers (Pipeline.leaves_cancel s.pipeline client)
  | dropPool => exact hothers (Pipeline.leaves_finish s.pipeline client)
  | closeSenders => exact hothers (Pipeline.leaves_closeSenders s.pipeline client)
  | turn world => exact hothers (World.leaves_of_same client rfl rfl rfl rfl)

theorem Sound.play (h : s.Sound client after σ) (moves : List Move) :
    ∃ σ', (s.play client after moves).Sound client after σ' ∧
      (s.isOpen = false →
        s.Dwindles σ (moves.countP Move.isFeed) (s.play client after moves) σ') := by
  induction moves generalizing s σ with
  | nil => exact ⟨σ, h, fun ho => ⟨ho, rfl, Nat.le_refl _⟩⟩
  | cons move rest ih =>
    obtain ⟨σ', hstep, hfirst⟩ := h.step move
    obtain ⟨σ'', hplay, hrest⟩ := ih hstep
    refine ⟨σ'', hplay, fun ho => ?_⟩
    have hall := (hfirst ho).trans (hrest (hfirst ho).closed)
    rw [Nat.add_comm, ← List.countP_cons] at hall
    exact hall

/-- What a replay returns, with what has come of it by then. -/
inductive Returns (s : Replayer) : Except (Halt PipelineError) ReplayStats → Prop where
  /-- All that was to be replayed has been queued. -/
  | complete {stats : ReplayStats} (opened : s.course.opened = some (.ok s.course.queued))
      (enqueued : stats.enqueued = s.course.queued.length)
      (last : EnvelopeId.NewestOf (s.course.queued.map (·.id)) stats.lastEnvelope) :
      Returns s (.ok stats)
  | unopened {halt : Halt EventLogError} (opened : s.course.opened = some (.error halt)) :
      Returns s (.error (ofEventLog halt))
  /-- In the place of the next envelope the stream has yielded an error. -/
  | broken {halt : Halt EventLogError}
      (yielded : s.course.yielded = s.course.queued.map .ok ++ [.error halt]) :
      Returns s (.error (ofEventLog halt))
  /-- The queue has been closed before it has taken the next envelope. -/
  | refused {e : Envelope} (yielded : s.course.yielded = (s.course.queued ++ [e]).map .ok)
      (closed : s.isOpen = false) : Returns s (.error (.error (.enqueue .closed)))

/-- What is true of a replay at any time, whatever others have done in between. -/
structure FeedsSuffix (client : Nat) (after : Option EnvelopeId) (s : Replayer) : Prop where
  /-- The envelopes to be replayed are in order, and all different. -/
  held : s.course.held.Pairwise (·.id < ·.id)
  queued : s.course.queued <+: s.course.held
  returned : ∀ {result}, s.result? = some result → s.Returns result
  unopened : ∀ {halt}, s.course.opened = some (.error halt) →
    s.result? = some (.error (ofEventLog halt)) ∧ s.course.queued = []
  /-- With the first error of the stream the replay ends; what came before it has been queued. -/
  broken : ∀ {k : Nat} {halt}, s.course.yielded[k]? = some (.error halt) →
    s.result? = some (.error (ofEventLog halt)) ∧ s.course.queued.length = k
  /-- Once the queue is closed nothing more is put on it, and the replay is about to end; when it
  has got its items without an error and there is one more to be queued, it tells so. -/
  closed : s.isOpen = false → ∀ later,
    let s' := s.play client after later
    s'.course.queued = s.course.queued ∧
      (3 ≤ later.countP Move.isFeed → (∃ result, s'.result? = some result) ∧
        (s.course.queued.length < s'.course.held.length →
          (∀ halt, .error halt ∉ s'.course.yielded) →
            s'.result? = some (.error (.error (.enqueue .closed)))))

namespace Sound

theorem queued (h : s.Sound client after σ) : s.course.queued <+: s.course.held := by
  rw [h.course]
  cases σ with
  | opening => exact List.prefix_refl _
  | unopened => exact List.prefix_refl _
  | telling => exact List.prefix_refl _
  | complete => exact List.prefix_refl _
  | _ => exact List.prefix_append _ _

theorem returned (h : s.Sound client after σ) {result : Except (Halt PipelineError) ReplayStats}
    (hr : s.result? = some result) : s.Returns result := by
  rw [h.result?_eq] at hr
  have hcourse := h.course
  cases σ with
  | complete queued =>
    cases hr
    have hids : (queued.map (·.id)).Pairwise (· < ·) := List.pairwise_map.2 h.fits.held
    refine .complete ?_ ?_ ?_ <;> rw [hcourse]
    · rfl
    · rfl
    · exact EnvelopeId.newestOf_getLast? hids
  | unopened halt =>
    cases hr
    exact .unopened (congrArg Course.opened hcourse)
  | broken queued rest halt =>
    cases hr
    refine .broken ?_
    rw [hcourse]
    rfl
  | refused queued next rest =>
    cases hr
    refine .refused (e := next) ?_ (h.fits.refused rfl)
    rw [hcourse]
    rfl
  | _ => cases hr

theorem unopened (h : s.Sound client after σ) {halt : Halt EventLogError}
    (ho : s.course.opened = some (.error halt)) :
    s.result? = some (.error (ofEventLog halt)) ∧ s.course.queued = [] := by
  rw [h.course] at ho ⊢
  rw [h.result?_eq]
  cases σ with
  | unopened halt' =>
    cases ho
    exact ⟨rfl, rfl⟩
  | _ => cases ho

theorem broken (h : s.Sound client after σ) {k : Nat} {halt : Halt EventLogError}
    (hk : s.course.yielded[k]? = some (.error halt)) :
    s.result? = some (.error (ofEventLog halt)) ∧ s.course.queued.length = k := by
  have hall (es : List Envelope) (hm : Except.error halt ∈ es.map .ok) : False := by
    obtain ⟨e, -, he⟩ := List.mem_map.1 hm
    cases he
  rw [h.course] at hk ⊢
  rw [h.result?_eq]
  cases σ with
  | opening => cases hk
  | unopened => cases hk
  | broken queued rest halt' =>
    -- Every item but the last is an envelope.
    change (queued.map Except.ok ++ [.error halt'])[k]? = some (.error halt) at hk
    rw [List.getElem?_append] at hk
    split at hk
    · exact (hall queued (List.mem_of_getElem? hk)).elim
    next hlt =>
      rw [List.length_map, Nat.not_lt] at hlt
      rw [List.getElem?_singleton, List.length_map] at hk
      split at hk
      next hzero =>
        cases hk
        exact ⟨rfl, Nat.le_antisymm hlt (Nat.sub_eq_zero_iff_le.1 hzero)⟩
      · cases hk
  | _ => exact (hall _ (List.mem_of_getElem? hk)).elim

theorem closed (h : s.Sound client after σ) (ho : s.isOpen = false) (later : List Move) :
    let s' := s.play client after later
    s'.course.queued = s.course.queued ∧
      (3 ≤ later.countP Move.isFeed → (∃ result, s'.result? = some result) ∧
        (s.course.queued.length < s'.course.held.length →
          (∀ halt, .error halt ∉ s'.course.yielded) →
            s'.result? = some (.error (.error (.enqueue .closed))))) := by
  intro s'
  obtain ⟨σ', hs, hdwindles⟩ := h.play later
  obtain ⟨-, hqueued, hcalls⟩ := hdwindles ho
  refine ⟨hqueued, fun hle => ?_⟩
  have hfirst := σ.calls_le
  obtain ⟨result, hr⟩ := Stage.calls_eq_zero_iff.1 (show σ'.calls = 0 by omega)
  rw [← hs.result?_eq] at hr
  refine ⟨⟨result, hr⟩, fun hlt hyielded => ?_⟩
  rw [hr]
  rw [← hqueued] at hlt
  cases hs.returned hr with
  | complete opened =>
    unfold Course.held at hlt
    rw [opened] at hlt
    exact absurd hlt (Nat.lt_irrefl _)
  | unopened opened =>
    unfold Course.held at hlt
    rw [opened] at hlt
    cases hlt
  | @broken halt yielded =>
    refine absurd ?_ (hyielded halt)
    rw [yielded]
    exact List.mem_append_right _ List.mem_cons_self
  | refused => rfl

theorem feedsSuffix (h : s.Sound client after σ) : s.FeedsSuffix client after where
  held := h.course ▸ h.fits.held
  queued := h.queued
  returned := h.returned
  unopened := h.unopened
  broken := h.broken
  closed := h.closed

end Sound

end Replayer

/-- Whatever the log holds, the queue has room for and others do in between, a replay puts on the
queue what the log held after the id when the stream was opened: in order, each envelope once, and
up to where it stops. When it returns stats, nothing is missing, and they give the number and the
greatest id of what it has queued. When the stream yields an error in the place of an envelope, or
the queue is closed before it has taken one, the replay returns just that error, with all that came
before on the queue. -/
theorem replay_feeds_suffix (client : Nat) (after : Option EnvelopeId)
    (reports : List NewEnvelope) (p : Pipeline) (moves : List Replayer.Move) :
    ((Replayer.start client after reports p).play client after moves).FeedsSuffix client after := by
  obtain ⟨σ, h, -⟩ := (Replayer.sound_start client after reports p).play moves
  exact h.feedsSuffix

/-- There is room for one envelope, and two are to be replayed. While the replay waits with the
second one, something else is persisted and the pool is let go. -/
example :
    let report := fun source => NewEnvelope.mk ⟨source⟩ .hostHeartbeat .null ⟨0, 0⟩
    let reports := [report "a", report "b", report "c"]
    let settings := { PipelineSettings.standard with queueCapacity := 1 }
    let start := Replayer.start 0 (some ⟨1⟩) reports (.new ⟨0, 0⟩ .empty settings .none)
    let s := start.play 0 (some ⟨1⟩)
      (List.replicate 6 .feed ++ [.call (.client 1) (.persist (report "d")), .dropPool, .feed])
    s.result? = some (.error (.error (.enqueue .closed))) ∧
      s.course.held.map (·.id.value) = [2, 3] ∧ s.course.queued.map (·.id.value) = [2] := by
  decide +kernel

end AgentFacts
