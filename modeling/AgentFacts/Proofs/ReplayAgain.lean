import AgentFacts.Proofs.SingleWorker

namespace AgentFacts

/-- A ledger row but for the time of its last outcome. -/
def Subscription.untimed (row : Subscription) : LedgerKey × Option EnvelopeId × Outcome :=
  (⟨row.source, row.eventType⟩, row.lastEnvelope, row.outcome)

/-- Two ledger rows are of the same pair and name the same envelope. -/
structure Subscription.Alike (row row' : Subscription) : Prop where
  source : row'.source = row.source
  eventType : row'.eventType = row.eventType
  lastEnvelope : row'.lastEnvelope = row.lastEnvelope

theorem Subscription.Alike.untimed_eq {row row' : Subscription} (h : row.Alike row')
    (ho : row'.outcome = row.outcome) : row'.untimed = row.untimed := by
  unfold untimed
  rw [h.source, h.eventType, h.lastEnvelope, ho]

/-- No entity has changed, and the ledger names the same envelopes. -/
structure ReadModels.SameEffects (m m' : ReadModels) : Prop where
  entities : ReadModels.SameEntities m m'
  lastEnvelope : ∀ key, m'.lastEnvelope? key = m.lastEnvelope? key

namespace ReadModels

variable {m m' n : ReadModels} {key : LedgerKey} {row : Subscription}

theorem SameEffects.refl (m : ReadModels) : SameEffects m m := ⟨.refl m, fun _ => rfl⟩

theorem SameEffects.trans (h : SameEffects m m') (h' : SameEffects m' n) : SameEffects m n where
  entities := h.entities.trans h'.entities
  lastEnvelope key := (h'.lastEnvelope key).trans (h.lastEnvelope key)

theorem SameEffects.stale_iff (h : SameEffects m m') {e : Envelope} : m'.Stale e ↔ m.Stale e :=
  stale_congr (h.lastEnvelope e.key)

theorem sameEffects_record_failure {r : OutcomeRecord} (hr : r.outcome.isSuccess = false) :
    SameEffects m (m.record r) :=
  ⟨sameEntities_record m r, lastEnvelope?_record_failure hr⟩

theorem alike_record_failure {r : OutcomeRecord} (hr : r.outcome.isSuccess = false)
    (h : m.ledger.get? key = some row) :
    ∃ row', (m.record r).ledger.get? key = some row' ∧ row.Alike row' := by
  by_cases hk : key = r.key
  · subst hk
    refine ⟨row.apply r, ?_, rfl, rfl, if_neg (by rw [hr]; exact Bool.false_ne_true)⟩
    rw [ledger_record_self]
    unfold rowAfter
    rw [h]
  · exact ⟨row, (ledger_record_ne hk).trans h, rfl, rfl, rfl⟩

theorem Stale.exists_row {e : Envelope} (h : m.Stale e) :
    ∃ row, m.ledger.get? e.key = some row := by
  obtain ⟨last, hl, -⟩ := h
  obtain ⟨row, hrow, -⟩ := Option.bind_eq_some_iff.1 hl
  exact ⟨row, hrow⟩

end ReadModels

namespace Handled

variable {e : Envelope} {o : DispatchOutcome} {m m' : ReadModels} {key : LedgerKey}

theorem ledger_ne (h : Handled e m o m') (hk : e.key ≠ key) :
    m'.ledger.get? key = m.ledger.get? key := by
  rcases h.skipped_or_recorded with ⟨-, -, rfl⟩ | ⟨-, -, time, rfl⟩
  · rfl
  · rw [ReadModels.ledger_record_ne (r := .ofEnvelope e e.outcome time) hk.symm,
      ReadModels.ledger_project]

theorem eq_of_stale (h : Handled e m o m') (hk : e.eventType ∈ EventType.known)
    (hs : m.Stale e) : m' = m := by
  cases h with
  | applied hdue _ => exact absurd hs hdue
  | skipped _ _ => rfl
  | failed _ hdue _ => exact absurd hs hdue
  | unknown hn => exact absurd hk hn

/-- The row of the envelope's pair shows its outcome, unless it is stale. -/
theorem exists_row (h : Handled e m o m') :
    ∃ row, m'.ledger.get? e.key = some row ∧
      (row.outcome = e.outcome ∨ e.eventType ∈ EventType.known ∧ m'.Stale e) := by
  rcases h.skipped_or_recorded with ⟨hk, hs, rfl⟩ | ⟨-, -, time, rfl⟩
  · obtain ⟨row, hrow⟩ := hs.exists_row
    exact ⟨row, hrow, .inr ⟨hk, hs⟩⟩
  · exact ⟨_, ReadModels.ledger_record_self _ (.ofEnvelope e e.outcome time),
      .inl (ReadModels.outcome_rowAfter ..)⟩

/-- An envelope that is stale if it is valid leaves a failure at most. -/
theorem eq_or_failure (h : Handled e m o m') (hst : e.isValid = true → m.Stale e) :
    m' = m ∨ ∃ r, r.outcome.isSuccess = false ∧ m' = m.record r := by
  rcases h.skipped_or_recorded with ⟨-, -, heq⟩ | ⟨hdue, -, time, rfl⟩
  · exact .inl heq
  · have hv : e.isValid = false := Bool.eq_false_iff.2 fun hv => hdue hv (hst hv)
    rw [ReadModels.project_of_not_isValid hv]
    exact .inr ⟨_, Envelope.outcome_of_not_isValid hv, rfl⟩

end Handled

namespace Handles

variable {es : List Envelope} {os os' : List DispatchOutcome} {base m n : ReadModels}
  {key : LedgerKey} {last : Envelope} {row : Subscription}

/-- While all envelopes of a pair are skipped, its row stays as it is. -/
theorem ledger_of_stale (h : Handles es os m n)
    (hst : ∀ e ∈ es, e.key = key → e.eventType ∈ EventType.known ∧ m.Stale e) :
    n.ledger.get? key = m.ledger.get? key := by
  induction h with
  | nil => rfl
  | @cons e es o os m m' n first rest ih =>
    have hrow : m'.ledger.get? key = m.ledger.get? key := by
      by_cases hk : e.key = key
      · obtain ⟨hknown, hs⟩ := hst e List.mem_cons_self hk
        rw [first.eq_of_stale hknown hs]
      · exact first.ledger_ne hk
    rw [ih fun e' hm hk => ?_, hrow]
    refine (hst e' (List.mem_cons_of_mem _ hm) hk).imp_right (ReadModels.stale_congr ?_).2
    unfold ReadModels.lastEnvelope?
    rw [hk, hrow]

theorem alike (h : Handles es os m n) (hst : ∀ e ∈ es, e.isValid = true → m.Stale e)
    (hrow : m.ledger.get? key = some row) :
    ∃ row', n.ledger.get? key = some row' ∧ row.Alike row' := by
  induction h generalizing row with
  | nil => exact ⟨row, hrow, rfl, rfl, rfl⟩
  | @cons e es o os m m' n first rest ih =>
    have hst' := fun e' hm => hst e' (List.mem_cons_of_mem e hm)
    rcases first.eq_or_failure (hst e List.mem_cons_self) with rfl | ⟨r, hr, rfl⟩
    · exact ih hst' hrow
    · obtain ⟨row', hrow', ha⟩ := ReadModels.alike_record_failure hr hrow
      have hsame := ReadModels.sameEffects_record_failure (m := m) hr
      obtain ⟨row'', hrow'', ha'⟩ := ih (fun e' hm hv => hsame.stale_iff.2 (hst' e' hm hv)) hrow'
      exact ⟨row'', hrow'', ha'.source.trans ha.source, ha'.eventType.trans ha.eventType,
        ha'.lastEnvelope.trans ha.lastEnvelope⟩

/-- The row of a pair shows the outcome of the pair's last envelope, unless that one is stale. -/
theorem exists_row (h : Handles es os m n) (hl : (es.filter (·.key = key)).getLast? = some last) :
    ∃ row, n.ledger.get? key = some row ∧
      (row.outcome = last.outcome ∨ last.eventType ∈ EventType.known ∧ n.Stale last) := by
  induction es using List.reverseRecOn generalizing os n with
  | nil => cases hl
  | append_singleton es e ih =>
    obtain ⟨first, rest, m', rfl, hes, he⟩ := h.append_inv
    cases he with
    | cons hh hnil =>
    cases hnil
    rw [List.filter_append] at hl
    by_cases hk : e.key = key
    · rw [List.filter_cons_of_pos (by simpa using hk), List.filter_nil,
        List.getLast?_concat] at hl
      obtain rfl := Option.some.inj hl
      exact hk ▸ hh.exists_row
    · rw [List.filter_cons_of_neg (by simpa using hk), List.filter_nil, List.append_nil] at hl
      obtain ⟨row, hrow, ho⟩ := ih hes hl
      have hsame := hh.ledger_ne hk
      refine ⟨row, hsame.trans hrow, ho.imp_right fun hs => hs.imp_right ?_⟩
      have hkey : last.key = key := by simpa using (List.mem_filter.1 (List.mem_of_getLast? hl)).2
      refine (ReadModels.stale_congr ?_).2
      unfold ReadModels.lastEnvelope?
      rw [hkey, hsame]

/-- What is handled twice in the same order, once after the other, ends up with the same outcomes:
the last envelope of a pair decides, and it is either skipped or fails as it did. -/
theorem untimed_eq (h : Handles es os base m) (h' : Handles es os' m n)
    (hasc : es.Pairwise (·.id < ·.id)) (hst : ∀ e ∈ es, e.isValid = true → m.Stale e)
    (key : LedgerKey) :
    (n.ledger.get? key).map (·.untimed) = (m.ledger.get? key).map (·.untimed) := by
  cases hl : (es.filter (·.key = key)).getLast? with
  | none =>
    have hnone := List.filter_eq_nil_iff.1 (List.getLast?_eq_none_iff.1 hl)
    rw [h'.ledger_of_stale fun e hm hk => absurd (decide_eq_true hk) (hnone e hm)]
  | some last =>
    have hlast : last.key = key := by simpa using (List.mem_filter.1 (List.mem_of_getLast? hl)).2
    by_cases hskip : last.eventType ∈ EventType.known ∧ m.Stale last
    · rw [h'.ledger_of_stale fun e hm hk => ?_]
      have hkey : e.key = last.key := hk.trans hlast.symm
      refine ⟨(LedgerKey.mk.inj hkey).2 ▸ hskip.1, hskip.2.of_le hkey ?_⟩
      exact Envelope.le_of_getLast? (hasc.sublist List.filter_sublist) hl
        (List.mem_filter.2 ⟨hm, decide_eq_true hk⟩)
    · obtain ⟨row, hrow, ho⟩ := h.exists_row hl
      obtain ⟨row', hrow', halike⟩ := h'.alike hst hrow
      obtain ⟨row'', hrow'', ho'⟩ := h'.exists_row hl
      obtain rfl := Option.some.inj (hrow'.symm.trans hrow'')
      have hstale : n.Stale last ↔ m.Stale last := by
        refine ReadModels.stale_congr ?_
        unfold ReadModels.lastEnvelope?
        rw [hlast, hrow, hrow']
        exact halike.lastEnvelope
      rw [hstale] at ho'
      rw [hrow, hrow', Option.map_some, Option.map_some,
        halike.untimed_eq ((ho'.resolve_right hskip).trans (ho.resolve_right hskip).symm)]

end Handles

namespace Drill

/-- The log is replayed once more: to a new pool, or to the same one while it takes envelopes. -/
inductive Again (r : Registry) (d : Drill) : Drill → Prop where
  | anew (settings : PipelineSettings) : Again r d (.start d.pipeline.world r settings)
  | on (senders : d.pipeline.world.queue.hasSenders = true) :
      Again r d { d with feeder := (Replay.run none).run }

/-- What a turn of a replay does to the read models: nothing, a projection or a failure. -/
inductive Changes (log : EventLog) (m m' : ReadModels) : Prop where
  | nothing (same : m' = m)
  | projects {e : Envelope} (logged : e ∈ log.envelopes) (made : Projects e m m')
  | fails {r : OutcomeRecord} (failed : r.outcome.isSuccess = false) (noted : m' = m.record r)

namespace Sound

variable {log : EventLog} {client : Nat} {d d' : Drill} {r : Registry}

theorem on (h : d.Sound log client) (hs : d.pipeline.world.queue.hasSenders = true) :
    Sound log client { d with feeder := (Replay.run none).run } := by
  obtain ⟨φ, -, hφ, -⟩ := h.feed
  exact {
    registry := h.registry
    cancelled := h.cancelled
    staffed := h.staffed
    supervision := h.supervision
    stopped := h.stopped
    senders := fun hn => absurd (hs.symm.trans hn) (fun h => by cases h)
    items := h.items
    crew := h.crew
    faithful := h.faithful
    feed := ⟨⟨φ.rest, []⟩, Replay.feeds_run log φ.rest, hφ.fresh,
      fun _ he => absurd he List.not_mem_nil⟩ }

theorem restart (h : d.Sound log client) (hd : d.Drained) (hr : Registry.standard = .ok r)
    (settings : PipelineSettings) :
    (start d.pipeline.world r settings).Sound log client := by
  obtain ⟨φ, -, hφ, -⟩ := h.feed
  obtain ⟨c, hc, hs⟩ := h.crew
  rw [← hc.world] at hφ ⊢
  exact sound_start hr hs (hc.idle hd.idle) (hc.committed ▸ h.faithful) hφ.events hφ.faults
    hφ.timer settings

/-- A replay starts over from the read models that the last one has left. -/
theorem again (h : d.Sound log client) (hd : d.Drained) (hr : Registry.standard = .ok r)
    (ha : d.Again r d') :
    d'.Sound log client ∧ d'.Ready ∧ d'.pipeline.world.models = d.pipeline.world.models := by
  cases ha with
  | anew settings =>
    obtain ⟨hready, hm⟩ := ready_start d.pipeline.world r settings
    exact ⟨h.restart hd hr settings, hready, hm⟩
  | on hs =>
    refine ⟨h.on hs, ⟨rfl, hd.empty, fun worker hw => ?_⟩, rfl⟩
    obtain ⟨i, hi⟩ := List.mem_iff_getElem?.1 hw
    have hfree := hd.idle i
    rw [hi] at hfree
    cases worker with
    | idle => rfl
    | busy e rest => cases hfree
    | stopped => exact absurd ((h.stopped hi).2.symm.trans hs) Bool.false_ne_true

theorem step_frame (h : d.Sound log client) (turn : Turn) :
    (∃ index, turn = .work index) ∨
      (d.step client turn).pipeline.world.models = d.pipeline.world.models ∧
        (d.step client turn).pipeline.pool.workers = d.pipeline.pool.workers := by
  cases turn with
  | work index => exact .inl ⟨index, rfl⟩
  | feed =>
    obtain ⟨φ, hfeeds, hφ, -⟩ := h.feed
    obtain ⟨world, feeder, sent, φ', heq, hw, -⟩ :=
      exists_fed hfeeds hφ fun hn => (h.open_of_call hn).1
    rw [show d.step client .feed = _ from heq]
    exact .inr ⟨hw.models, rfl⟩
  | close =>
    rcases step_close client d with heq | ⟨-, woken, heq⟩ <;> rw [heq] <;> exact .inr ⟨rfl, rfl⟩
  | supervise =>
    unfold Drill.step
    dsimp only
    rcases h.supervised with heq | ⟨heq, -⟩ <;> rw [heq] <;> exact .inr ⟨rfl, rfl⟩
  | elapse time =>
    obtain ⟨woken, heq⟩ := step_elapse client d time
    rw [heq]
    exact .inr ⟨rfl, rfl⟩
  | rouse woken => exact .inr ⟨rfl, rfl⟩

theorem changes (h : d.Sound log client) (turn : Turn) :
    Changes log d.pipeline.world.models.committed
      (d.step client turn).pipeline.world.models.committed := by
  rcases h.step_frame turn with ⟨index, rfl⟩ | ⟨hm, -⟩
  · obtain ⟨c, hc, ⟨⟨c', hc', -, hd⟩, -, -⟩⟩ := h.mirrored index
    change Changes log _ (d.pipeline.work index).world.models.committed
    rw [← hc.committed, ← hc'.committed]
    cases hd with
    | nothing hm _ => exact .nothing hm
    | commit _ hm _ => exact .projects hm.1 hm.2
    | note _ _ _ hn hm _ => exact .fails hn.not_success hm
  · exact .nothing (congrArg _ hm)

theorem length_step (h : d.Sound log client) (turn : Turn) :
    (d.step client turn).pipeline.pool.workers.length = d.pipeline.pool.workers.length := by
  rcases h.step_frame turn with ⟨index, rfl⟩ | ⟨-, hw⟩
  · obtain ⟨c, -, hm⟩ := h.mirrored index
    exact hm.worked.length
  · rw [hw]

theorem play_induction (h : d.Sound log client) (hasc : log.Ascending) {P : Drill → Prop}
    (h0 : P d) (hs : ∀ {d turn}, Sound log client d → P d → P (d.step client turn))
    (turns : List Turn) : P (d.play client turns) :=
  (List.foldlRecOn turns (Drill.step client) (motive := fun d => d.Sound log client ∧ P d) ⟨h, h0⟩
    fun _ hd turn _ => ⟨hd.1.step hasc turn, hs hd.1 hd.2⟩).2

theorem length_play (h : d.Sound log client) (hasc : log.Ascending) (turns : List Turn) :
    (d.play client turns).pipeline.pool.workers.length = d.pipeline.pool.workers.length :=
  h.play_induction (P := fun d' => d'.pipeline.pool.workers.length = _) hasc rfl
    (fun hd hlen => (hd.length_step _).trans hlen) turns

/-- While every valid envelope is stale, a replay has no effects. -/
theorem sameEffects_play (h : d.Sound log client) (hasc : log.Ascending)
    (hst : ∀ e ∈ log.envelopes, e.isValid = true → d.pipeline.world.models.committed.Stale e)
    (turns : List Turn) :
    d.pipeline.world.models.committed.SameEffects
      (d.play client turns).pipeline.world.models.committed := by
  refine h.play_induction (P := fun d' => d.pipeline.world.models.committed.SameEffects
    d'.pipeline.world.models.committed) hasc (.refl _) ?_ turns
  intro d' turn hd hsame
  refine hsame.trans ?_
  cases hd.changes turn with
  | nothing hm => exact hm ▸ .refl _
  | @projects e he hp =>
    -- An envelope that is projected was due, and was so before this replay.
    exact absurd (hsame.stale_iff.2 (hst e he hp.isValid)) hp.due
  | fails hr hm => exact hm ▸ ReadModels.sameEffects_record_failure hr

end Sound

end Drill

/-- Once a log has been replayed, replaying it again changes no entity and nothing that the ledger
names; and when both replays have a single worker, the second one changes nothing in the ledger but
times. -/
theorem replay_again_keeps {r : Registry} (hr : Registry.standard = .ok r)
    (reports : List NewEnvelope) (retry : RetryPolicy) (w : World) (moves : List Move)
    (client : Nat) (settings : PipelineSettings) (turns : List Drill.Turn) :
    let log := EventLog.ofReports reports
    let c := Crew.play ⟨r, retry⟩ (.fresh w) moves
    (∀ {task e}, .take task e ∈ moves → e ∈ log.envelopes ∧ c.errand task = none) →
      c.world.events = log → c.world.faults = .none → c.world.timerOf? (.client client) = none →
        let d := (Drill.start c.world r settings).play client turns
        let m := d.pipeline.world.models.committed
        d.Drained → ∀ again, d.Again r again → ∀ turns',
          let d' := again.play client turns'
          let m' := d'.pipeline.world.models.committed
          m.SameEffects m' ∧
            (d.pipeline.pool.workers.length = 1 → again.pipeline.pool.workers.length = 1 →
              d'.Drained → ∀ key,
                (m'.ledger.get? key).map (·.untimed) = (m.ledger.get? key).map (·.untimed)) := by
  intro log c htakes hlog hf ht d m hd again hagain turns' d' m'
  have hasc : log.Ascending := EventLog.ascending_ofReports reports
  have hstart := Drill.sound_start_play hr retry w moves htakes hlog hf ht settings
  have hsound : d.Sound log client := hstart.play hasc turns
  obtain ⟨hsound', hready, hm⟩ := hsound.again hd hr hagain
  have hst := hsound.stale_of_drained hd
  refine ⟨?_, fun hone hone' hd' key => ?_⟩
  · have hsame := hsound'.sameEffects_play hasc (hm ▸ hst) turns'
    rw [hm] at hsame
    exact hsame
  · obtain ⟨os, hfirst⟩ := hstart.handles hasc (Drill.ready_start ..).1
      ((hstart.length_play hasc turns).symm.trans hone) hd
    obtain ⟨os', hsecond⟩ := hsound'.handles hasc hready hone' hd'
    rw [hm] at hsecond
    exact hfirst.untimed_eq hsecond hasc.ids hst key

/-- The last of three reports is broken and so is the first; a worker has tried the last one before.
A single worker replays them twice, and tells of the last one's failure both times. -/
theorem replay_again_keeps_broken :
    let payload : Json := .ofMembers [("instances", .list [.ofMembers [("sid", .text "PRD"),
      ("instance_number", .text "00"), ("system_type", .text "application")]])]
    let report : NewEnvelope := ⟨⟨"agent"⟩, .sapSystemDiscovered, payload, ⟨0, 0⟩⟩
    let broken : NewEnvelope := { report with payload := .null }
    let log := EventLog.ofReports [broken, report, broken]
    let later : World := { World.new ⟨0, 0⟩ 1 .none with events := log }
    let moves : List Move := .take (.worker 0) (broken.withId ⟨3⟩) ::
      List.replicate 12 (.call (.worker 0)) ++ [.finish (.worker 0), .turn later]
    let settings : PipelineSettings := ⟨1, 3, .zero, .zero, .single⟩
    let turns : List Drill.Turn := List.replicate 12 .feed ++ List.replicate 45 (.work 0) ++
      [.close, .work 0]
    ∃ r, Registry.standard = .ok r ∧
      let c := Crew.play ⟨r, .single⟩ (.fresh (.new ⟨0, 0⟩ 1 .none)) moves
      let d := (Drill.start c.world r settings).play 0 turns
      let d' := (Drill.start d.pipeline.world r settings).play 0 turns
      let m := d.pipeline.world.models.committed
      let m' := d'.pipeline.world.models.committed
      d.Drained ∧ d'.Drained ∧ m.SameEffects m' ∧
        (∀ key, (m'.ledger.get? key).map (·.untimed) = (m.ledger.get? key).map (·.untimed)) ∧
        (m'.ledger.get? ⟨⟨"agent"⟩, .sapSystemDiscovered⟩).map
          (fun row => (row.lastEnvelope, row.outcome.isSuccess)) = some (some ⟨2⟩, false) := by
  intro payload report broken log later moves settings turns
  obtain ⟨r, hr, hrun⟩ : ∃ r, Registry.standard = .ok r ∧
      let c := Crew.play ⟨r, .single⟩ (.fresh (.new ⟨0, 0⟩ 1 .none)) moves
      let d := (Drill.start c.world r settings).play 0 turns
      let d' := (Drill.start d.pipeline.world r settings).play 0 turns
      ((c.errand (.worker 0)).isNone = true ∧ d.pipeline.pool.workers.length = 1 ∧
        d.pipeline.pool.isIdle = true ∧ d.pipeline.world.queue.items = [] ∧
        Pipeline.isDone d.feeder = true) ∧
        (d'.pipeline.pool.isIdle = true ∧ d'.pipeline.world.queue.items = [] ∧
          Pipeline.isDone d'.feeder = true) ∧
        (d'.pipeline.world.models.committed.ledger.get? ⟨⟨"agent"⟩, .sapSystemDiscovered⟩).map
          (fun row => (row.lastEnvelope, row.outcome.isSuccess)) = some (some ⟨2⟩, false) :=
    ⟨_, rfl, by decide +kernel⟩
  obtain ⟨⟨hidle, hone, hi, hq, hfed⟩, ⟨hi', hq', hfed'⟩, hrow⟩ := hrun
  have hd := Drill.Drained.of_isIdle hfed hq hi
  have hd' := Drill.Drained.of_isIdle hfed' hq' hi'
  have h := replay_again_keeps hr [broken, report, broken] .single (.new ⟨0, 0⟩ 1 .none) moves 0
    settings turns ?_ rfl rfl rfl hd _ (.anew settings) turns
  · exact ⟨r, hr, hd, hd', h.1, h.2 hone rfl hd', hrow⟩
  · intro task e hm
    obtain ⟨rfl, rfl⟩ : task = .worker 0 ∧ e = broken.withId ⟨3⟩ := by
      simpa [moves] using hm
    refine ⟨?_, Option.isNone_iff_eq_none.1 hidle⟩
    have hv : ∀ e ∈ [broken, report, broken], e.validate = .ok () := by decide +kernel
    rw [EventLog.envelopes_ofReports hv]
    simp

end AgentFacts
