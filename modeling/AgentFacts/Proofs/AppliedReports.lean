import AgentFacts.Proofs.ReportTables

namespace AgentFacts

theorem EventLog.Ascending.get?_eq_some {log : EventLog} (h : log.Ascending) {e : Envelope}
    (he : e ∈ log.envelopes) : log.get? e.id = some e := by
  unfold EventLog.get?
  cases hf : log.envelopes.find? (·.id == e.id) with
  | none =>
    have hne := List.find?_eq_none.1 hf e he
    exact absurd (beq_self_eq_true e.id) hne
  | some found =>
    have hid : found.id = e.id := by simpa using List.find?_some hf
    rw [h.unique (List.mem_of_find?_eq_some hf) he hid]

def Deed.applied? (log : EventLog) : Deed → Option Envelope
  | .commit _ id => log.get? id
  | .note .. => none

/-- The envelopes of a log whose projections were committed, in the order of the commits. -/
def appliedFrom (log : EventLog) (history : List Deed) : List Envelope :=
  history.filterMap (Deed.applied? log)

theorem appliedFrom_append (log : EventLog) (history : List Deed) (deed : Deed) :
    appliedFrom log (history ++ [deed]) =
      appliedFrom log history ++ (deed.applied? log).toList := by
  unfold appliedFrom
  rw [List.filterMap_append]
  congr 1

theorem appliedTo_commit {history : List Deed} {es : List Envelope}
    (h : ∀ key, appliedTo key history = (es.filter (·.key = key)).map (·.id)) (e : Envelope)
    (key : LedgerKey) :
    appliedTo key (history ++ [.commit e.key e.id]) =
      ((es ++ [e]).filter (·.key = key)).map (·.id) := by
  rw [appliedTo_append, h key, List.filter_append, List.map_append]
  dsimp only [Deed.appliedTo?]
  by_cases hk : e.key = key <;> simp [hk]

/-- The read models are what the applied envelopes have made of them. -/
structure Crew.Follows (log : EventLog) (c : Crew) : Prop where
  applied : ∀ e ∈ appliedFrom log c.history, e ∈ log.envelopes ∧ e.isValid = true
  ids : ∀ key, appliedTo key c.history =
    ((appliedFrom log c.history).filter (·.key = key)).map (·.id)
  shows : ∀ {κ β : Type} (T : ReportTable κ β), T.Shows (appliedFrom log c.history) c.committed

namespace Crew

variable {log : EventLog} {x : Executor} {faulty : Prop} {c c' : Crew}

theorem follows_fresh (log : EventLog) (w : World) : (fresh w).Follows log where
  applied _ h := absurd h List.not_mem_nil
  ids _ := rfl
  shows T := T.shows_empty

theorem Follows.commit (h : c.Follows log) (hasc : log.Ascending) {e : Envelope}
    (he : e ∈ log.envelopes) (hp : Projects e c.committed c'.committed)
    (hh : c'.history = c.history ++ [.commit e.key e.id]) : c'.Follows log := by
  have happ : appliedFrom log c'.history = appliedFrom log c.history ++ [e] := by
    rw [hh, appliedFrom_append]
    dsimp only [Deed.applied?]
    rw [hasc.get?_eq_some he]
    rfl
  refine ⟨fun e' he' => ?_, fun key => ?_, fun T => ?_⟩
  · rw [happ] at he'
    rcases List.mem_append.1 he' with hm | hm
    · exact h.applied e' hm
    · rw [List.mem_singleton.1 hm]
      exact ⟨he, hp.isValid⟩
  · rw [happ, hh]
    exact appliedTo_commit h.ids e key
  · rw [happ]
    exact (h.shows T).projects hp

theorem Follows.note (h : c.Follows log) {r : OutcomeRecord} {base : ReadModels} {struck : Bool}
    (hc : c'.committed = c.committed.record r)
    (hh : c'.history = c.history ++ [.note r base struck]) : c'.Follows log := by
  have happ : appliedFrom log c'.history = appliedFrom log c.history := by
    rw [hh, appliedFrom_append]
    exact List.append_nil _
  refine ⟨fun e' he' => h.applied e' (happ ▸ he'), fun key => ?_, fun T => ?_⟩
  · rw [happ, hh, appliedTo_note]
    exact h.ids key
  · rw [happ, hc]
    exact (h.shows T).record r

theorem Follows.did (hasc : log.Ascending) (h : c.Follows log)
    (hd : Did (.standard x faulty (· ∈ log.envelopes)) c c') : c'.Follows log := by
  cases hd with
  | nothing hc hh => exact ⟨hh ▸ h.applied, hh ▸ h.ids, fun T => by rw [hc, hh]; exact h.shows T⟩
  | commit _ hc hh => exact h.commit hasc hc.1 hc.2 hh
  | note _ _ _ _ hc hh => exact h.note hc hh

/-- What is known throughout a run over a log, whatever happens to the calls of the workers. -/
theorem follows_play (hx : Registry.standard = .ok x.registry) (hasc : log.Ascending) {w : World}
    {moves : List Move} (ht : ∀ {task e}, .take task e ∈ moves → e ∈ log.envelopes) :
    (play x (fresh w) moves).Sound (.standard x True (· ∈ log.envelopes)) ∧
      (play x (fresh w) moves).Follows log ∧ (play x (fresh w) moves).InOrder :=
  play_induction (K := .standard x True (· ∈ log.envelopes))
    (P := fun c => c.Follows log ∧ c.InOrder) trivial
    (fun hm => Charter.standard_upheld hx (ht hm)) ⟨follows_fresh log w, inOrder_fresh w⟩
    fun _ h hd => ⟨h.1.did hasc hd, h.2.did (Charter.standard_orderly _ _ _) hd⟩

theorem Follows.pairwise (h : c.Follows log) (ho : c.InOrder) :
    (appliedFrom log c.history).Pairwise fun e e' => e.key = e'.key → e.id < e'.id := by
  rw [List.pairwise_iff_getElem]
  intro i j hi hj hij hk
  have hids := (ho (appliedFrom log c.history)[i].key).1
  rw [h.ids, List.pairwise_map, List.pairwise_filter] at hids
  exact List.pairwise_iff_getElem.1 hids i j hi hj hij (decide_eq_true rfl)
    (decide_eq_true hk.symm)

theorem Follows.exists_of_stale (h : c.Follows log) (ho : c.InOrder) {e : Envelope}
    (hs : c.committed.Stale e) :
    ∃ e' ∈ appliedFrom log c.history, e'.key = e.key ∧ e.id ≤ e'.id := by
  obtain ⟨last, hl, hle⟩ := hs
  rw [(ho e.key).2, h.ids] at hl
  obtain ⟨e', he', rfl⟩ := List.mem_map.1 (List.mem_of_getLast? hl)
  obtain ⟨hm, hk⟩ := List.mem_filter.1 he'
  exact ⟨e', hm, of_decide_eq_true hk, hle⟩

end Crew

namespace ReportTable

variable {κ β : Type}

/-- A table shows what the last applied report on a key has brought, and of the reports of one
source on a key none has been applied after a newer one. -/
structure Follows (T : ReportTable κ β) (applied : List Envelope) (m : ReadModels) (k : κ) :
    Prop where
  row : T.view m k = T.latest applied k
  ordered : (T.reportsOn applied k).Pairwise fun e e' => e.source = e'.source → e.id < e'.id

/-- No report on a key has been applied; and this one will not be, because a newer one of the same
source has been, which is on another key. The guard against stale envelopes goes by source and type,
and not by row. -/
structure Overtaken (T : ReportTable κ β) (applied : List Envelope) (e : Envelope) (k : κ) :
    Prop where
  unreported : T.reportsOn applied k = []
  newer : ∃ e' ∈ applied, e'.key = e.key ∧ e.id < e'.id ∧
    ∃ k', k' ≠ k ∧ (T.reported k' e').isSome = true

variable {T : ReportTable κ β} {log : EventLog} {c : Crew} {k : κ} {e : Envelope}

theorem follows_of_crew (h : c.Follows log) (ho : c.InOrder) :
    T.Follows (appliedFrom log c.history) c.committed k where
  row := h.shows T k
  ordered := by
    unfold reportsOn
    rw [List.pairwise_filter]
    refine (h.pairwise ho).imp fun hlt hr hr' hsource => hlt ?_
    exact LedgerKey.mk.injEq .. ▸
      ⟨hsource, (eventType_of_reported hr).trans (eventType_of_reported hr').symm⟩

/-- When a stale report has been on a key on which none has been applied, it has been overtaken. -/
theorem overtaken_iff (h : c.Follows log) (ho : c.InOrder) (hasc : log.Ascending)
    (he : e ∈ log.envelopes) (hr : (T.reported k e).isSome = true) (hs : c.committed.Stale e) :
    T.Overtaken (appliedFrom log c.history) e k ↔
      T.reportsOn (appliedFrom log c.history) k = [] := by
  refine ⟨fun hover => hover.unreported, fun hnone => ⟨hnone, ?_⟩⟩
  have hun := List.filter_eq_nil_iff.1 hnone
  obtain ⟨e', hm, hk, hle⟩ := h.exists_of_stale ho hs
  obtain ⟨hlog, hv⟩ := h.applied e' hm
  have hne : e.id ≠ e'.id := by
    intro hid
    obtain rfl := hasc.unique he hlog hid
    exact hun e hm hr
  have ht : e'.eventType = T.eventType :=
    (LedgerKey.mk.inj hk).2.trans (eventType_of_reported hr)
  obtain ⟨k', hr'⟩ := exists_reported hv ht
  refine ⟨e', hm, hk, EnvelopeId.lt_of_le_of_ne hle hne, k', fun hkk => ?_, hr'⟩
  subst hkk
  exact hun e' hm hr'

end ReportTable

namespace Crew

/-- A worker is done with an envelope, and no call to the store has failed it. -/
def Completed (x : Executor) (w : World) (moves : List Move) (e : Envelope) : Prop :=
  ∃ before task after errand, moves = before ++ .finish task :: after ∧
    (play x (fresh w) before).errand task = some errand ∧ errand.envelope = e ∧
    Pipeline.isDone errand.rest = true ∧ errand.struck = false

/-- What has been completed is stale from then on, if it is valid. -/
theorem stale_of_completed {x : Executor} {log : EventLog}
    (hx : Registry.standard = .ok x.registry) (hasc : log.Ascending) {w : World}
    {moves : List Move} (ht : ∀ {task e}, .take task e ∈ moves → e ∈ log.envelopes)
    {e : Envelope} {change : Write} (hc : e.change = .ok change) (h : Completed x w moves e) :
    (play x (fresh w) moves).committed.Stale e := by
  obtain ⟨before, task, after, errand, rfl, hb, rfl, hdone, hstruck⟩ := h
  obtain ⟨hsound, -⟩ := follows_play hx hasc (w := w) fun hm => ht (List.mem_append_left _ hm)
  obtain ⟨σ, hk⟩ := hsound.busy hb
  obtain ⟨hcopy, hends⟩ := hk.of_isDone hdone
  have hs : σ.seen.Stale errand.envelope := by
    rcases hends with hstr | hall
    · rw [hk.struck hstr.2] at hstruck
      cases hstruck
    · exact hall change hc
  have hlater : ReadModels.Since (play x (fresh w) before).committed
      (play x (play x (fresh w) before) (.finish task :: after)).committed :=
    hsound.drift_play trivial
      fun hm => Charter.standard_upheld hx (ht (List.mem_append_right _ hm))
  rw [show play x (fresh w) (before ++ .finish task :: after) =
    play x (play x (fresh w) before) (.finish task :: after) from List.foldl_append]
  exact hlater.stale (ReadModels.Since.stale (hk.fits.outside hcopy).2 hs)

/-- The moves of a worker who dispatches an envelope on its own, with as many calls as it may
take. -/
def dispatching (task : TaskId) (e : Envelope) (calls : Nat) : List Move :=
  .take task e :: List.replicate calls (.call task) ++ [.finish task]

theorem envelope_call {x : Executor} {c : Crew} {task : TaskId} {e : Envelope}
    (h : (c.errand task).map (·.envelope) = some e) :
    ((c.step x (.call task)).errand task).map (·.envelope) = some e := by
  obtain ⟨errand, hb, rfl⟩ := Option.map_eq_some_iff.1 h
  simp only [step, hb]
  unfold call
  split
  · exact h
  split
  · rw [show _ = some _ from assign_self c task _]
    rfl
  · exact h

theorem completed_of_dispatching {x : Executor} {w : World} {before : List Move}
    {task : TaskId} {e : Envelope} {calls : Nat} (after : List Move)
    (hidle : (play x (fresh w) before).errand task = none)
    (hdone : ((play x (fresh w) (before ++ .take task e :: List.replicate calls (.call task))).errand
      task).map (fun errand => (Pipeline.isDone errand.rest, errand.struck)) = some (true, false)) :
    Completed x w (before ++ dispatching task e calls ++ after) e := by
  obtain ⟨errand, hb, hd⟩ := Option.map_eq_some_iff.1 hdone
  refine ⟨before ++ .take task e :: List.replicate calls (.call task), task, after, errand,
    by simp [dispatching], hb, ?_, congrArg Prod.fst hd, congrArg Prod.snd hd⟩
  have hkept : ((play x (fresh w) (before ++ .take task e ::
      List.replicate calls (.call task))).errand task).map (·.envelope) = some e := by
    unfold play
    rw [List.foldl_append, List.foldl_cons]
    refine List.foldlRecOn _ (step x)
      (motive := fun c => (c.errand task).map (·.envelope) = some e) ?_ fun c h move hm => ?_
    · have htake : step x (play x (fresh w) before) (.take task e) =
          (play x (fresh w) before).assign task
            (some (.start x (play x (fresh w) before).committed e)) := by
        simp only [step, hidle]
      change ((step x (play x (fresh w) before) (.take task e)).errand task).map _ = _
      rw [htake, assign_self]
      rfl
    · rw [List.eq_of_mem_replicate hm]
      exact envelope_call h
  rw [hb] at hkept
  exact Option.some.inj hkept

/-- Two reports, of which the second is dispatched before the first; then both are replayed. -/
def crossed (first second : NewEnvelope) : List Move :=
  dispatching (.worker 1) (second.withId ⟨2⟩) 12 ++ dispatching (.worker 0) (first.withId ⟨1⟩) 12 ++
    dispatching (.worker 0) (first.withId ⟨1⟩) 12 ++ dispatching (.worker 1) (second.withId ⟨2⟩) 12

/-- Both workers come to an end with their report when it is first dispatched, and no call to the
store fails them. -/
def CrossedOn (x : Executor) (w : World) (first second : NewEnvelope) : Prop :=
  let done (moves : List Move) (task : TaskId) (e : NewEnvelope) (id : EnvelopeId) :=
    ((play x (fresh w) moves).errand task).isNone = true ∧
      ((play x (fresh w) (moves ++ .take task (e.withId id) ::
        List.replicate 12 (.call task))).errand task).map
          (fun errand => (Pipeline.isDone errand.rest, errand.struck)) = some (true, false)
  done [] (.worker 1) second ⟨2⟩ ∧
    done (dispatching (.worker 1) (second.withId ⟨2⟩) 12) (.worker 0) first ⟨1⟩

instance (x : Executor) (w : World) (first second : NewEnvelope) :
    Decidable (CrossedOn x w first second) :=
  inferInstanceAs (Decidable (_ ∧ _))

theorem CrossedOn.completed_second {x : Executor} {w : World} {first second : NewEnvelope}
    (h : CrossedOn x w first second) :
    Completed x w (crossed first second) (second.withId ⟨2⟩) := by
  obtain ⟨⟨hidle, hdone⟩, -⟩ := h
  have hc := completed_of_dispatching (dispatching (.worker 0) (first.withId ⟨1⟩) 12 ++
    dispatching (.worker 0) (first.withId ⟨1⟩) 12 ++ dispatching (.worker 1) (second.withId ⟨2⟩) 12)
    (Option.isNone_iff_eq_none.1 hidle) hdone
  unfold crossed
  simpa only [List.nil_append, List.append_assoc] using hc

theorem CrossedOn.completed_first {x : Executor} {w : World} {first second : NewEnvelope}
    (h : CrossedOn x w first second) :
    Completed x w (crossed first second) (first.withId ⟨1⟩) := by
  obtain ⟨-, hidle, hdone⟩ := h
  have hc := completed_of_dispatching
    (dispatching (.worker 0) (first.withId ⟨1⟩) 12 ++ dispatching (.worker 1) (second.withId ⟨2⟩) 12)
    (Option.isNone_iff_eq_none.1 hidle) hdone
  unfold crossed
  simpa only [List.append_assoc] using hc

theorem envelopes_crossed {first second : NewEnvelope} (hv : first.validate = .ok ())
    (hv' : second.validate = .ok ()) : (EventLog.ofReports [first, second]).envelopes =
      [first.withId ⟨1⟩, second.withId ⟨2⟩] :=
  EventLog.envelopes_ofReports (by simp [hv, hv'])

theorem mem_of_take_crossed {first second : NewEnvelope} (hv : first.validate = .ok ())
    (hv' : second.validate = .ok ()) {task : TaskId} {e : Envelope}
    (hm : .take task e ∈ crossed first second) :
    e ∈ (EventLog.ofReports [first, second]).envelopes := by
  rw [envelopes_crossed hv hv']
  simp only [crossed, dispatching, List.mem_append, List.mem_cons, List.mem_replicate] at hm
  grind

end Crew

/-- In every run, the row of a cluster or of a group is what the last applied report on it has
brought, and names the source of that one. No report comes after a newer one of the same source; of
different sources it may. -/
theorem rows_of_last_applied (x : Executor) (hx : Registry.standard = .ok x.registry)
    (reports : List NewEnvelope) (w : World) (moves : List Move) :
    let log := EventLog.ofReports reports
    let c := Crew.play x (.fresh w) moves
    let applied := appliedFrom log c.history
    (∀ {task e}, .take task e ∈ moves → e ∈ log.envelopes) →
      (∀ id, ReportTable.clusters.Follows applied c.committed id ∧
        (c.committed.clusters.get? id).map (·.reportedBy) =
          (ReportTable.clusters.reportsOn applied id).getLast?.map (·.source)) ∧
      ∀ group, ReportTable.checksResults.Follows applied c.committed group ∧
        (c.committed.checksResults.get? group).map (·.reportedBy) =
          (ReportTable.checksResults.reportsOn applied group).getLast?.map (·.source) := by
  intro log c applied htakes
  obtain ⟨-, hfol, hord⟩ :=
    Crew.follows_play hx (EventLog.ascending_ofReports reports) (w := w) htakes
  refine ⟨fun id => ?_, fun group => ?_⟩
  · have hrow : ReportTable.clusters.Follows applied c.committed id :=
      ReportTable.follows_of_crew hfol hord
    refine ⟨hrow, ?_⟩
    rw [show c.committed.clusters.get? id = _ from hrow.row]
    exact ReportTable.reportedBy_latest_cluster applied id
  · have hrow : ReportTable.checksResults.Follows applied c.committed group :=
      ReportTable.follows_of_crew hfol hord
    refine ⟨hrow, ?_⟩
    rw [show c.committed.checksResults.get? group = _ from hrow.row]
    exact ReportTable.reportedBy_latest_checksResult applied group

/-- Two agents report one cluster. The older report is applied last, and stays when both are
replayed. -/
theorem rows_of_last_applied_crossed :
    let older : NewEnvelope :=
      ⟨⟨"n1"⟩, .clusterDiscovered, .ofMembers [("id", .text "hana")], ⟨0, 0⟩⟩
    let newer : NewEnvelope := { older with source := ⟨"n2"⟩ }
    let log := EventLog.ofReports [older, newer]
    ∃ r, Registry.standard = .ok r ∧
      let c := Crew.play ⟨r, .single⟩ (.fresh (.new ⟨0, 0⟩ 1 .none)) (Crew.crossed older newer)
      let applied := appliedFrom log c.history
      applied.map (·.id) = [⟨2⟩, ⟨1⟩] ∧
        ReportTable.clusters.Follows applied c.committed "hana" ∧
        (c.committed.clusters.get? "hana").map (·.reportedBy) =
          (ReportTable.clusters.reportsOn applied "hana").getLast?.map (·.source) := by
  intro older newer log
  obtain ⟨r, hr, hids⟩ : ∃ r, Registry.standard = .ok r ∧
      (appliedFrom log (Crew.play ⟨r, .single⟩ (.fresh (.new ⟨0, 0⟩ 1 .none))
        (Crew.crossed older newer)).history).map (·.id) = [⟨2⟩, ⟨1⟩] :=
    ⟨_, rfl, by decide +kernel⟩
  have hvalid : older.validate = .ok () ∧ newer.validate = .ok () :=
    ⟨by decide +kernel, by decide +kernel⟩
  have h := rows_of_last_applied ⟨r, .single⟩ hr [older, newer] (.new ⟨0, 0⟩ 1 .none)
    (Crew.crossed older newer) (Crew.mem_of_take_crossed hvalid.1 hvalid.2)
  exact ⟨r, hr, hids, h.1 "hana"⟩

/-- A row that has been built from a newer report is replaced by one from an older report, of
another agent. -/
theorem older_report_replaces_newer :
    let older : NewEnvelope :=
      ⟨⟨"n1"⟩, .clusterDiscovered, .ofMembers [("id", .text "hana")], ⟨0, 0⟩⟩
    let newer : NewEnvelope := { older with source := ⟨"n2"⟩ }
    ∃ r, Registry.standard = .ok r ∧
      let x : Executor := ⟨r, .single⟩
      let c := Crew.play x (.fresh (.new ⟨0, 0⟩ 1 .none))
        (Crew.dispatching (.worker 1) (newer.withId ⟨2⟩) 12)
      let c' := Crew.play x c (Crew.dispatching (.worker 0) (older.withId ⟨1⟩) 12)
      c'.history = [.commit (newer.withId ⟨2⟩).key ⟨2⟩, .commit (older.withId ⟨1⟩).key ⟨1⟩] ∧
        (c.committed.clusters.get? "hana").map (·.reportedBy) = some newer.source ∧
        (c'.committed.clusters.get? "hana").map (·.reportedBy) = some older.source := by
  intro older newer
  exact ⟨_, rfl, by decide +kernel, by decide +kernel, by decide +kernel⟩

/-- Of the reports that are completed without a failing call to the store, one on a cluster or a
group that has no row has been overtaken by a newer one of its source on another; and only then is
there no row. -/
theorem row_missing_iff_overtaken (x : Executor) (hx : Registry.standard = .ok x.registry)
    (reports : List NewEnvelope) (w : World) (moves : List Move) (e : Envelope) :
    let log := EventLog.ofReports reports
    let c := Crew.play x (.fresh w) moves
    let applied := appliedFrom log c.history
    (∀ {task e}, .take task e ∈ moves → e ∈ log.envelopes) →
      e ∈ log.envelopes → Crew.Completed x w moves e →
        (∀ cluster, e.change = .ok (.upsertCluster cluster) →
          (c.committed.clusters.get? cluster.id = none ↔
            ReportTable.clusters.Overtaken applied e cluster.id)) ∧
        ∀ result, e.change = .ok (.upsertChecksResult result) →
          (c.committed.checksResults.get? result.groupId = none ↔
            ReportTable.checksResults.Overtaken applied e result.groupId) := by
  intro log c applied htakes he hdone
  have hasc : log.Ascending := EventLog.ascending_ofReports reports
  obtain ⟨-, hfol, hord⟩ := Crew.follows_play hx hasc (w := w) htakes
  refine ⟨fun cluster hc => ?_, fun result hc => ?_⟩
  · have hr := ReportTable.reported_of_upsertCluster hc
    rw [ReportTable.overtaken_iff hfol hord hasc he (by rw [hr]; rfl)
      (Crew.stale_of_completed hx hasc htakes hc hdone), ← ReportTable.latest_cluster_eq_none]
    exact Eq.congr_left (hfol.shows ReportTable.clusters cluster.id)
  · have hr := ReportTable.reported_of_upsertChecksResult hc
    rw [ReportTable.overtaken_iff hfol hord hasc he (by rw [hr]; rfl)
      (Crew.stale_of_completed hx hasc htakes hc hdone), ← ReportTable.latest_checksResult_eq_none]
    exact Eq.congr_left (hfol.shows ReportTable.checksResults result.groupId)

/-- An agent reports two clusters. The first report is overtaken by the second, and no replay brings
its row back. -/
theorem row_missing_iff_overtaken_crossed :
    let first : NewEnvelope :=
      ⟨⟨"agent"⟩, .clusterDiscovered, .ofMembers [("id", .text "hana")], ⟨0, 0⟩⟩
    let second : NewEnvelope := { first with payload := .ofMembers [("id", .text "ascs")] }
    ∃ r, Registry.standard = .ok r ∧
      let c := Crew.play ⟨r, .single⟩ (.fresh (.new ⟨0, 0⟩ 1 .none)) (Crew.crossed first second)
      let applied := appliedFrom (EventLog.ofReports [first, second]) c.history
      c.committed.clusters.get? "hana" = none ∧
        ReportTable.clusters.Overtaken applied (first.withId ⟨1⟩) "hana" := by
  intro first second
  let w : World := .new ⟨0, 0⟩ 1 .none
  let cluster : Cluster := ⟨"hana", "", .unknown, none, [], 0, 0, ⟨"agent"⟩, ⟨0, 0⟩⟩
  obtain ⟨r, hr, hdone, hrow⟩ : ∃ r, Registry.standard = .ok r ∧
      Crew.CrossedOn ⟨r, .single⟩ w first second ∧
      (Crew.play ⟨r, .single⟩ (.fresh w) (Crew.crossed first second)).committed.clusters.get?
        "hana" = none :=
    ⟨_, rfl, by decide +kernel, by decide +kernel⟩
  have hvalid : first.validate = .ok () ∧ second.validate = .ok () :=
    ⟨by decide +kernel, by decide +kernel⟩
  have hlog : first.withId ⟨1⟩ ∈ (EventLog.ofReports [first, second]).envelopes := by
    rw [Crew.envelopes_crossed hvalid.1 hvalid.2]
    exact List.mem_cons_self
  have h := row_missing_iff_overtaken ⟨r, .single⟩ hr [first, second] w (Crew.crossed first second)
    (first.withId ⟨1⟩) (Crew.mem_of_take_crossed hvalid.1 hvalid.2) hlog hdone.completed_first
  exact ⟨r, hr, hrow, (h.1 cluster (by decide +kernel)).1 hrow⟩

/-- An agent reports two clusters. Both reports are completed, the second one first, and both are
replayed; but the cluster of the first one has no row. -/
theorem report_lost_to_newer :
    let first : NewEnvelope :=
      ⟨⟨"agent"⟩, .clusterDiscovered, .ofMembers [("id", .text "hana")], ⟨0, 0⟩⟩
    let second : NewEnvelope := { first with payload := .ofMembers [("id", .text "ascs")] }
    let log := EventLog.ofReports [first, second]
    let w : World := .new ⟨0, 0⟩ 1 .none
    ∃ r, Registry.standard = .ok r ∧
      let x : Executor := ⟨r, .single⟩
      let moves := Crew.crossed first second
      (∀ e ∈ log.envelopes, Crew.Completed x w moves e) ∧
        ∃ e ∈ log.envelopes, ∃ cluster, e.change = .ok (.upsertCluster cluster) ∧
          (Crew.play x (.fresh w) moves).committed.clusters.get? cluster.id = none := by
  intro first second log w
  let cluster : Cluster := ⟨"hana", "", .unknown, none, [], 0, 0, ⟨"agent"⟩, ⟨0, 0⟩⟩
  obtain ⟨r, hr, hdone, hrow⟩ : ∃ r, Registry.standard = .ok r ∧
      Crew.CrossedOn ⟨r, .single⟩ w first second ∧
      (Crew.play ⟨r, .single⟩ (.fresh w) (Crew.crossed first second)).committed.clusters.get?
        "hana" = none :=
    ⟨_, rfl, by decide +kernel, by decide +kernel⟩
  have hlog : log.envelopes = [first.withId ⟨1⟩, second.withId ⟨2⟩] :=
    Crew.envelopes_crossed (by decide +kernel) (by decide +kernel)
  refine ⟨r, hr, fun e he => ?_, first.withId ⟨1⟩, ?_, cluster, by decide +kernel, hrow⟩
  · rw [hlog] at he
    simp only [List.mem_cons, List.not_mem_nil, or_false] at he
    rcases he with rfl | rfl
    · exact hdone.completed_first
    · exact hdone.completed_second
  · rw [hlog]
    exact List.mem_cons_self

end AgentFacts
