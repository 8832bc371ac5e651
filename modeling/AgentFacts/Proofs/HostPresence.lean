import AgentFacts.Proofs.AppliedReports
import AgentFacts.Proofs.ReferenceModels
import AgentFacts.Proofs.ReplayAgain

namespace AgentFacts

/-- A valid report on an agent's host, or a valid deregistration. -/
def Envelope.settlesHost (agent : AgentId) (e : Envelope) : Bool :=
  e.discovers agent || e.deregisters agent

/-- The last of some envelopes that reports an agent's host or deregisters it. In a log it is the
newest one. -/
def lastOnHost? (agent : AgentId) (es : List Envelope) : Option Envelope :=
  (es.filter (·.settlesHost agent)).getLast?

/-- The envelopes of a log that the ledger has come to name from one state to another. -/
def newlyNamed (log : EventLog) (m m' : ReadModels) : List Envelope :=
  log.envelopes.filter fun e =>
    m'.lastEnvelope? e.key = some e.id ∧ m.lastEnvelope? e.key ≠ some e.id

/-- The envelopes that are applied in the course of a drill, in order. -/
def Drill.applied (log : EventLog) (client : Nat) (d : Drill) : List Turn → List Envelope
  | [] => []
  | turn :: turns =>
    let next := d.step client turn
    newlyNamed log d.pipeline.world.models.committed next.pipeline.world.models.committed ++
      next.applied log client turns

section Last

variable {p q : α → Bool} {es : List α} {a : α}

theorem getLast?_filter_of_imp (h : (es.filter q).getLast? = some a) (ha : p a = true)
    (hpq : ∀ b ∈ es, p b = true → q b = true) : (es.filter p).getLast? = some a := by
  have hp : es.filter p = (es.filter q).filter p := by
    rw [List.filter_filter]
    refine List.filter_congr fun b hb => ?_
    cases hpb : p b with
    | false => rfl
    | true => rw [hpq b hb hpb]; rfl
  obtain ⟨before, hq⟩ := List.getLast?_eq_some_iff.1 h
  rw [hp, hq, List.filter_append, List.filter_cons_of_pos ha, List.filter_nil, List.getLast?_concat]

end Last

theorem filter_id_eq_singleton {es : List Envelope} (h : es.Pairwise (·.id < ·.id)) {e : Envelope}
    (he : e ∈ es) : es.filter (·.id = e.id) = [e] := by
  obtain ⟨before, after, rfl⟩ := List.append_of_mem he
  obtain ⟨-, hafter, hbefore⟩ := List.pairwise_append.1 h
  have hnone : before.filter (·.id = e.id) = [] ∧ after.filter (·.id = e.id) = [] := by
    refine ⟨List.filter_eq_nil_iff.2 fun e' hm => ?_, List.filter_eq_nil_iff.2 fun e' hm => ?_⟩
    · have hlt := hbefore e' hm e List.mem_cons_self
      simpa using fun hid : e'.id = e.id => EnvelopeId.lt_irrefl _ (hid ▸ hlt)
    · have hlt := (List.pairwise_cons.1 hafter).1 e' hm
      simpa using fun hid : e'.id = e.id => EnvelopeId.lt_irrefl _ (hid ▸ hlt)
  rw [List.filter_append, List.filter_cons_of_pos (by simp), hnone.1, hnone.2, List.nil_append]

section NewlyNamed

variable {log : EventLog} {m m' : ReadModels} {e : Envelope}

theorem newlyNamed_same (h : ∀ key, m'.lastEnvelope? key = m.lastEnvelope? key) :
    newlyNamed log m m' = [] := by
  unfold newlyNamed
  refine List.filter_eq_nil_iff.2 fun e _ => ?_
  rw [h e.key]
  simp

theorem newlyNamed_projects (hasc : log.Ascending) (he : e ∈ log.envelopes)
    (hp : Projects e m m') : newlyNamed log m m' = [e] := by
  have hadv := hp.advances
  rw [← filter_id_eq_singleton hasc.ids he]
  unfold newlyNamed
  refine List.filter_congr fun e' he' => ?_
  rw [decide_eq_decide]
  constructor
  · rintro ⟨hnew, hold⟩
    by_cases hk : e'.key = e.key
    · rw [hk, hadv.self] at hnew
      exact (Option.some.inj hnew).symm
    · exact absurd ((hadv.others _ hk).symm.trans hnew) hold
  · intro hid
    obtain rfl := hasc.unique he' he hid
    exact ⟨hadv.self, fun hl => hadv.due ⟨e'.id, hl, EnvelopeId.le_refl _⟩⟩

end NewlyNamed

/-- Valid envelopes of a log have been applied, and the last one of each pair is the one that the
ledger names; they have made of the hosts what these are. -/
structure ReadModels.MadeBy (log : EventLog) (es : List Envelope) (m : ReadModels) : Prop where
  chosen : ∀ e ∈ es, e ∈ log.envelopes ∧ e.isValid = true
  named : ∀ key, m.lastEnvelope? key = (es.filter (·.key = key)).getLast?.map (·.id)
  hosts : ∀ agent, ShowsHost agent es m

namespace ReadModels.MadeBy

variable {log : EventLog} {es : List Envelope} {m m' : ReadModels} {e : Envelope}

theorem empty (log : EventLog) : MadeBy log [] .empty where
  chosen _ h := absurd h List.not_mem_nil
  named _ := rfl
  hosts := .empty

theorem projects (h : MadeBy log es m) (he : e ∈ log.envelopes) (hp : Projects e m m') :
    MadeBy log (es ++ [e]) m' where
  chosen e' hm := by
    rcases List.mem_append.1 hm with hm | hm
    · exact h.chosen e' hm
    · rw [List.mem_singleton.1 hm]
      exact ⟨he, hp.isValid⟩
  named key := by
    rw [List.filter_append]
    by_cases hk : e.key = key
    · subst hk
      rw [hp.advances.self, List.filter_cons_of_pos (by simp), List.filter_nil,
        List.getLast?_concat]
      rfl
    · rw [hp.advances.others key (Ne.symm hk), List.filter_cons_of_neg (by simpa using hk),
        List.filter_nil, List.append_nil]
      exact h.named key
  hosts agent := by
    obtain ⟨time, hm⟩ := hp.eq_project
    rw [hm]
    exact ((h.hosts agent).project e).record _

theorem fails (h : MadeBy log es m) {r : OutcomeRecord} (hr : r.outcome.isSuccess = false) :
    MadeBy log es (m.record r) where
  chosen := h.chosen
  named key := by
    rw [lastEnvelope?_record_failure hr]
    exact h.named key
  hosts agent := (h.hosts agent).record r

/-- Once everything has been recovered, the last envelope of a pair to be applied is the newest
valid one. -/
theorem last_eq_newestValid? (h : MadeBy log es m) (hasc : log.Ascending) (hr : m.Recovered log)
    (key : LedgerKey) : (es.filter (·.key = key)).getLast? = newestValid? log key := by
  have hids := (h.named key).symm.trans (hr.ledger key)
  cases hn : newestValid? log key with
  | none =>
    rw [hn] at hids
    exact Option.map_eq_none_iff.1 hids
  | some newest =>
    rw [hn] at hids
    obtain ⟨last, hl, hid⟩ := Option.map_eq_some_iff.1 hids
    have hm := List.mem_of_mem_filter (List.mem_of_getLast? hl)
    rw [hl, hasc.unique (h.chosen last hm).1 (newestValid?_eq_some hasc hn).1.1 hid]

/-- The row of a host is there just when the last applied envelope on it is a report. Reports on a
host and its deregistrations are two pairs of the ledger, and the guard against stale envelopes does
not stand between the two. -/
theorem host_isSome_iff (h : MadeBy log es m) (agent : AgentId) :
    (m.hosts.get? agent).isSome = true ↔
      (lastOnHost? agent es).any (·.discovers agent) = true := by
  rw [Option.isSome_iff_ne_none, ne_eq, (h.hosts agent).absent_iff]
  exact lifetime_ne_nil_iff

end ReadModels.MadeBy

section LastOnHost

variable {log : EventLog} {es : List Envelope} {agent : AgentId} {e : Envelope}

theorem Envelope.settlesHost_iff : e.settlesHost agent = true ↔
    (e.key = ⟨agent, .hostDiscovered⟩ ∨ e.key = ⟨agent, .hostDeregistered⟩) ∧
      e.isValid = true := by
  have hd := ShowsLedger.isValidOf_key e ⟨agent, .hostDiscovered⟩
  have hg := ShowsLedger.isValidOf_key e ⟨agent, .hostDeregistered⟩
  unfold settlesHost discovers deregisters
  rw [hd, hg, Bool.or_eq_true, decide_eq_true_iff, decide_eq_true_iff, or_and_right]

theorem last_of_lastOnHost? (h : lastOnHost? agent es = some e) :
    (es.filter fun e' => e'.key = e.key ∧ e'.isValid).getLast? = some e := by
  obtain ⟨hk, hv⟩ :=
    Envelope.settlesHost_iff.1 (List.mem_filter.1 (List.mem_of_getLast? h)).2
  refine getLast?_filter_of_imp h (by simpa using hv) fun e' _ he' => ?_
  obtain ⟨hk', hv'⟩ := of_decide_eq_true he'
  exact Envelope.settlesHost_iff.2 ⟨hk' ▸ hk, hv'⟩

theorem any_discovers_iff_key (h : e.settlesHost agent = true) :
    e.discovers agent = true ↔ e.key = ⟨agent, .hostDiscovered⟩ := by
  have hd := ShowsLedger.isValidOf_key e ⟨agent, .hostDiscovered⟩
  unfold Envelope.discovers
  rw [hd, decide_eq_true_iff]
  exact and_iff_left (Envelope.settlesHost_iff.1 h).2

end LastOnHost

theorem ReadModels.MadeBy.changes {log : EventLog} {es : List Envelope} {m m' : ReadModels}
    (h : m.MadeBy log es) (hasc : log.Ascending) (hc : Drill.Changes log m m') :
    m'.MadeBy log (es ++ newlyNamed log m m') := by
  cases hc with
  | nothing hm =>
    subst hm
    rw [newlyNamed_same fun _ => rfl, List.append_nil]
    exact h
  | projects he hp =>
    rw [newlyNamed_projects hasc he hp]
    exact h.projects he hp
  | fails hr hm =>
    subst hm
    rw [newlyNamed_same (lastEnvelope?_record_failure hr), List.append_nil]
    exact h.fails hr

/-- However workers go on, the read models are what the envelopes have made of them that were
committed. -/
theorem Crew.madeBy_applied {x : Executor} (hx : Registry.standard = .ok x.registry)
    {log : EventLog} (hasc : log.Ascending) {w : World} {moves : List Move}
    (ht : ∀ {task e}, .take task e ∈ moves → e ∈ log.envelopes) :
    let c := play x (fresh w) moves
    c.committed.MadeBy log (appliedFrom log c.history) := by
  refine (play_induction (K := .standard x True (· ∈ log.envelopes))
    (P := fun c => c.committed.MadeBy log (appliedFrom log c.history)) trivial
    (fun hm => Charter.standard_upheld hx (ht hm)) (.empty log) ?_).2
  intro c c' _ h hd
  cases hd with
  | nothing hc hh =>
    rw [hc, hh]
    exact h
  | @commit task errand _ hc hh =>
    rw [hh, appliedFrom_append]
    dsimp only [Deed.applied?]
    rw [hasc.get?_eq_some hc.1]
    exact h.projects hc.1 hc.2
  | note _ _ _ hn hc hh =>
    rw [hc, hh, appliedFrom_append]
    exact (List.append_nil (appliedFrom log c.history)).symm ▸ h.fails hn.not_success

/-- In the course of a drill, what is applied goes on making the read models. -/
theorem Drill.Sound.madeBy_play {log : EventLog} {client : Nat} {d : Drill} {es : List Envelope}
    (h : d.Sound log client) (hasc : log.Ascending)
    (hm : d.pipeline.world.models.committed.MadeBy log es) (turns : List Turn) :
    (d.play client turns).pipeline.world.models.committed.MadeBy log
      (es ++ d.applied log client turns) := by
  induction turns generalizing d es with
  | nil => exact (List.append_nil es).symm ▸ hm
  | cons turn turns ih =>
    unfold applied
    rw [← List.append_assoc]
    exact ih (h.step hasc turn) (hm.changes hasc (h.changes turn))

/-- Once everything has been recovered, the last applied envelope on a host is the newest one in the
log if it is of the same kind. -/
theorem ReadModels.MadeBy.lastOnHost?_eq {log : EventLog} {es : List Envelope} {m : ReadModels}
    (h : m.MadeBy log es) (hasc : log.Ascending) (hr : m.Recovered log) {agent : AgentId}
    {last newest : Envelope} (hl : lastOnHost? agent es = some last)
    (hn : lastOnHost? agent log.envelopes = some newest) (hk : last.key = newest.key) :
    last = newest := by
  have hlast := last_of_lastOnHost? hl
  have hnewest : newestValid? log newest.key = some newest := last_of_lastOnHost? hn
  have hvalid : es.filter (fun e => e.key = last.key ∧ e.isValid) =
      es.filter (·.key = last.key) := by
    refine List.filter_congr fun e he => ?_
    rw [decide_eq_decide]
    exact and_iff_left (h.chosen e he).2
  rw [hvalid, h.last_eq_newestValid? hasc hr, hk, hnewest] at hlast
  exact (Option.some.inj hlast).symm

/-- Once everything has been recovered, an envelope on a host has been applied if there is a valid
one. -/
theorem ReadModels.MadeBy.exists_lastOnHost? {log : EventLog} {es : List Envelope}
    {m : ReadModels} (h : m.MadeBy log es) (hasc : log.Ascending) (hr : m.Recovered log)
    {agent : AgentId} {newest : Envelope}
    (hn : lastOnHost? agent log.envelopes = some newest) :
    ∃ last, lastOnHost? agent es = some last := by
  have hnewest : newestValid? log newest.key = some newest := last_of_lastOnHost? hn
  have hsettles := (List.mem_filter.1 (List.mem_of_getLast? hn)).2
  rw [← h.last_eq_newestValid? hasc hr] at hnewest
  have hm := List.mem_of_mem_filter (List.mem_of_getLast? hnewest)
  unfold lastOnHost?
  exact Option.ne_none_iff_exists'.1 fun hnone =>
    List.filter_eq_nil_iff.1 (List.getLast?_eq_none_iff.1 hnone) newest hm hsettles

/-- Once everything has been recovered, the row of a host is there just when the newest envelope on
it is a report, unless that one is not the last to have been applied. -/
theorem ReadModels.MadeBy.host_iff_newest {log : EventLog} {es : List Envelope} {m : ReadModels}
    (h : m.MadeBy log es) (hasc : log.Ascending) (hr : m.Recovered log) (agent : AgentId) :
    ((m.hosts.get? agent).isSome = true ↔
        (lastOnHost? agent log.envelopes).any (·.discovers agent) = true) ↔
      lastOnHost? agent es = lastOnHost? agent log.envelopes := by
  rw [h.host_isSome_iff agent]
  refine ⟨fun hiff => ?_, fun heq => by rw [heq]⟩
  cases hn : lastOnHost? agent log.envelopes with
  | none =>
    have hnone := List.filter_eq_nil_iff.1 (List.getLast?_eq_none_iff.1 hn)
    exact List.getLast?_eq_none_iff.2 (List.filter_eq_nil_iff.2 fun e he =>
      hnone e (h.chosen e he).1)
  | some newest =>
    obtain ⟨last, hl⟩ := h.exists_lastOnHost? hasc hr hn
    rw [hl, hn, Option.any_some, Option.any_some] at hiff
    have hlast := (List.mem_filter.1 (List.mem_of_getLast? hl)).2
    have hnewest := (List.mem_filter.1 (List.mem_of_getLast? hn)).2
    rw [any_discovers_iff_key hlast, any_discovers_iff_key hnewest] at hiff
    -- There are but two kinds, so if both are reports or neither is, they are of one kind, and the
    -- last applied of a kind is the newest of it.
    have hk : last.key = newest.key := by
      rcases (Envelope.settlesHost_iff.1 hlast).1 with hk | hk <;>
        rcases (Envelope.settlesHost_iff.1 hnewest).1 with hk' | hk'
      · rw [hk, hk']
      · exact hk.trans (hiff.1 hk).symm
      · exact (hiff.2 hk').trans hk'.symm
      · rw [hk, hk']
    rw [hl, h.lastOnHost?_eq hasc hr hl hn hk]

/-- After a run of any kind and a replay without faults, the row of an agent's host is there just
when the last applied one of its reports and deregistrations is a report. Of each of the two kinds
the newest valid envelope is applied last, but the newest of all need not be; and the row is as the
newest one has it just when it is. -/
theorem host_row_of_last_applied {r : Registry} (hr : Registry.standard = .ok r)
    (reports : List NewEnvelope) (retry : RetryPolicy) (w : World) (moves : List Move)
    (client : Nat) (settings : PipelineSettings) (turns : List Drill.Turn) (agent : AgentId) :
    let log := EventLog.ofReports reports
    let c := Crew.play ⟨r, retry⟩ (.fresh w) moves
    (∀ {task e}, .take task e ∈ moves → e ∈ log.envelopes ∧ c.errand task = none) →
      c.world.events = log → c.world.faults = .none → c.world.timerOf? (.client client) = none →
        let start := Drill.start c.world r settings
        let d := start.play client turns
        let applied := appliedFrom log c.history ++ start.applied log client turns
        let hasRow := (d.pipeline.world.models.committed.hosts.get? agent).isSome = true
        (hasRow ↔ (lastOnHost? agent applied).any (·.discovers agent) = true) ∧
          (d.Drained →
            (∀ key, (applied.filter (·.key = key)).getLast? = newestValid? log key) ∧
              ((hasRow ↔ (lastOnHost? agent log.envelopes).any (·.discovers agent) = true) ↔
                lastOnHost? agent applied = lastOnHost? agent log.envelopes)) := by
  intro log c htakes hlog hf ht start d applied hasRow
  have hasc : log.Ascending := EventLog.ascending_ofReports reports
  have hstart : start.Sound log client :=
    Drill.sound_start_play hr retry w moves htakes hlog hf ht settings
  have hmodels : start.pipeline.world.models.committed = c.committed :=
    congrArg _ (Drill.ready_start c.world r settings).2
  have hmade : d.pipeline.world.models.committed.MadeBy log applied :=
    hstart.madeBy_play hasc (hmodels ▸ Crew.madeBy_applied hr hasc fun hm => (htakes hm).1) turns
  refine ⟨hmade.host_isSome_iff agent, fun hd => ?_⟩
  have hrec := (hstart.play hasc turns).recovered hasc hd
  exact ⟨hmade.last_eq_newestValid? hasc hrec, hmade.host_iff_newest hasc hrec agent⟩

namespace Comeback

def agent : AgentId := ⟨"agent"⟩

def report : NewEnvelope :=
  ⟨agent, .hostDiscovered, .ofMembers [("hostname", .text "n1")], ⟨0, 0⟩⟩

def farewell : NewEnvelope :=
  ⟨agent, .hostDeregistered, .ofMembers [], ⟨1, 0⟩⟩

def world : World :=
  .new ⟨0, 0⟩ 1 (.ofQueues [(.begin, [some (.error (.unavailable "down"))])] [])

def moves : List Move :=
  Crew.dispatching (.worker 0) (report.withId ⟨1⟩) 12 ++
    Crew.dispatching (.worker 0) (farewell.withId ⟨2⟩) 12 ++
      [.turn { World.new ⟨0, 0⟩ 1 .none with events := .ofReports [report, farewell] }]

def settings : PipelineSettings :=
  ⟨1, 2, .zero, .zero, .single⟩

def turns : List Drill.Turn :=
  List.replicate 9 .feed ++ List.replicate 30 (.work 0) ++ [.close, .work 0]

theorem envelopes_log :
    (EventLog.ofReports [report, farewell]).envelopes = [report.withId ⟨1⟩, farewell.withId ⟨2⟩] :=
  EventLog.envelopes_ofReports (by decide +kernel)

theorem mem_log {task : TaskId} {e : Envelope} (h : .take task e ∈ moves) :
    task = .worker 0 ∧ e ∈ (EventLog.ofReports [report, farewell]).envelopes := by
  have htask : task = .worker 0 ∧ (e = report.withId ⟨1⟩ ∨ e = farewell.withId ⟨2⟩) := by
    simpa [moves, Crew.dispatching, ← and_or_left] using h
  rw [envelopes_log]
  exact ⟨htask.1, by simpa using htask.2⟩

/-- A report on a host fails while the store is down, and the host is deregistered. A replay brings
the report, which has not been applied yet, and skips the deregistration, which has: the host is
gone before the replay, and is back after it. -/
theorem run : ∃ r, Registry.standard = .ok r ∧
    let c := Crew.play ⟨r, .single⟩ (.fresh world) moves
    let d := (Drill.start c.world r settings).play 0 turns
    (c.errand (.worker 0)).isNone = true ∧ c.committed.hosts.get? agent = none ∧
      (Pipeline.isDone d.feeder = true ∧ d.pipeline.world.queue.items = [] ∧
        d.pipeline.pool.isIdle = true) ∧
      (d.pipeline.world.models.committed.hosts.get? agent).isSome = true :=
  ⟨_, rfl, by decide +kernel⟩

/-- The deregistration is the newest envelope on the host. -/
theorem newest : (lastOnHost? agent (EventLog.ofReports [report, farewell]).envelopes).any
    (·.discovers agent) = false := by
  decide +kernel

end Comeback

/-- The deregistration is the newest one, but the report has been applied after it. -/
theorem host_row_of_last_applied_late :
    let log := EventLog.ofReports [Comeback.report, Comeback.farewell]
    ∃ r, Registry.standard = .ok r ∧
      let c := Crew.play ⟨r, .single⟩ (.fresh Comeback.world) Comeback.moves
      let start := Drill.start c.world r Comeback.settings
      let applied := appliedFrom log c.history ++ start.applied log 0 Comeback.turns
      (start.play 0 Comeback.turns).Drained ∧
        (lastOnHost? Comeback.agent applied).any (·.discovers Comeback.agent) = true ∧
        lastOnHost? Comeback.agent applied ≠ lastOnHost? Comeback.agent log.envelopes := by
  intro log
  obtain ⟨r, hr, hidle, -, ⟨hfed, hq, hi⟩, hrow⟩ := Comeback.run
  have h := host_row_of_last_applied hr [Comeback.report, Comeback.farewell] .single Comeback.world
    Comeback.moves 0 Comeback.settings Comeback.turns Comeback.agent ?_ rfl rfl rfl
  · have hlast := h.1.1 hrow
    refine ⟨r, hr, .of_isIdle hfed hq hi, hlast, fun heq => ?_⟩
    rw [heq, Comeback.newest] at hlast
    cases hlast
  · intro task e hm
    obtain ⟨rfl, he⟩ := Comeback.mem_log hm
    exact ⟨he, Option.isNone_iff_eq_none.1 hidle⟩

/-- A host that is gone is back after a replay, though its deregistration is the newest envelope
on it. -/
theorem deregistered_host_returns :
    let log := EventLog.ofReports [Comeback.report, Comeback.farewell]
    ∃ r, Registry.standard = .ok r ∧
      let c := Crew.play ⟨r, .single⟩ (.fresh Comeback.world) Comeback.moves
      let d := (Drill.start c.world r Comeback.settings).play 0 Comeback.turns
      (∀ {task e}, .take task e ∈ Comeback.moves → e ∈ log.envelopes ∧ c.errand task = none) ∧
        c.committed.hosts.get? Comeback.agent = none ∧ d.Drained ∧
        ¬((d.pipeline.world.models.committed.hosts.get? Comeback.agent).isSome = true ↔
          (lastOnHost? Comeback.agent log.envelopes).any (·.discovers Comeback.agent) = true) := by
  intro log
  obtain ⟨r, hr, hidle, hgone, ⟨hfed, hq, hi⟩, hrow⟩ := Comeback.run
  refine ⟨r, hr, fun hm => ?_, hgone, .of_isIdle hfed hq hi, fun hiff => ?_⟩
  · obtain ⟨rfl, he⟩ := Comeback.mem_log hm
    exact ⟨he, Option.isNone_iff_eq_none.1 hidle⟩
  · have hnewest := hiff.1 hrow
    rw [Comeback.newest] at hnewest
    cases hnewest

end AgentFacts
