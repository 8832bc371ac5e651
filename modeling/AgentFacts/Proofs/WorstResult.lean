import AgentFacts.Proofs.ReportedSets

namespace AgentFacts

/-- There is nothing to be seen in a text. -/
def Text.Blank (s : String) : Prop :=
  ∀ c ∈ s.toList, isBlank c = true

theorem Text.blank_iff {s : String} : Blank s ↔ allBlank s = true :=
  List.all_eq_true.symm

namespace ChecksReport

/-- A group is named and there are results, each of a check that is named. -/
structure Complete (report : ChecksReport) : Prop where
  group : ¬ Text.Blank report.groupId
  results : report.results ≠ []
  checks : ∀ entry ∈ report.results, ¬ Text.Blank entry.checkId

/-- What a report is refused for: the name of the group is looked at first, then those of the
checks, and last whether there are any. -/
inductive Lacks (report : ChecksReport) : ValidationError → Prop where
  | group (h : Text.Blank report.groupId) : Lacks report (.missingField "group_id")
  | check (hgroup : ¬ Text.Blank report.groupId)
    (h : ∃ entry ∈ report.results, Text.Blank entry.checkId) :
    Lacks report (.missingField "check_id")
  | results (hgroup : ¬ Text.Blank report.groupId)
    (hchecks : ∀ entry ∈ report.results, ¬ Text.Blank entry.checkId) (h : report.results = []) :
    Lacks report (.noResults report.groupId)

end ChecksReport

/-- The worst of some results, in the order in which outcomes are compared. -/
structure CheckHealth.IsWorst (entries : List CheckResultEntry) (health : CheckHealth) : Prop where
  reached : ∃ entry ∈ entries, entry.result = health
  worst : ∀ entry ∈ entries, entry.result ≤ health

/-- The checks that are reported, as `agent` reports them at `time`, with the worst of their results
as the health of the group. -/
structure ChecksResult.Describes (agent : AgentId) (time : Instant) (report : ChecksReport)
    (result : ChecksResult) : Prop where
  groupId : result.groupId = report.groupId
  results : result.results = report.results
  reportedBy : result.reportedBy = agent
  updatedAt : result.updatedAt = time
  health : CheckHealth.IsWorst report.results result.health

/-- What becomes of a report, and of those that tell more or the same in another way. -/
structure ChecksReport.Decided (agent : AgentId) (time : Instant) (report : ChecksReport) :
    Prop where
  accepted : (∃ result, ChecksResult.ofReport agent report time = .ok result) ↔ report.Complete
  describes : ∀ result, ChecksResult.ofReport agent report time = .ok result →
    result.Describes agent time report
  refused : ∀ e, ChecksResult.ofReport agent report time = .error e ↔ report.Lacks e
  /-- The results may change places and be told more than once. -/
  retold : ∀ results, (∀ entry, entry ∈ results ↔ entry ∈ report.results) →
    (ChecksResult.ofReport agent { report with results } time).map (·.health) =
      (ChecksResult.ofReport agent report time).map (·.health)
  /-- Further results make nothing better. -/
  continued : ∀ more result result', ChecksResult.ofReport agent report time = .ok result →
    ChecksResult.ofReport agent { report with results := report.results ++ more } time =
      .ok result' → result.health ≤ result'.health

namespace CheckHealth

variable {a b : CheckHealth} {entries entries' : List CheckResultEntry}

theorem le_antisymm (hab : a ≤ b) (hba : b ≤ a) : a = b := by
  have hseverity : a.severity = b.severity := Nat.le_antisymm hab hba
  revert hseverity
  cases a <;> cases b <;> decide

theorem IsWorst.le (ha : IsWorst entries a) (hb : IsWorst entries' b)
    (hsub : ∀ entry ∈ entries, entry ∈ entries') : a ≤ b := by
  obtain ⟨entry, hm, rfl⟩ := ha.reached
  exact hb.worst entry (hsub entry hm)

/-- The worst of some results depends on nothing but what is among them. -/
theorem IsWorst.eq_of_mem_iff (ha : IsWorst entries a) (hb : IsWorst entries' b)
    (hsame : ∀ entry, entry ∈ entries' ↔ entry ∈ entries) : a = b :=
  le_antisymm (ha.le hb fun entry => (hsame entry).2) (hb.le ha fun entry => (hsame entry).1)

end CheckHealth

namespace ChecksReport

variable {report : ChecksReport} {results : List CheckResultEntry} {e : ValidationError}

theorem eq_nil_of_mem_iff (hsame : ∀ entry, entry ∈ results ↔ entry ∈ report.results) :
    results = [] ↔ report.results = [] := by
  simp only [List.eq_nil_iff_forall_not_mem, hsame]

theorem Complete.retold (h : report.Complete)
    (hsame : ∀ entry, entry ∈ results ↔ entry ∈ report.results) :
    { report with results }.Complete :=
  ⟨h.group, mt (eq_nil_of_mem_iff hsame).1 h.results,
    fun entry hm => h.checks entry ((hsame entry).1 hm)⟩

theorem Lacks.retold (h : report.Lacks e)
    (hsame : ∀ entry, entry ∈ results ↔ entry ∈ report.results) :
    { report with results }.Lacks e := by
  cases h with
  | group h => exact .group h
  | check hgroup h =>
    obtain ⟨entry, hm, hblank⟩ := h
    exact .check hgroup ⟨entry, (hsame entry).2 hm, hblank⟩
  | results hgroup hchecks h =>
    exact .results hgroup (fun entry hm => hchecks entry ((hsame entry).1 hm))
      ((eq_nil_of_mem_iff hsame).2 h)

end ChecksReport

/-- After a check that is passed, and only then, what comes next is done. -/
theorem check_then_eq_ok {ε α : Type} {x : Except ε Unit} {y : Except ε α} {a : α} :
    (x >>= fun _ => y) = .ok a ↔ x = .ok () ∧ y = .ok a := by
  cases x with
  | error e => simp [bind, Except.bind]
  | ok u => simp [bind, Except.bind]

namespace ChecksResult

variable {agent : AgentId} {time : Instant} {report report' : ChecksReport}
  {result result' : ChecksResult} {e : ValidationError}

theorem require_eq_ok_iff {field value : String} :
    require field value = .ok () ↔ ¬ Text.Blank value := by
  rw [require_eq_ok, Text.blank_iff, Bool.not_eq_true]

theorem checks_cons {entry : CheckResultEntry} {rest : List CheckResultEntry} :
    ((entry :: rest).forM fun entry => require "check_id" entry.checkId) =
      (require "check_id" entry.checkId >>= fun _ =>
        rest.forM fun entry => require "check_id" entry.checkId) := rfl

theorem checks_eq_ok {entries : List CheckResultEntry} :
    (entries.forM fun entry => require "check_id" entry.checkId) = .ok () ↔
      ∀ entry ∈ entries, ¬ Text.Blank entry.checkId := by
  induction entries with
  | nil => simp [pure, Except.pure]
  | cons entry rest ih =>
    rw [checks_cons, check_then_eq_ok, ih, require_eq_ok_iff, List.forall_mem_cons]

theorem checks_eq_error {entries : List CheckResultEntry} :
    (entries.forM fun entry => require "check_id" entry.checkId) = .error e ↔
      (∃ entry ∈ entries, Text.Blank entry.checkId) ∧ e = .missingField "check_id" := by
  induction entries with
  | nil => simp [pure, Except.pure]
  | cons entry rest ih =>
    rw [checks_cons, check_then_eq_error, ih, require_eq_error, require_eq_ok_iff,
      ← Text.blank_iff]
    by_cases h : Text.Blank entry.checkId <;> simp [h]

theorem worst?_eq_none {entries : List CheckResultEntry} :
    worst? entries = none ↔ entries = [] := by
  cases entries <;> simp [worst?]

theorem isWorst_of_worst? {entries : List CheckResultEntry} {health : CheckHealth}
    (h : worst? entries = some health) : CheckHealth.IsWorst entries health :=
  let ⟨hreached, hworst⟩ := worst?_eq_some h
  ⟨hreached, hworst⟩

theorem ofReport_eq_ok : ofReport agent report time = .ok result ↔
    report.Complete ∧ result.Describes agent time report := by
  unfold ofReport
  rw [check_then_eq_ok, check_then_eq_ok, require_eq_ok_iff, checks_eq_ok]
  constructor
  · rintro ⟨hgroup, hchecks, h⟩
    split at h
    · cases h
    next health hworst =>
      cases h
      have hne : report.results ≠ [] := fun hnil => by
        rw [worst?_eq_none.2 hnil] at hworst
        cases hworst
      exact ⟨⟨hgroup, hne, hchecks⟩, rfl, rfl, rfl, rfl, isWorst_of_worst? hworst⟩
  · rintro ⟨⟨hgroup, hne, hchecks⟩, hd⟩
    refine ⟨hgroup, hchecks, ?_⟩
    split
    next hnone => exact absurd (worst?_eq_none.1 hnone) hne
    next health hworst =>
      obtain ⟨groupId, health', results, reportedBy, updatedAt⟩ := result
      obtain ⟨rfl, rfl, rfl, rfl, hhealth⟩ := hd
      obtain rfl := (isWorst_of_worst? hworst).eq_of_mem_iff hhealth fun _ => Iff.rfl
      rfl

theorem ofReport_eq_error : ofReport agent report time = .error e ↔ report.Lacks e := by
  unfold ofReport
  rw [check_then_eq_error, check_then_eq_error, require_eq_error, require_eq_ok_iff,
    ← Text.blank_iff, checks_eq_ok, checks_eq_error]
  constructor
  · rintro (⟨hgroup, rfl⟩ | ⟨hgroup, ⟨hcheck, rfl⟩ | ⟨hchecks, h⟩⟩)
    · exact .group hgroup
    · exact .check hgroup hcheck
    · split at h
      next hnone =>
        cases h
        exact .results hgroup hchecks (worst?_eq_none.1 hnone)
      next => cases h
  · rintro (hgroup | ⟨hgroup, hcheck⟩ | ⟨hgroup, hchecks, hnil⟩)
    · exact .inl ⟨hgroup, rfl⟩
    · exact .inr ⟨hgroup, .inl ⟨hcheck, rfl⟩⟩
    · refine .inr ⟨hgroup, .inr ⟨hchecks, ?_⟩⟩
      rw [worst?_eq_none.2 hnil]

theorem exists_ofReport (agent : AgentId) (time : Instant) (h : report.Complete) :
    ∃ result, ofReport agent report time = .ok result := by
  cases hr : ofReport agent report time with
  | ok result => exact ⟨result, rfl⟩
  | error e =>
    obtain ⟨hgroup⟩ | ⟨-, entry, hm, hblank⟩ | ⟨-, -, hnil⟩ := ofReport_eq_error.1 hr
    · exact absurd hgroup h.group
    · exact absurd hblank (h.checks entry hm)
    · exact absurd hnil h.results

/-- What counts in a report is what is among its results. -/
theorem health_ofReport_retold {results : List CheckResultEntry}
    (hsame : ∀ entry, entry ∈ results ↔ entry ∈ report.results) :
    (ofReport agent { report with results } time).map (·.health) =
      (ofReport agent report time).map (·.health) := by
  cases hr : ofReport agent report time with
  | error e => rw [ofReport_eq_error.2 ((ofReport_eq_error.1 hr).retold hsame)]
  | ok result =>
    obtain ⟨hcomplete, hd⟩ := ofReport_eq_ok.1 hr
    obtain ⟨result', hr'⟩ := exists_ofReport agent time (hcomplete.retold hsame)
    obtain ⟨-, hd'⟩ := ofReport_eq_ok.1 hr'
    rw [hr']
    exact congrArg Except.ok (hd.health.eq_of_mem_iff hd'.health hsame).symm

theorem decided (agent : AgentId) (time : Instant) (report : ChecksReport) :
    report.Decided agent time where
  accepted := ⟨fun ⟨_, hr⟩ => (ofReport_eq_ok.1 hr).1, exists_ofReport agent time⟩
  describes _ hr := (ofReport_eq_ok.1 hr).2
  refused _ := ofReport_eq_error
  retold _ := health_ofReport_retold
  continued more _ _ hr hr' :=
    (ofReport_eq_ok.1 hr).2.health.le (ofReport_eq_ok.1 hr').2.health
      fun _ => List.mem_append_left more

end ChecksResult

/-- A report on the checks of a group is accepted exactly if it names the group, tells results and
names each check; its results are kept as they are, and the health of the group is the worst of
them, in the order from skipped over passing and warning to critical. It does not hang on the order
of the results or on repetitions, and further results never make it better. Any other report is
refused for the first thing that it lacks. -/
theorem checks_report_decided :
    [CheckHealth.skipped, .passing, .warning, .critical].Pairwise (fun a b => a ≤ b ∧ ¬ b ≤ a) ∧
      ∀ (agent : AgentId) (time : Instant) (report : ChecksReport), report.Decided agent time :=
  ⟨by decide, ChecksResult.decided⟩

end AgentFacts
