import Mathlib.Data.List.Forall2
import AgentFacts.Proofs.ValidRows

namespace AgentFacts

/-- What is asked of the entries of a set, and how they are refused. -/
structure SetRules (ρ κ ε : Type) where
  key : ρ → κ
  Valid : ρ → Prop
  /-- What is wrong with an entry, whatever comes before it. -/
  Fault : ρ → ε → Prop
  repeated : ρ → ε

theorem error_of_map_error {x : Except ε α} {f : α → β} {e : ε} (h : x.map f = .error e) :
    x = .error e := by
  cases x with
  | error e' => exact congrArg _ (Except.error.inj h)
  | ok a => cases h

namespace SetRules

variable {ρ κ ε α : Type}

structure Accepts (rules : SetRules ρ κ ε) (entries : List ρ) : Prop where
  valid : ∀ entry ∈ entries, rules.Valid entry
  distinct : (entries.map rules.key).Nodup

/-- Why an entry offends that comes after some others: a fault of its own goes first. -/
inductive Offends (rules : SetRules ρ κ ε) (before : List ρ) (entry : ρ) : ε → Prop where
  | fault {e : ε} (h : rules.Fault entry e) : Offends rules before entry e
  | again (hvalid : rules.Valid entry) (hseen : rules.key entry ∈ before.map rules.key) :
    Offends rules before entry (rules.repeated entry)

/-- The entries are accepted as a whole, each for one item in its place, or refused for the first of
them that offends. -/
structure Decides (rules : SetRules ρ κ ε) (Describes : ρ → α → Prop) (entries : List ρ)
    (result : Except ε (List α)) : Prop where
  succeeds : (∃ items, result = .ok items) ↔ rules.Accepts entries
  items : ∀ items, result = .ok items → List.Forall₂ Describes entries items
  refused : ∀ e, result = .error e ↔ ∃ before entry after,
    entries = before ++ entry :: after ∧ rules.Accepts before ∧ rules.Offends before entry e

/-- Entries that could come after some others. -/
structure Fits (rules : SetRules ρ κ ε) (earlier entries : List ρ) : Prop where
  each : ∀ entry ∈ entries, rules.Valid entry ∧ rules.key entry ∉ earlier.map rules.key
  distinct : (entries.map rules.key).Nodup

/-- The entries are gone through in their order, and each is checked against those before it. -/
structure Checks (rules : SetRules ρ κ ε) (build : ρ → α) (check : List ρ → ρ → Except ε Unit)
    (read : List ρ → List ρ → Except ε (List α)) : Prop where
  nil : ∀ earlier, read earlier [] = .ok []
  cons : ∀ earlier entry rest, read earlier (entry :: rest) = do
    check earlier entry
    let others ← read (entry :: earlier) rest
    return build entry :: others
  passes : ∀ {earlier entry},
    check earlier entry = .ok () ↔ rules.Valid entry ∧ rules.key entry ∉ earlier.map rules.key
  fails : ∀ {earlier entry e}, check earlier entry = .error e ↔ rules.Offends earlier entry e

variable {rules : SetRules ρ κ ε} {earlier entries rest : List ρ} {entry : ρ} {e : ε}

theorem offends_reverse : rules.Offends entries.reverse entry e ↔ rules.Offends entries entry e := by
  constructor
  all_goals
    rintro (h | ⟨hvalid, hseen⟩)
    · exact .fault h
    · exact .again hvalid (by simpa using hseen)

theorem fits_nil : rules.Fits earlier [] :=
  ⟨fun _ hm => absurd hm List.not_mem_nil, .nil⟩

theorem fits_nil_left : rules.Fits [] entries ↔ rules.Accepts entries :=
  ⟨fun h => ⟨fun entry hm => (h.each entry hm).1, h.distinct⟩,
    fun h => ⟨fun entry hm => ⟨h.valid entry hm, List.not_mem_nil⟩, h.distinct⟩⟩

theorem fits_cons : rules.Fits earlier (entry :: rest) ↔
    (rules.Valid entry ∧ rules.key entry ∉ earlier.map rules.key) ∧
      rules.Fits (entry :: earlier) rest := by
  constructor
  · intro h
    obtain ⟨hnew, hnodup⟩ := List.nodup_cons.1 h.distinct
    refine ⟨h.each entry List.mem_cons_self, fun later hm => ?_, hnodup⟩
    obtain ⟨hvalid, hlater⟩ := h.each later (List.mem_cons_of_mem _ hm)
    refine ⟨hvalid, fun hk => ?_⟩
    rcases List.mem_cons.1 hk with heq | hk
    · exact hnew (heq ▸ List.mem_map_of_mem hm)
    · exact hlater hk
  · rintro ⟨hentry, hrest⟩
    refine ⟨fun later hm => ?_, List.nodup_cons.2 ⟨fun hk => ?_, hrest.distinct⟩⟩
    · rcases List.mem_cons.1 hm with rfl | hm
      · exact hentry
      · exact (hrest.each later hm).imp_right fun hn hk => hn (List.mem_cons_of_mem _ hk)
    · obtain ⟨later, hm, hk⟩ := List.mem_map.1 hk
      exact (hrest.each later hm).2 (hk ▸ List.mem_cons_self)

namespace Checks

variable {build : ρ → α} {check : List ρ → ρ → Except ε Unit}
  {read : List ρ → List ρ → Except ε (List α)}

theorem read_cons_of_passes (h : rules.Checks build check read)
    (hentry : check earlier entry = .ok ()) :
    read earlier (entry :: rest) = (read (entry :: earlier) rest).map (build entry :: ·) := by
  rw [h.cons, hentry]
  rfl

theorem read_cons_of_fails (h : rules.Checks build check read)
    (hentry : check earlier entry = .error e) : read earlier (entry :: rest) = .error e := by
  rw [h.cons, hentry]
  rfl

theorem read_of_fits (h : rules.Checks build check read) (hfits : rules.Fits earlier entries) :
    read earlier entries = .ok (entries.map build) := by
  induction entries generalizing earlier with
  | nil => exact h.nil earlier
  | cons entry rest ih =>
    obtain ⟨hentry, hrest⟩ := fits_cons.1 hfits
    rw [h.read_cons_of_passes (h.passes.2 hentry), ih hrest]
    rfl

theorem read_eq_ok (h : rules.Checks build check read) {items : List α} :
    read earlier entries = .ok items ↔ rules.Fits earlier entries ∧ items = entries.map build := by
  constructor
  · intro hread
    obtain ⟨rfl, heach, hnodup⟩ := built_of_checked read h.nil h.cons h.passes.1 hread
    exact ⟨⟨heach, hnodup⟩, rfl⟩
  · rintro ⟨hfits, rfl⟩
    exact h.read_of_fits hfits

/-- The first refusal decides: the entries before it fit, and nothing after it counts. -/
theorem read_eq_error (h : rules.Checks build check read) :
    read earlier entries = .error e ↔ ∃ before entry after, entries = before ++ entry :: after ∧
      rules.Fits earlier before ∧ rules.Offends (before.reverse ++ earlier) entry e := by
  induction entries generalizing earlier with
  | nil => simp [h.nil]
  | cons entry rest ih =>
    constructor
    · intro hread
      cases hcheck : check earlier entry with
      | error e' =>
        obtain rfl := Except.error.inj ((h.read_cons_of_fails hcheck).symm.trans hread)
        exact ⟨[], entry, rest, rfl, fits_nil, h.fails.1 hcheck⟩
      | ok u =>
        rw [h.read_cons_of_passes hcheck] at hread
        obtain ⟨before, bad, after, rfl, hfits, hbad⟩ := ih.1 (error_of_map_error hread)
        refine ⟨entry :: before, bad, after, rfl, fits_cons.2 ⟨h.passes.1 hcheck, hfits⟩, ?_⟩
        simpa using hbad
    · rintro ⟨before, bad, after, heq, hfits, hbad⟩
      cases before with
      | nil =>
        obtain ⟨rfl, -⟩ := List.cons.inj heq
        exact h.read_cons_of_fails (h.fails.2 hbad)
      | cons first before =>
        obtain ⟨rfl, rfl⟩ := List.cons.inj heq
        obtain ⟨hentry, hbefore⟩ := fits_cons.1 hfits
        have hothers := ih.2 ⟨before, bad, after, rfl, hbefore, by simpa using hbad⟩
        rw [h.read_cons_of_passes (h.passes.2 hentry), hothers]
        rfl

theorem decides (h : rules.Checks build check read) {Describes : ρ → α → Prop}
    (hbuild : ∀ entry, Describes entry (build entry)) (entries : List ρ) :
    rules.Decides Describes entries (read [] entries) where
  succeeds := by
    simp only [h.read_eq_ok, fits_nil_left, exists_and_left, exists_eq, and_true]
  items := by
    intro items hread
    rw [(h.read_eq_ok.1 hread).2, List.forall₂_map_right_iff]
    exact List.forall₂_same.2 fun entry _ => hbuild entry
  refused := by
    intro e
    simp only [h.read_eq_error, List.append_nil, offends_reverse, fits_nil_left]

end Checks

end SetRules

/-- A SID is looked at before the number. -/
inductive SapInstanceReport.Fault (report : SapInstanceReport) : ValidationError → Prop where
  | sid (h : ¬ IsSid report.sid) : Fault report (.invalidSid report.sid)
  | instanceNumber (hsid : IsSid report.sid) (h : ¬ IsInstanceNumber report.instanceNumber) :
    Fault report (.invalidInstanceNumber report.instanceNumber)

inductive SlesSubscriptionReport.Fault (report : SlesSubscriptionReport) : ValidationError → Prop
  where
  | identifier (h : ∀ c ∈ report.identifier.toList, Text.isBlank c = true) :
    Fault report (.missingField "identifier")

/-- Instances differ in their SID or in their number. -/
def SapSystemInstance.rules : SetRules SapInstanceReport (String × String) ValidationError where
  key report := (report.sid, report.instanceNumber)
  Valid report := IsSid report.sid ∧ IsInstanceNumber report.instanceNumber
  Fault := SapInstanceReport.Fault
  repeated report := .duplicate "SAP instance" (report.sid ++ "/" ++ report.instanceNumber)

/-- Subscriptions differ in their identifier, in which there is something to be seen. -/
def SlesSubscription.rules : SetRules SlesSubscriptionReport String ValidationError where
  key report := report.identifier
  Valid report := ∃ c ∈ report.identifier.toList, Text.isBlank c = false
  Fault := SlesSubscriptionReport.Fault
  repeated report := .duplicate "subscription" report.identifier

/-- The instance that is reported, as `agent` reports it at `time`. -/
structure SapSystemInstance.Describes (agent : AgentId) (time : Instant)
    (report : SapInstanceReport) (item : SapSystemInstance) : Prop where
  agent : item.agent = agent
  sid : item.sid = report.sid
  instanceNumber : item.instanceNumber = report.instanceNumber
  systemType : item.systemType = report.systemType
  features : item.features = report.features
  sapHostname : item.sapHostname = report.sapHostname
  systemReplication : item.systemReplication = report.systemReplication
  updatedAt : item.updatedAt = time

structure SlesSubscription.Describes (agent : AgentId) (time : Instant)
    (report : SlesSubscriptionReport) (item : SlesSubscription) : Prop where
  agent : item.agent = agent
  identifier : item.identifier = report.identifier
  version : item.version = report.version
  arch : item.arch = report.arch
  status : item.status = report.status
  expiresAt : item.expiresAt = report.expiresAt
  updatedAt : item.updatedAt = time

theorem checkSid_eq_error {sid : String} {e : ValidationError} :
    checkSid sid = .error e ↔ ¬ IsSid sid ∧ e = .invalidSid sid := by
  rw [← checkSid_eq_ok]
  unfold checkSid
  dsimp only
  split <;> simp [eq_comm]

theorem checkInstanceNumber_eq_error {number : String} {e : ValidationError} :
    checkInstanceNumber number = .error e ↔
      ¬ IsInstanceNumber number ∧ e = .invalidInstanceNumber number := by
  rw [← checkInstanceNumber_eq_ok]
  unfold checkInstanceNumber
  split <;> simp [eq_comm]

theorem require_eq_error {field value : String} {e : ValidationError} :
    require field value = .error e ↔ Text.allBlank value = true ∧ e = .missingField field := by
  unfold require
  split
  next h => simp [h, eq_comm]
  next h => simp [h]

/-- After a check that is passed, and only then, what comes next is looked at. -/
theorem check_then_eq_error {x : Except ε Unit} {y : Except ε α} {e : ε} :
    (x >>= fun _ => y) = .error e ↔ x = .error e ∨ x = .ok () ∧ y = .error e := by
  cases x with
  | error e' => simp [bind, Except.bind]
  | ok u => simp [bind, Except.bind]

theorem refuse_eq_error {p : Prop} [Decidable p] {e e' : ε} :
    (if p then .error e' else pure ()) = (.error e : Except ε Unit) ↔ p ∧ e = e' := by
  split
  next h => simp [h, eq_comm]
  next h => simp [h, pure, Except.pure]

namespace SapSystemInstance

variable {earlier : List SapInstanceReport} {report : SapInstanceReport} {e : ValidationError}

theorem any_seen : (earlier.any fun r => r.sid == report.sid &&
    r.instanceNumber == report.instanceNumber) = true ↔
      rules.key report ∈ earlier.map rules.key := by
  simp [rules]

theorem checkReport_eq_ok : checkReport earlier report = .ok () ↔
    rules.Valid report ∧ rules.key report ∉ earlier.map rules.key := by
  constructor
  · exact checkReport_ok
  · rintro ⟨⟨hsid, hnumber⟩, hnew⟩
    unfold checkReport
    rw [checkSid_eq_ok.2 hsid, checkInstanceNumber_eq_ok.2 hnumber]
    exact if_neg fun h => hnew (any_seen.1 h)

theorem checkReport_eq_error :
    checkReport earlier report = .error e ↔ rules.Offends earlier report e := by
  unfold checkReport
  rw [check_then_eq_error, check_then_eq_error, refuse_eq_error, any_seen, checkSid_eq_ok,
    checkSid_eq_error, checkInstanceNumber_eq_ok, checkInstanceNumber_eq_error]
  constructor
  · rintro (⟨hsid, rfl⟩ | ⟨hsid, ⟨hnumber, rfl⟩ | ⟨hnumber, hseen, rfl⟩⟩)
    · exact .fault (.sid hsid)
    · exact .fault (.instanceNumber hsid hnumber)
    · exact .again ⟨hsid, hnumber⟩ hseen
  · rintro (⟨⟨hsid⟩ | ⟨hsid, hnumber⟩⟩ | ⟨⟨hsid, hnumber⟩, hseen⟩)
    · exact .inl ⟨hsid, rfl⟩
    · exact .inr ⟨hsid, .inl ⟨hnumber, rfl⟩⟩
    · exact .inr ⟨hsid, .inr ⟨hnumber, hseen, rfl⟩⟩

theorem checks (agent : AgentId) (time : Instant) :
    rules.Checks (ofInstanceReport agent time) checkReport (ofReports agent time) where
  nil _ := rfl
  cons _ _ _ := rfl
  passes := checkReport_eq_ok
  fails := checkReport_eq_error

end SapSystemInstance

namespace SlesSubscription

variable {earlier : List SlesSubscriptionReport} {report : SlesSubscriptionReport}
  {e : ValidationError}

theorem valid_iff : rules.Valid report ↔ Text.allBlank report.identifier = false := by
  simp [rules, Text.allBlank]

theorem any_seen : (earlier.any fun r => r.identifier == report.identifier) = true ↔
    rules.key report ∈ earlier.map rules.key := by
  simp [rules]

theorem checkReport_eq_ok : checkReport earlier report = .ok () ↔
    rules.Valid report ∧ rules.key report ∉ earlier.map rules.key := by
  rw [valid_iff]
  constructor
  · exact checkReport_ok
  · rintro ⟨hidentifier, hnew⟩
    unfold checkReport
    rw [require_eq_ok.2 hidentifier]
    exact if_neg fun h => hnew (any_seen.1 h)

theorem checkReport_eq_error :
    checkReport earlier report = .error e ↔ rules.Offends earlier report e := by
  unfold checkReport
  rw [check_then_eq_error, refuse_eq_error, any_seen, require_eq_ok, require_eq_error, ← valid_iff]
  constructor
  · rintro (⟨hblank, rfl⟩ | ⟨hvalid, hseen, rfl⟩)
    · exact .fault (.identifier (List.all_eq_true.1 hblank))
    · exact .again hvalid hseen
  · rintro (⟨⟨hblank⟩⟩ | ⟨hvalid, hseen⟩)
    · exact .inl ⟨List.all_eq_true.2 hblank, rfl⟩
    · exact .inr ⟨hvalid, hseen, rfl⟩

theorem checks (agent : AgentId) (time : Instant) :
    rules.Checks (ofSubscriptionReport agent time) checkReport (ofReports agent time) where
  nil _ := rfl
  cons _ _ _ := rfl
  passes := checkReport_eq_ok
  fails := checkReport_eq_error

end SlesSubscription

/-- A report that names a whole set is accepted exactly if all of its entries are valid and no two
have the same key. There is one row for each entry then, in the order of the report. Otherwise the
first entry that offends says why: its SID before its number, and both before it being a repetition
of an entry further up. -/
theorem set_reports_decided (agent : AgentId) (time : Instant) :
    (∀ report : SapSystemReport, SapSystemInstance.rules.Decides
      (SapSystemInstance.Describes agent time) report.instances
      (SapSystemInstance.ofReport agent report time)) ∧
    ∀ report : SlesReport, SlesSubscription.rules.Decides
      (SlesSubscription.Describes agent time) report.subscriptions
      (SlesSubscription.ofReport agent report time) := by
  refine ⟨fun report => ?_, fun report => ?_⟩
  · exact (SapSystemInstance.checks agent time).decides
      (fun _ => ⟨rfl, rfl, rfl, rfl, rfl, rfl, rfl, rfl⟩) report.instances
  · exact (SlesSubscription.checks agent time).decides
      (fun _ => ⟨rfl, rfl, rfl, rfl, rfl, rfl, rfl⟩) report.subscriptions

end AgentFacts
