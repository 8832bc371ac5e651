import AgentFacts.Proofs.AppliedReports
import AgentFacts.Proofs.HostLifetimes

namespace AgentFacts

def IsCapital (c : Char) : Prop := 'A' ≤ c ∧ c ≤ 'Z'

def IsDigit (c : Char) : Prop := '0' ≤ c ∧ c ≤ '9'

/-- A capital letter, and two more capital letters or digits. -/
def IsSid (s : String) : Prop :=
  ∃ a b c, s.toList = [a, b, c] ∧ IsCapital a ∧ (IsCapital b ∨ IsDigit b) ∧
    (IsCapital c ∨ IsDigit c)

def IsInstanceNumber (s : String) : Prop :=
  ∃ a b, s.toList = [a, b] ∧ IsDigit a ∧ IsDigit b

/-- A host with a name, whose memory fits a signed column of 64 bits. -/
structure Host.Valid (host : Host) : Prop where
  hostname : Text.allBlank host.hostname = false
  totalMemoryMb : host.totalMemoryMb.toNat ≤ 9223372036854775807

structure Cluster.Valid (cluster : Cluster) : Prop where
  id : Text.allBlank cluster.id = false
  sid : ∀ sid, cluster.sid = some sid → IsSid sid

/-- Instances of one agent, none of them twice. -/
structure SapSystemInstance.ValidSet (agent : AgentId) (items : List SapSystemInstance) : Prop where
  agent : ∀ i ∈ items, i.agent = agent
  sid : ∀ i ∈ items, IsSid i.sid
  instanceNumber : ∀ i ∈ items, IsInstanceNumber i.instanceNumber
  distinct : (items.map fun i => (i.sid, i.instanceNumber)).Nodup

/-- Subscriptions of one agent, none of them twice. -/
structure SlesSubscription.ValidSet (agent : AgentId) (items : List SlesSubscription) : Prop where
  agent : ∀ s ∈ items, s.agent = agent
  identifier : ∀ s ∈ items, Text.allBlank s.identifier = false
  distinct : (items.map (·.identifier)).Nodup

/-- The results of some checks, with the health of the worst of them. -/
structure ChecksResult.Valid (result : ChecksResult) : Prop where
  groupId : Text.allBlank result.groupId = false
  results : result.results ≠ []
  checkId : ∀ entry ∈ result.results, Text.allBlank entry.checkId = false
  reached : ∃ entry ∈ result.results, entry.result = result.health
  worst : ∀ entry ∈ result.results, entry.result ≤ result.health

/-- Every row is stored under its own key, and is valid. -/
structure ReadModels.Valid (m : ReadModels) : Prop where
  hosts : m.hosts.All fun agent host => host.agent = agent ∧ host.Valid
  clusters : m.clusters.All fun id cluster => cluster.id = id ∧ cluster.Valid
  sapInstances : m.sapInstances.All fun agent items =>
    items ≠ [] ∧ SapSystemInstance.ValidSet agent items
  slesSubscriptions : m.slesSubscriptions.All fun agent items =>
    items ≠ [] ∧ SlesSubscription.ValidSet agent items
  checksResults : m.checksResults.All fun group result => result.groupId = group ∧ result.Valid
  ledger : m.ledger.All fun key row => ⟨row.source, row.eventType⟩ = key ∧
    (row.outcome = .success → row.lastEnvelope.isSome = true)

/-- Counted in bytes, a text of single bytes is as long as in characters. -/
theorem utf8ByteSize_eq_length {s : String} (h : ∀ c ∈ s.toList, c.utf8Size = 1) :
    s.utf8ByteSize = s.toList.length := by
  have hsum : ∀ cs : List Char, (∀ c ∈ cs, c.utf8Size = 1) →
      (String.ofList cs).utf8ByteSize = cs.length := by
    intro cs hcs
    induction cs with
    | nil => rfl
    | cons c cs ih =>
      rw [String.ofList_cons, String.utf8ByteSize_append, String.utf8ByteSize_singleton,
        hcs c List.mem_cons_self, ih fun c hm => hcs c (List.mem_cons_of_mem _ hm),
        List.length_cons, Nat.add_comm]
  simpa using hsum s.toList h

theorem IsCapital.utf8Size {c : Char} (h : IsCapital c) : c.utf8Size = 1 :=
  Char.utf8Size_eq_one_iff.2 (UInt32.le_trans h.2 (by decide))

theorem IsDigit.utf8Size {c : Char} (h : IsDigit c) : c.utf8Size = 1 :=
  Char.utf8Size_eq_one_iff.2 (UInt32.le_trans h.2 (by decide))

theorem utf8Size_of_capital_or_digit {c : Char} (h : IsCapital c ∨ IsDigit c) : c.utf8Size = 1 :=
  h.elim IsCapital.utf8Size IsDigit.utf8Size

/-- To count the bytes and to look at each character comes to the same. -/
theorem isSid_iff_bytes {s : String} : IsSid s ↔ s.utf8ByteSize = 3 ∧
    ∃ first rest, s.toList = first :: rest ∧ IsCapital first ∧
      ∀ c ∈ rest, IsCapital c ∨ IsDigit c := by
  constructor
  · rintro ⟨a, b, c, hs, ha, hb, hc⟩
    have hsize : s.utf8ByteSize = s.toList.length := utf8ByteSize_eq_length fun d hd => by
      rw [hs] at hd
      simp only [List.mem_cons, List.not_mem_nil, or_false] at hd
      rcases hd with rfl | rfl | rfl
      · exact ha.utf8Size
      · exact utf8Size_of_capital_or_digit hb
      · exact utf8Size_of_capital_or_digit hc
    exact ⟨by rw [hsize, hs]; rfl, a, [b, c], hs, ha, by simp [hb, hc]⟩
  · rintro ⟨hsize, first, rest, hs, hfirst, hrest⟩
    have hall : ∀ c ∈ s.toList, c.utf8Size = 1 := fun c hc => by
      rw [hs] at hc
      rcases List.mem_cons.1 hc with rfl | hc
      · exact hfirst.utf8Size
      · exact utf8Size_of_capital_or_digit (hrest c hc)
    rw [utf8ByteSize_eq_length hall, hs, List.length_cons] at hsize
    obtain ⟨b, c, rfl⟩ := List.length_eq_two.1 (Nat.succ.inj hsize)
    exact ⟨first, b, c, hs, hfirst, hrest b (by simp), hrest c (by simp)⟩

theorem isInstanceNumber_iff_bytes {s : String} :
    IsInstanceNumber s ↔ s.utf8ByteSize = 2 ∧ ∀ c ∈ s.toList, IsDigit c := by
  constructor
  · rintro ⟨a, b, hs, ha, hb⟩
    have hall : ∀ c ∈ s.toList, IsDigit c := by simp [hs, ha, hb]
    exact ⟨by rw [utf8ByteSize_eq_length fun c hc => (hall c hc).utf8Size, hs]; rfl, hall⟩
  · rintro ⟨hsize, hall⟩
    rw [utf8ByteSize_eq_length fun c hc => (hall c hc).utf8Size] at hsize
    obtain ⟨a, b, hs⟩ := List.length_eq_two.1 hsize
    exact ⟨a, b, hs, hall a (by simp [hs]), hall b (by simp [hs])⟩

theorem isUpper_iff {c : Char} : c.isUpper = true ↔ IsCapital c :=
  decide_eq_true_iff

theorem isDigit_iff {c : Char} : c.isDigit = true ↔ IsDigit c := by
  simp [Char.isDigit, IsDigit, Char.le_def]

theorem checkSid_eq_ok {sid : String} : checkSid sid = .ok () ↔ IsSid sid := by
  rw [isSid_iff_bytes]
  unfold checkSid
  dsimp only
  split <;> cases hs : sid.toList <;> simp_all [isUpper_iff, isDigit_iff]

theorem checkInstanceNumber_eq_ok {number : String} :
    checkInstanceNumber number = .ok () ↔ IsInstanceNumber number := by
  rw [isInstanceNumber_iff_bytes]
  unfold checkInstanceNumber
  simp [isDigit_iff]

theorem require_eq_ok {field value : String} :
    require field value = .ok () ↔ Text.allBlank value = false := by
  unfold require
  split
  next h => simp [h]
  next h => simpa using h

theorem Host.valid_ofReport {agent : AgentId} {report : HostReport} {time : Instant} {host : Host}
    (h : Host.ofReport agent report time = .ok host) : host.Valid := by
  unfold ofReport at h
  obtain ⟨_, hname, h⟩ := ok_of_bind_ok h
  dsimp only at h
  split at h
  · cases h
  next hmem =>
    cases h
    exact ⟨require_eq_ok.1 hname, Nat.not_lt.1 hmem⟩

theorem Cluster.valid_ofReport {agent : AgentId} {report : ClusterReport} {time : Instant}
    {cluster : Cluster} (h : Cluster.ofReport agent report time = .ok cluster) :
    cluster.Valid := by
  unfold ofReport at h
  obtain ⟨_, hid, h⟩ := ok_of_bind_ok h
  dsimp only at h
  split at h
  next sid hsid =>
    obtain ⟨_, hcheck, h⟩ := ok_of_bind_ok h
    cases h
    refine ⟨require_eq_ok.1 hid, fun sid' hs => ?_⟩
    obtain rfl := Option.some.inj (hsid.symm.trans hs)
    exact checkSid_eq_ok.1 hcheck
  next hno =>
    cases h
    exact ⟨require_eq_ok.1 hid, fun sid hs => absurd hs (hno sid)⟩

/-- Items that are built from reports, each of which is checked against those before it: all reports
pass their check, and no two have the same key. -/
theorem built_of_checked {α β ρ ε : Type} {key : ρ → β} {P : ρ → Prop} {build : ρ → α}
    {check : List ρ → ρ → Except ε Unit} (ofReports : List ρ → List ρ → Except ε (List α))
    (hnil : ∀ earlier, ofReports earlier [] = .ok [])
    (hcons : ∀ earlier report rest, ofReports earlier (report :: rest) = do
      check earlier report
      let others ← ofReports (report :: earlier) rest
      return build report :: others)
    (hcheck : ∀ {earlier report}, check earlier report = .ok () →
      P report ∧ key report ∉ earlier.map key)
    {earlier reports : List ρ} {items : List α} (h : ofReports earlier reports = .ok items) :
    items = reports.map build ∧ (∀ report ∈ reports, P report ∧ key report ∉ earlier.map key) ∧
      (reports.map key).Nodup := by
  induction reports generalizing earlier items with
  | nil =>
    rw [hnil] at h
    cases h
    exact ⟨rfl, fun _ hm => absurd hm List.not_mem_nil, .nil⟩
  | cons report rest ih =>
    rw [hcons] at h
    obtain ⟨_, hreport, h⟩ := ok_of_bind_ok h
    obtain ⟨others, hothers, h⟩ := ok_of_bind_ok h
    cases h
    obtain ⟨rfl, hrest, hnodup⟩ := ih hothers
    refine ⟨rfl, fun report' hm => ?_, List.nodup_cons.2 ⟨fun hm => ?_, hnodup⟩⟩
    · rcases List.mem_cons.1 hm with rfl | hm
      · exact hcheck hreport
      · exact (hrest report' hm).imp_right fun hn hk => hn (List.mem_cons_of_mem _ hk)
    · -- Every later report has been checked against this one.
      obtain ⟨later, hl, hk⟩ := List.mem_map.1 hm
      exact (hrest later hl).2 (hk ▸ List.mem_cons_self)

theorem SapSystemInstance.checkReport_ok {earlier : List SapInstanceReport}
    {report : SapInstanceReport} (h : checkReport earlier report = .ok ()) :
    (IsSid report.sid ∧ IsInstanceNumber report.instanceNumber) ∧
      (report.sid, report.instanceNumber) ∉
        earlier.map fun r => (r.sid, r.instanceNumber) := by
  unfold checkReport at h
  obtain ⟨_, hsid, h⟩ := ok_of_bind_ok h
  obtain ⟨_, hnumber, h⟩ := ok_of_bind_ok h
  refine ⟨⟨checkSid_eq_ok.1 hsid, checkInstanceNumber_eq_ok.1 hnumber⟩, fun hm => ?_⟩
  split at h
  · cases h
  next hnew =>
    obtain ⟨other, ho, heq⟩ := List.mem_map.1 hm
    obtain ⟨hs, hn⟩ := Prod.mk.inj heq
    exact hnew (List.any_eq_true.2 ⟨other, ho, by simp [hs, hn]⟩)

theorem SapSystemInstance.validSet_ofReport {agent : AgentId} {report : SapSystemReport}
    {time : Instant} {items : List SapSystemInstance}
    (h : SapSystemInstance.ofReport agent report time = .ok items) : ValidSet agent items := by
  obtain ⟨rfl, hall, hnodup⟩ := built_of_checked (ofReports agent time)
    (fun _ => rfl) (fun _ _ _ => rfl) checkReport_ok h
  refine ⟨?_, ?_, ?_, ?_⟩
  · simp [ofInstanceReport]
  · intro i hi
    obtain ⟨r, hr, rfl⟩ := List.mem_map.1 hi
    exact (hall r hr).1.1
  · intro i hi
    obtain ⟨r, hr, rfl⟩ := List.mem_map.1 hi
    exact (hall r hr).1.2
  · rw [List.map_map]
    exact hnodup

theorem SlesSubscription.checkReport_ok {earlier : List SlesSubscriptionReport}
    {report : SlesSubscriptionReport} (h : checkReport earlier report = .ok ()) :
    Text.allBlank report.identifier = false ∧ report.identifier ∉ earlier.map (·.identifier) := by
  unfold checkReport at h
  obtain ⟨_, hidentifier, h⟩ := ok_of_bind_ok h
  refine ⟨require_eq_ok.1 hidentifier, fun hm => ?_⟩
  split at h
  · cases h
  next hnew =>
    obtain ⟨other, ho, heq⟩ := List.mem_map.1 hm
    exact hnew (List.any_eq_true.2 ⟨other, ho, by simp [heq]⟩)

theorem SlesSubscription.validSet_ofReport {agent : AgentId} {report : SlesReport}
    {time : Instant} {items : List SlesSubscription}
    (h : SlesSubscription.ofReport agent report time = .ok items) : ValidSet agent items := by
  obtain ⟨rfl, hall, hnodup⟩ := built_of_checked (ofReports agent time)
    (fun _ => rfl) (fun _ _ _ => rfl) checkReport_ok h
  refine ⟨?_, ?_, ?_⟩
  · simp [ofSubscriptionReport]
  · intro s hs
    obtain ⟨r, hr, rfl⟩ := List.mem_map.1 hs
    exact (hall r hr).1
  · rw [List.map_map]
    exact hnodup

namespace CheckHealth

variable {a b c : CheckHealth}

theorem le_refl (a : CheckHealth) : a ≤ a := Nat.le_refl a.severity

theorem le_trans (hab : a ≤ b) (hbc : b ≤ c) : a ≤ c := Nat.le_trans hab hbc

theorem le_worse_left (a b : CheckHealth) : a ≤ worse a b := by
  unfold worse
  split
  next h => exact h
  next => exact le_refl a

theorem le_worse_right (a b : CheckHealth) : b ≤ worse a b := by
  unfold worse
  split
  next => exact le_refl b
  next h => exact Nat.le_of_lt (Nat.not_le.1 h)

theorem worse_eq (a b : CheckHealth) : worse a b = a ∨ worse a b = b := by
  unfold worse
  split
  · exact .inr rfl
  · exact .inl rfl

/-- The worst of some outcomes is one of them, and none is worse. -/
theorem foldl_worse (first : CheckHealth) (rest : List CheckHealth) :
    rest.foldl worse first ∈ first :: rest ∧ ∀ h ∈ first :: rest, h ≤ rest.foldl worse first := by
  induction rest generalizing first with
  | nil =>
    refine ⟨List.mem_singleton.2 rfl, fun h hm => ?_⟩
    rw [List.mem_singleton.1 hm]
    exact le_refl first
  | cons next rest ih =>
    obtain ⟨hmem, hle⟩ := ih (worse first next)
    have hworse := hle (worse first next) List.mem_cons_self
    refine ⟨?_, fun h hm => ?_⟩
    · rcases List.mem_cons.1 hmem with heq | hm
      · rw [List.foldl_cons, heq]
        rcases worse_eq first next with hw | hw <;> simp [hw]
      · exact List.mem_cons_of_mem _ (List.mem_cons_of_mem _ hm)
    · rcases List.mem_cons.1 hm with rfl | hm
      · exact le_trans (le_worse_left h next) hworse
      rcases List.mem_cons.1 hm with rfl | hm
      · exact le_trans (le_worse_right first h) hworse
      · exact hle h (List.mem_cons_of_mem _ hm)

end CheckHealth

namespace ChecksResult

theorem worst?_eq_some {results : List CheckResultEntry} {health : CheckHealth}
    (h : worst? results = some health) :
    (∃ entry ∈ results, entry.result = health) ∧ ∀ entry ∈ results, entry.result ≤ health := by
  cases results with
  | nil => cases h
  | cons first rest =>
    obtain rfl := Option.some.inj h
    obtain ⟨hmem, hle⟩ := CheckHealth.foldl_worse first.result (rest.map (·.result))
    have hmap : first.result :: rest.map (·.result) = (first :: rest).map (·.result) := rfl
    rw [hmap] at hmem hle
    exact ⟨List.mem_map.1 hmem, fun entry hm => hle _ (List.mem_map_of_mem hm)⟩

theorem ok_of_forM_ok {ε : Type} {f : α → Except ε Unit} {as : List α} (h : as.forM f = .ok ()) :
    ∀ a ∈ as, f a = .ok () := by
  induction as with
  | nil => exact fun _ hm => absurd hm List.not_mem_nil
  | cons first rest ih =>
    obtain ⟨_, hfirst, hrest⟩ := ok_of_bind_ok h
    intro a hm
    rcases List.mem_cons.1 hm with rfl | hm
    · exact hfirst
    · exact ih hrest a hm

theorem valid_ofReport {agent : AgentId} {report : ChecksReport} {time : Instant}
    {result : ChecksResult} (h : ChecksResult.ofReport agent report time = .ok result) :
    result.Valid := by
  unfold ofReport at h
  obtain ⟨_, hgroup, h⟩ := ok_of_bind_ok h
  obtain ⟨_, hentries, h⟩ := ok_of_bind_ok h
  split at h
  · cases h
  next health hworst =>
    cases h
    obtain ⟨hreached, hle⟩ := worst?_eq_some hworst
    have hne : report.results ≠ [] := fun hnil => by
      rw [hnil] at hworst
      cases hworst
    exact ⟨require_eq_ok.1 hgroup, hne,
      fun entry hm => require_eq_ok.1 (ok_of_forM_ok hentries entry hm), hreached, hle⟩

end ChecksResult

/-- What a change writes is valid. -/
def Write.Valid : Write → Prop
  | .upsertHost host => host.Valid
  | .deleteHost _ => True
  | .recordHeartbeat _ _ => True
  | .upsertCluster cluster => cluster.Valid
  | .replaceSapInstances agent items => SapSystemInstance.ValidSet agent items
  | .replaceSlesSubscriptions agent items => SlesSubscription.ValidSet agent items
  | .upsertChecksResult result => result.Valid

/-- An envelope asks for no other change than one to something valid. -/
theorem Write.valid_of_change {e : Envelope} {w : Write} (h : e.change = .ok w) : w.Valid := by
  have htype := Envelope.eventType_of_change h
  cases w with
  | upsertHost host =>
    obtain ⟨report, _, ho⟩ := Envelope.report_of_upsertHost h
    exact Host.valid_ofReport ho
  | deleteHost agent => trivial
  | recordHeartbeat agent time => trivial
  | upsertCluster cluster =>
    obtain ⟨report, _, ho⟩ := Envelope.report_of_upsertCluster h
    exact Cluster.valid_ofReport ho
  | replaceSapInstances agent items =>
    rw [Envelope.change_sap htype] at h
    obtain ⟨report, items, _, ho, hw⟩ := Envelope.sapChange_eq_ok h
    cases hw
    exact SapSystemInstance.validSet_ofReport ho
  | replaceSlesSubscriptions agent items =>
    rw [Envelope.change_sles htype] at h
    obtain ⟨report, items, _, ho, hw⟩ := Envelope.slesChange_eq_ok h
    cases hw
    exact SlesSubscription.validSet_ofReport ho
  | upsertChecksResult result =>
    obtain ⟨report, _, ho⟩ := Envelope.report_of_upsertChecksResult h
    exact ChecksResult.valid_ofReport ho

namespace ReadModels

variable {m m' : ReadModels}

theorem valid_empty : Valid .empty :=
  ⟨Table.all_empty _, Table.all_empty _, Table.all_empty _, Table.all_empty _, Table.all_empty _,
    Table.all_empty _⟩

/-- A set in place of an older one takes a row only if there is something in it. -/
theorem all_replaceSet {α : Type} {P : AgentId → List α → Prop} {t : Table AgentId (List α)}
    {agent : AgentId} {items : List α} (h : t.All fun agent items => items ≠ [] ∧ P agent items)
    (hnew : P agent items) :
    (replaceSet t agent items).All fun agent items => items ≠ [] ∧ P agent items := by
  unfold replaceSet
  split
  · exact h.erase agent
  next hne => exact h.insert ⟨fun hnil => hne (List.isEmpty_iff.2 hnil), hnew⟩

theorem Valid.withHosts (h : m.Valid) {hosts : Table AgentId Host}
    (hh : hosts.All fun agent host => host.agent = agent ∧ host.Valid) :
    Valid { m with hosts } :=
  ⟨hh, h.clusters, h.sapInstances, h.slesSubscriptions, h.checksResults, h.ledger⟩

theorem Valid.write (h : m.Valid) {w : Write} (hw : w.Valid) : (m.write w).Valid := by
  cases w with
  | upsertHost host =>
    exact h.withHosts (h.hosts.insert ⟨rfl, hw.hostname, hw.totalMemoryMb⟩)
  | deleteHost agent => exact h.withHosts (h.hosts.erase agent)
  | recordHeartbeat agent time =>
    change (m.recordHeartbeat agent time).Valid
    unfold recordHeartbeat
    split
    · exact h
    next host hfound =>
      obtain ⟨hagent, hvalid⟩ := h.hosts.of_get? hfound
      exact h.withHosts (h.hosts.insert ⟨hagent, hvalid.hostname, hvalid.totalMemoryMb⟩)
  | upsertCluster cluster =>
    exact ⟨h.hosts, h.clusters.insert ⟨rfl, hw⟩, h.sapInstances, h.slesSubscriptions,
      h.checksResults, h.ledger⟩
  | replaceSapInstances agent items =>
    exact ⟨h.hosts, h.clusters, all_replaceSet h.sapInstances hw, h.slesSubscriptions,
      h.checksResults, h.ledger⟩
  | replaceSlesSubscriptions agent items =>
    exact ⟨h.hosts, h.clusters, h.sapInstances, all_replaceSet h.slesSubscriptions hw,
      h.checksResults, h.ledger⟩
  | upsertChecksResult result =>
    exact ⟨h.hosts, h.clusters, h.sapInstances, h.slesSubscriptions,
      h.checksResults.insert ⟨rfl, hw⟩, h.ledger⟩

/-- Whatever is noted is noted under its own pair, and a success with its envelope. -/
theorem Valid.record (h : m.Valid) (r : OutcomeRecord) : (m.record r).Valid := by
  have hrow : ⟨(m.rowAfter r).source, (m.rowAfter r).eventType⟩ = r.key ∧
      ((m.rowAfter r).outcome = .success → (m.rowAfter r).lastEnvelope.isSome = true) := by
    unfold rowAfter
    split
    · exact ⟨rfl, fun hs => by simp [Subscription.ofRecord, show r.outcome = .success from hs,
        Outcome.isSuccess]⟩
    next row hfound =>
      exact ⟨(h.ledger.of_get? hfound).1, fun hs => by
        simp [Subscription.apply, show r.outcome = .success from hs, Outcome.isSuccess]⟩
  exact ⟨h.hosts, h.clusters, h.sapInstances, h.slesSubscriptions, h.checksResults,
    h.ledger.insert hrow⟩

end ReadModels

/-- Whatever workers with the standard registry do keeps every row valid. -/
theorem Crew.valid_did {x : Executor} {faulty : Prop} {p : Envelope → Prop} {c c' : Crew}
    (h : c.committed.Valid) (hd : Did (.standard x faulty p) c c') : c'.committed.Valid := by
  cases hd with
  | nothing hc _ =>
    rw [hc]
    exact h
  | commit _ hc _ =>
    obtain ⟨w, time, hw, hm⟩ := hc.2.made
    rw [hm]
    exact (h.write (Write.valid_of_change hw)).record _
  | note _ _ _ _ hc _ =>
    rw [hc]
    exact h.record _

/-- In every state that workers can reach, whatever the envelopes hold and whatever happens to the
calls to the stores, each row is stored under its own key and is valid. -/
theorem rows_valid (x : Executor) (hx : Registry.standard = .ok x.registry) (w : World)
    (moves : List Move) : (Crew.play x (.fresh w) moves).committed.Valid :=
  (Crew.play_induction (K := .standard x True fun _ => True) (P := fun c => c.committed.Valid)
    trivial (fun _ => Charter.standard_upheld hx trivial) ReadModels.valid_empty
    fun _ h hd => Crew.valid_did h hd).2

/-- An agent reports an instance, and then one that it names twice; the row stays that of the first
report. The checks on a group amount to the worst of their results. -/
theorem rows_valid_refused :
    let instances (n : Nat) : Json := .ofMembers [("instances", .list (List.replicate n
      (.ofMembers [("sid", .text "PRD"), ("instance_number", .text "00"),
        ("system_type", .text "database")])))]
    let check (result : String) : Json :=
      .ofMembers [("check_id", .text "C1"), ("agent_id", .text "n1"), ("result", .text result)]
    let sap : Envelope := ⟨⟨1⟩, ⟨"n1"⟩, .sapSystemDiscovered, instances 1, ⟨0, 0⟩⟩
    let twice : Envelope := { sap with id := ⟨2⟩, payload := instances 2 }
    let checks : Envelope := ⟨⟨3⟩, ⟨"n1"⟩, .checksResultReported, .ofMembers [
      ("group_id", .text "hana"),
      ("results", .list [check "passing", check "critical", check "warning"])], ⟨0, 0⟩⟩
    let moves := [sap, twice, checks].flatMap fun e => Crew.dispatching (.worker 0) e 12
    ∃ r, Registry.standard = .ok r ∧
      let m := (Crew.play ⟨r, .single⟩ (.fresh (.new ⟨0, 0⟩ 1 .none)) moves).committed
      (m.sapInstancesOf ⟨"n1"⟩).map (·.sid) = ["PRD"] ∧
        (m.ledger.get? sap.key).map (·.outcome.isSuccess) = some false ∧
        (m.checksResults.get? "hana").map (·.health) = some .critical ∧ m.Valid := by
  intro instances check sap twice checks moves
  obtain ⟨r, hr, hrows⟩ : ∃ r, Registry.standard = .ok r ∧
      let m := (Crew.play ⟨r, .single⟩ (.fresh (.new ⟨0, 0⟩ 1 .none)) moves).committed
      (m.sapInstancesOf ⟨"n1"⟩).map (·.sid) = ["PRD"] ∧
        (m.ledger.get? sap.key).map (·.outcome.isSuccess) = some false ∧
        (m.checksResults.get? "hana").map (·.health) = some .critical :=
    ⟨_, rfl, by decide +kernel⟩
  exact ⟨r, hr, hrows.1, hrows.2.1, hrows.2.2, rows_valid ⟨r, .single⟩ hr _ moves⟩

end AgentFacts
