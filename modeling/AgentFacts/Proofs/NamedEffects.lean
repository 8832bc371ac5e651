import AgentFacts.Proofs.AppliedReports
import AgentFacts.Proofs.ReferenceModels

namespace AgentFacts

/-- The read models are what some envelopes have made of them, and these are the ones whose
projections were committed. -/
structure Crew.MadeBy (p : Envelope → Prop) (c : Crew) (es : List Envelope) : Prop where
  chosen : ∀ e ∈ es, p e ∧ e.isValid = true
  ids : ∀ key, appliedTo key c.history = (es.filter (·.key = key)).map (·.id)
  hosts : ∀ agent, ShowsHost agent es c.committed
  tables : ∀ {κ β : Type} (T : ReportTable κ β), T.Shows es c.committed

namespace Crew

variable {p : Envelope → Prop} {x : Executor} {faulty : Prop} {c c' : Crew} {es : List Envelope}

theorem madeBy_fresh (p : Envelope → Prop) (w : World) : (fresh w).MadeBy p [] where
  chosen _ h := absurd h List.not_mem_nil
  ids _ := rfl
  hosts := .empty
  tables T := T.shows_empty

theorem MadeBy.commit (h : c.MadeBy p es) {e : Envelope} (he : p e)
    (hp : Projects e c.committed c'.committed)
    (hh : c'.history = c.history ++ [.commit e.key e.id]) : c'.MadeBy p (es ++ [e]) where
  chosen e' hm := by
    rcases List.mem_append.1 hm with hm | hm
    · exact h.chosen e' hm
    · rw [List.mem_singleton.1 hm]
      exact ⟨he, hp.isValid⟩
  ids key := by
    rw [hh]
    exact appliedTo_commit h.ids e key
  hosts agent := by
    obtain ⟨time, hm⟩ := hp.eq_project
    rw [hm]
    exact ((h.hosts agent).project e).record _
  tables T := (h.tables T).projects hp

theorem MadeBy.did (h : c.MadeBy p es) (hd : Did (.standard x faulty p) c c') :
    ∃ es', c'.MadeBy p es' := by
  cases hd with
  | nothing hc hh =>
    refine ⟨es, h.chosen, fun key => ?_, fun agent => ?_, fun T => ?_⟩
    · rw [hh]
      exact h.ids key
    · rw [hc]
      exact h.hosts agent
    · rw [hc]
      exact h.tables T
  | commit _ hc hh => exact ⟨_, h.commit hc.1 hc.2 hh⟩
  | note _ _ _ _ hc hh =>
    refine ⟨es, h.chosen, fun key => ?_, fun agent => ?_, fun T => ?_⟩
    · rw [hh, appliedTo_note]
      exact h.ids key
    · rw [hc]
      exact (h.hosts agent).record _
    · rw [hc]
      exact (h.tables T).record _

/-- In every run the read models are what the applied envelopes have made of them, in an order in
which those of a pair ascend. -/
theorem madeBy_play (hx : Registry.standard = .ok x.registry) {w : World} {moves : List Move}
    (ht : ∀ {task e}, .take task e ∈ moves → p e) :
    (play x (fresh w) moves).Sound (.standard x True p) ∧
      (∃ es, (play x (fresh w) moves).MadeBy p es) ∧ (play x (fresh w) moves).InOrder :=
  play_induction (K := .standard x True p) (P := fun c => (∃ es, c.MadeBy p es) ∧ c.InOrder)
    trivial (fun hm => Charter.standard_upheld hx (ht hm)) ⟨⟨[], madeBy_fresh p w⟩, inOrder_fresh w⟩
    fun _ h hd => ⟨h.1.elim fun _ hes => hes.did hd, h.2.did (Charter.standard_orderly _ _ _) hd⟩

theorem MadeBy.filter_isValidOf (h : c.MadeBy p es) (key : LedgerKey) :
    es.filter (·.isValidOf key.source key.eventType) = es.filter (·.key = key) := by
  refine List.filter_congr fun e he => ?_
  rw [ShowsLedger.isValidOf_key, decide_eq_decide]
  exact and_iff_left (h.chosen e he).2

/-- The ledger names the last envelope of a pair that was applied. -/
theorem MadeBy.lastEnvelope (h : c.MadeBy p es) (ho : c.InOrder) (key : LedgerKey) :
    c.committed.lastEnvelope? key =
      (es.filter (·.isValidOf key.source key.eventType)).getLast?.map (·.id) := by
  rw [(ho key).2, h.ids, List.getLast?_map, h.filter_isValidOf]

end Crew

/-- What the rows of an agent show is what its envelopes say, of which the ledger names one for each
pair. `named` tells what the envelope of an id is. -/
structure Crew.ShowsNamed (named : EnvelopeId → Envelope) (agent : AgentId) (c : Crew) : Prop where
  host : ∀ host, c.committed.hosts.get? agent = some host →
    ∃ id, c.committed.lastEnvelope? ⟨agent, .hostDiscovered⟩ = some id ∧
      (named id).key = ⟨agent, .hostDiscovered⟩ ∧ host.ReportedIn (named id)
  heartbeat : ∀ host time, c.committed.hosts.get? agent = some host →
    host.lastHeartbeatAt = some time →
      ∃ id ∈ appliedTo ⟨agent, .hostHeartbeat⟩ c.history,
        (named id).key = ⟨agent, .hostHeartbeat⟩ ∧ (named id).receivedAt = time
  sap : match c.committed.lastEnvelope? ⟨agent, .sapSystemDiscovered⟩ with
    | none => c.committed.sapInstancesOf agent = []
    | some id => (named id).key = ⟨agent, .sapSystemDiscovered⟩ ∧
        ∃ report, (named id).payloadAs SapSystemReport.decode = .ok report ∧
          SapSystemInstance.ofReport agent report (named id).receivedAt =
            .ok (c.committed.sapInstancesOf agent)
  sles : match c.committed.lastEnvelope? ⟨agent, .subscriptionDiscovered⟩ with
    | none => c.committed.slesSubscriptionsOf agent = []
    | some id => (named id).key = ⟨agent, .subscriptionDiscovered⟩ ∧
        ∃ report, (named id).payloadAs SlesReport.decode = .ok report ∧
          SlesSubscription.ofReport agent report (named id).receivedAt =
            .ok (c.committed.slesSubscriptionsOf agent)

/-- Where a step leaves an agent's host in place, its latest sign of life is at least as late as
before; a new report on the host leaves it as it was. -/
structure Crew.KeepsHeartbeat (agent : AgentId) (c c' : Crew) : Prop where
  later : ∀ host host' time, c.committed.hosts.get? agent = some host →
    c'.committed.hosts.get? agent = some host' → host.lastHeartbeatAt = some time →
      ∃ time', host'.lastHeartbeatAt = some time' ∧ time ≤ time'
  reported : ∀ host host' id, c.committed.hosts.get? agent = some host →
    c'.committed.hosts.get? agent = some host' →
      c'.history = c.history ++ [.commit ⟨agent, .hostDiscovered⟩ id] →
        host'.lastHeartbeatAt = host.lastHeartbeatAt

section Shown

variable {named : EnvelopeId → Envelope} {agent : AgentId} {c : Crew} {es : List Envelope}

theorem mem_lifetime {e : Envelope} (h : e ∈ lifetime agent es) : e ∈ es := by
  have hsuffix : sinceDeregistration agent es <:+ es := List.rtakeWhile_suffix _ _
  exact hsuffix.subset ((List.dropWhile_sublist _).subset h)

/-- The last valid envelope of a pair is the one that the ledger names. -/
theorem Crew.MadeBy.named_last (h : c.MadeBy (fun e => named e.id = e) es) (ho : c.InOrder)
    (key : LedgerKey) {e : Envelope}
    (hl : (es.filter (·.isValidOf key.source key.eventType)).getLast? = some e) :
    c.committed.lastEnvelope? key = some e.id ∧ named e.id = e ∧ e.key = key := by
  have hlast := h.lastEnvelope ho key
  rw [hl] at hlast
  rw [h.filter_isValidOf] at hl
  obtain ⟨hm, hk⟩ := List.mem_filter.1 (List.mem_of_getLast? hl)
  exact ⟨hlast, (h.chosen e hm).1, of_decide_eq_true hk⟩

theorem Crew.MadeBy.set_named (h : c.MadeBy (fun e => named e.id = e) es) (ho : c.InOrder)
    {α ρ : Type} {T : ReportTable AgentId (List α)} {decode : Json → Decoded ρ}
    {ofReport : AgentId → ρ → Instant → Except ValidationError (List α)}
    {replace : AgentId → List α → Write} (hT : T.OfAgents decode ofReport replace)
    (agent : AgentId) :
    match c.committed.lastEnvelope? ⟨agent, T.eventType⟩ with
    | none => T.view c.committed agent = []
    | some id => (named id).key = ⟨agent, T.eventType⟩ ∧
        ∃ report, (named id).payloadAs decode = .ok report ∧
          ofReport agent report (named id).receivedAt = .ok (T.view c.committed agent) := by
  have hshown := hT.last (h.tables T) agent
  have hlast := h.lastEnvelope ho ⟨agent, T.eventType⟩
  cases hl : (es.filter (·.isValidOf agent T.eventType)).getLast? with
  | none =>
    rw [hl] at hshown hlast
    rw [hlast]
    exact hshown
  | some e =>
    obtain ⟨hlast, hname, hkey⟩ := h.named_last ho ⟨agent, T.eventType⟩ hl
    rw [hl] at hshown
    rw [hlast]
    dsimp only
    rw [hname]
    exact ⟨hkey, hshown⟩

theorem Crew.MadeBy.showsNamed (h : c.MadeBy (fun e => named e.id = e) es) (ho : c.InOrder)
    (agent : AgentId) : c.ShowsNamed named agent where
  host host hh := by
    obtain ⟨e, hl, hr⟩ := (h.hosts agent).reported host hh
    obtain ⟨hlast, hname, hkey⟩ := h.named_last ho ⟨agent, .hostDiscovered⟩ hl
    exact ⟨e.id, hlast, by rw [hname]; exact hkey, by rw [hname]; exact hr⟩
  heartbeat host time hh ht := by
    have hlatest := (h.hosts agent).heartbeat host hh
    rw [ht] at hlatest
    obtain ⟨e, hm, rfl⟩ := List.mem_map.1 hlatest.1
    obtain ⟨hm, hb⟩ := List.mem_filter.1 hm
    have he := mem_lifetime hm
    have hkey : e.key = ⟨agent, .hostHeartbeat⟩ := by
      obtain ⟨hsource, htype, _⟩ := of_decide_eq_true hb
      rw [Envelope.key, hsource, htype]
    have hname : named e.id = e := (h.chosen e he).1
    refine ⟨e.id, ?_, by rw [hname]; exact hkey, by rw [hname]⟩
    rw [h.ids]
    exact List.mem_map_of_mem (List.mem_filter.2 ⟨he, decide_eq_true hkey⟩)
  sap := h.set_named ho ReportTable.ofAgents_sapInstances agent
  sles := h.set_named ho ReportTable.ofAgents_slesSubscriptions agent

end Shown

namespace ReadModels

variable {m : ReadModels} {agent : AgentId} {host host' : Host}

theorem lastHeartbeatAt_write {w : Write} (h : m.hosts.get? agent = some host)
    (h' : (m.write w).hosts.get? agent = some host') :
    host'.lastHeartbeatAt = host.lastHeartbeatAt ∨
      w.eventType = .hostHeartbeat ∧ ∃ time,
        host'.lastHeartbeatAt = some (latestHeartbeat host.lastHeartbeatAt time) := by
  by_cases hp : w.place = .host agent
  · cases w with
    | upsertHost reported =>
      obtain rfl := Place.host.inj hp
      obtain rfl := Option.some.inj ((Table.get?_insert_self ..).symm.trans h')
      left
      rw [h]
      rfl
    | deleteHost owner =>
      obtain rfl := Place.host.inj hp
      cases (Table.get?_erase_self ..).symm.trans h'
    | recordHeartbeat owner time =>
      obtain rfl := Place.host.inj hp
      change (m.recordHeartbeat owner time).hosts.get? owner = some host' at h'
      unfold recordHeartbeat at h'
      rw [h] at h'
      obtain rfl := Option.some.inj ((Table.get?_insert_self ..).symm.trans h')
      exact .inr ⟨rfl, time, rfl⟩
    | _ => cases hp
  · rw [(agreeOff_write m w).hosts agent hp, h] at h'
    obtain rfl := Option.some.inj h'
    exact .inl rfl

theorem le_latestHeartbeat {time : Instant} (known : Instant) :
    known ≤ latestHeartbeat (some known) time :=
  Instant.le_latest_left known time

end ReadModels

theorem Crew.keepsHeartbeat_did {x : Executor} {faulty : Prop} {p : Envelope → Prop} {c c' : Crew}
    (hd : Did (.standard x faulty p) c c') (agent : AgentId) : KeepsHeartbeat agent c c' := by
  have hsame : (∀ host host', c.committed.hosts.get? agent = some host →
      c'.committed.hosts.get? agent = some host' →
        host'.lastHeartbeatAt = host.lastHeartbeatAt) → KeepsHeartbeat agent c c' :=
    fun h => ⟨fun host host' time hh hh' ht => ⟨time, (h host host' hh hh').trans ht,
      Instant.le_refl time⟩, fun host host' _ hh hh' _ => h host host' hh hh'⟩
  cases hd with
  | nothing hc _ =>
    refine hsame fun host host' hh hh' => ?_
    rw [hc, hh] at hh'
    rw [Option.some.inj hh']
  | note _ _ _ _ hc _ =>
    refine hsame fun host host' hh hh' => ?_
    rw [hc] at hh'
    rw [Option.some.inj (hh.symm.trans hh')]
  | @commit task errand _ hc hhistory =>
    obtain ⟨w, time, hw, hm⟩ := hc.2.made
    refine ⟨fun host host' known hh hh' hknown => ?_, fun host host' id hh hh' hid => ?_⟩
    · rw [hm] at hh'
      rcases ReadModels.lastHeartbeatAt_write hh hh' with heq | ⟨-, at', heq⟩
      · exact ⟨known, heq.trans hknown, Instant.le_refl known⟩
      · rw [hknown] at heq
        exact ⟨_, heq, ReadModels.le_latestHeartbeat known⟩
    · rw [hm] at hh'
      refine (ReadModels.lastHeartbeatAt_write hh hh').resolve_right fun hbeat => ?_
      -- The envelope that was applied is a report, not a sign of life.
      have hkey := List.append_cancel_left (hhistory.symm.trans hid)
      have htype : errand.envelope.eventType = .hostDiscovered :=
        congrArg LedgerKey.eventType (Deed.commit.inj (List.singleton_inj.1 hkey)).1
      rw [Envelope.eventType_of_change hw, hbeat.1] at htype
      exact absurd htype (by decide)

/-- In every state that workers can reach, the row of an agent's host and its sets are what the
envelopes report that the ledger names, and the latest sign of life is one that was applied; and no
step takes anything from a sign of life while it leaves the host in place. -/
theorem rows_of_named (x : Executor) (hx : Registry.standard = .ok x.registry)
    (named : EnvelopeId → Envelope) (w : World) (moves : List Move)
    (hnamed : ∀ {task e}, .take task e ∈ moves → named e.id = e) (agent : AgentId) :
    let c := Crew.play x (.fresh w) moves
    c.ShowsNamed named agent ∧ ∀ move, Crew.KeepsHeartbeat agent c (c.step x move) := by
  intro c
  obtain ⟨-, ⟨es, hes⟩, ho⟩ :=
    Crew.madeBy_play (p := fun e => named e.id = e) hx (w := w) hnamed
  have hsound : c.Sound (.standard x True fun _ => True) :=
    (Crew.madeBy_play (p := fun _ => True) hx fun _ => trivial).1
  refine ⟨hes.showsNamed ho agent, fun move => ?_⟩
  exact Crew.keepsHeartbeat_did (Crew.sound_step (fun _ => trivial) hsound
    fun _ => Charter.standard_upheld hx trivial).2 agent

/-- A newer report on a host overtakes an older one, and a later sign of life an earlier one; then
the host is reported once more. -/
theorem rows_of_named_overtaken :
    let report (id : Int) (hostname : String) : Envelope :=
      ⟨⟨id⟩, ⟨"n1"⟩, .hostDiscovered, .ofMembers [("hostname", .text hostname)], ⟨id, 0⟩⟩
    let alive (id : Int) : Envelope := ⟨⟨id⟩, ⟨"n1"⟩, .hostHeartbeat, .ofMembers [], ⟨id, 0⟩⟩
    let es := [report 3 "newer", report 1 "older", alive 5, alive 4, report 6 "newest"]
    let named (id : EnvelopeId) : Envelope := (es.find? fun e => e.id = id).getD (alive 5)
    let moves := es.flatMap fun e => Crew.dispatching (.worker 0) e 12
    ∃ r, Registry.standard = .ok r ∧
      let c := Crew.play ⟨r, .single⟩ (.fresh (.new ⟨0, 0⟩ 1 .none)) moves
      (c.committed.hosts.get? ⟨"n1"⟩).map (fun host => (host.hostname, host.lastHeartbeatAt)) =
          some ("newest", some ⟨5, 0⟩) ∧
        c.ShowsNamed named ⟨"n1"⟩ ∧
        ∀ move, Crew.KeepsHeartbeat ⟨"n1"⟩ c (c.step ⟨r, .single⟩ move) := by
  intro report alive es named moves
  obtain ⟨r, hr, hrow⟩ : ∃ r, Registry.standard = .ok r ∧
      ((Crew.play ⟨r, .single⟩ (.fresh (.new ⟨0, 0⟩ 1 .none)) moves).committed.hosts.get?
        ⟨"n1"⟩).map (fun host => (host.hostname, host.lastHeartbeatAt)) =
          some ("newest", some ⟨5, 0⟩) :=
    ⟨_, rfl, by decide +kernel⟩
  have hnamed : ∀ {task e}, .take task e ∈ moves → named e.id = e := by
    intro task e hm
    have he : e ∈ es := by
      obtain ⟨e', he', hm⟩ := List.mem_flatMap.1 hm
      obtain ⟨-, rfl⟩ : task = .worker 0 ∧ e = e' := by simpa [Crew.dispatching] using hm
      exact he'
    simp only [es, List.mem_cons, List.not_mem_nil, or_false] at he
    rcases he with rfl | rfl | rfl | rfl | rfl <;> rfl
  exact ⟨r, hr, hrow, rows_of_named ⟨r, .single⟩ hr named _ moves hnamed ⟨"n1"⟩⟩

end AgentFacts
