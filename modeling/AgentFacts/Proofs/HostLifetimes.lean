import AgentFacts.Proofs.Handled
import Mathlib.Data.List.DropRight

namespace AgentFacts

def Envelope.isValidOf (agent : AgentId) (eventType : EventType) (e : Envelope) : Bool :=
  e.source = agent ∧ e.eventType = eventType ∧ e.isValid

namespace Envelope

variable {e : Envelope} {w : Write} {agent : AgentId} {eventType : EventType}

def discovers (agent : AgentId) (e : Envelope) : Bool :=
  e.isValidOf agent .hostDiscovered

def deregisters (agent : AgentId) (e : Envelope) : Bool :=
  e.isValidOf agent .hostDeregistered

def beats (agent : AgentId) (e : Envelope) : Bool :=
  e.isValidOf agent .hostHeartbeat

theorem isValidOf_of_change (h : e.change = .ok w) :
    e.isValidOf agent eventType = true ↔ e.source = agent ∧ w.eventType = eventType := by
  unfold isValidOf
  rw [decide_eq_true_iff, eventType_of_change h]
  simp [isValid_iff, h]

theorem isValidOf_of_fails {error : ProjectionError} (h : e.change = .error error) :
    e.isValidOf agent eventType = false := by
  unfold isValidOf isValid
  simp [h, Except.toOption]

theorem discovers_of_deregisters (h : e.deregisters agent = true) : e.discovers agent = false := by
  unfold deregisters discovers isValidOf at *
  rw [decide_eq_true_iff] at h
  refine decide_eq_false fun hd => ?_
  rw [h.2.1] at hd
  exact absurd hd.2.1 (by decide)

theorem change_host (h : e.eventType = .hostDiscovered ∨ e.eventType = .hostHeartbeat ∨
    e.eventType = .hostDeregistered) : e.change = e.hostChange := by
  unfold change
  rcases h with h | h | h <;> rw [h] <;> rfl

theorem report_of_upsertHost {host : Host} (h : e.change = .ok (.upsertHost host)) :
    ∃ report, e.payloadAs HostReport.decode = .ok report ∧
      Host.ofReport e.source report e.receivedAt = .ok host := by
  have ht : e.eventType = .hostDiscovered := eventType_of_change h
  rw [change_host (.inl ht)] at h
  unfold hostChange at h
  rw [if_pos ht] at h
  obtain ⟨report, hd, h⟩ := ok_of_bind_ok h
  obtain ⟨built, hb, h⟩ := ok_of_bind_ok h
  cases h
  exact ⟨report, hd, ok_of_mapError_ok hb⟩

theorem agent_of_upsertHost {host : Host} (h : e.change = .ok (.upsertHost host)) :
    host.agent = e.source := by
  obtain ⟨report, _, hb⟩ := report_of_upsertHost h
  exact Host.agent_ofReport hb

theorem agent_of_deleteHost (h : e.change = .ok (.deleteHost agent)) : agent = e.source := by
  have ht : e.eventType = .hostDeregistered := eventType_of_change h
  rw [change_host (.inr (.inr ht))] at h
  exact Place.host.inj (place_of_hostChange h)

theorem eq_of_recordHeartbeat {time : Instant} (h : e.change = .ok (.recordHeartbeat agent time)) :
    agent = e.source ∧ time = e.receivedAt := by
  have ht : e.eventType = .hostHeartbeat := eventType_of_change h
  rw [change_host (.inr (.inl ht))] at h
  unfold hostChange at h
  rw [if_neg (by rw [ht]; decide), if_pos ht] at h
  obtain ⟨_, _, h⟩ := ok_of_bind_ok h
  cases h
  exact ⟨rfl, rfl⟩

end Envelope

/-- The latest of some times, if there are any. -/
def IsLatest (times : List Instant) : Option Instant → Prop
  | none => times = []
  | some time => time ∈ times ∧ ∀ earlier ∈ times, earlier ≤ time

theorem IsLatest.append {times : List Instant} {known : Option Instant}
    (h : IsLatest times known) (time : Instant) :
    IsLatest (times ++ [time]) (some (ReadModels.latestHeartbeat known time)) := by
  cases known with
  | none =>
    have hn : times = [] := h
    subst hn
    exact ⟨List.mem_singleton.2 rfl, fun _ ht => List.mem_singleton.1 ht ▸ Instant.le_refl time⟩
  | some earlier =>
    obtain ⟨hm, hle⟩ := h
    change IsLatest _ (some (earlier.latest time))
    unfold Instant.latest
    split
    next hnew =>
      refine ⟨List.mem_append_right _ (List.mem_singleton.2 rfl), fun t ht => ?_⟩
      rcases List.mem_append.1 ht with ht | ht
      · exact Instant.le_trans (hle t ht) hnew
      · exact List.mem_singleton.1 ht ▸ Instant.le_refl time
    next hold =>
      refine ⟨List.mem_append_left _ hm, fun t ht => ?_⟩
      rcases List.mem_append.1 ht with ht | ht
      · exact hle t ht
      · exact List.mem_singleton.1 ht ▸ (Instant.le_total earlier time).resolve_left hold

section Lifetimes

/-- What came after the last deregistration of an agent's host, or everything. -/
def sinceDeregistration (agent : AgentId) (es : List Envelope) : List Envelope :=
  es.rtakeWhile fun e => !e.deregisters agent

/-- The current lifetime of an agent's host: what came since it was first reported after its last
deregistration. -/
def lifetime (agent : AgentId) (es : List Envelope) : List Envelope :=
  (sinceDeregistration agent es).dropWhile fun e => !e.discovers agent

def heartbeats (agent : AgentId) (es : List Envelope) : List Instant :=
  (es.filter (·.beats agent)).map (·.receivedAt)

variable {agent : AgentId} {e : Envelope} {es : List Envelope}

theorem lifetime_deregisters (h : e.deregisters agent = true) :
    lifetime agent (es ++ [e]) = [] := by
  unfold lifetime sinceDeregistration
  rw [List.rtakeWhile_concat_neg _ _ _ (by simp [h])]
  rfl

theorem lifetime_append (h : e.deregisters agent = false) :
    lifetime agent (es ++ [e]) =
      if lifetime agent es = [] ∧ e.discovers agent = false then []
      else lifetime agent es ++ [e] := by
  have hsince : sinceDeregistration agent (es ++ [e]) = sinceDeregistration agent es ++ [e] :=
    List.rtakeWhile_concat_pos _ _ _ (by simp [h])
  unfold lifetime
  rw [hsince, List.dropWhile_append]
  cases hl : (sinceDeregistration agent es).dropWhile fun e => !e.discovers agent with
  | nil => cases hd : e.discovers agent <;> simp [hd]
  | cons first rest => simp

theorem heartbeats_append (es : List Envelope) (e : Envelope) :
    heartbeats agent (es ++ [e]) =
      heartbeats agent es ++ if e.beats agent then [e.receivedAt] else [] := by
  unfold heartbeats
  cases hb : e.beats agent <;> simp [hb]

/-- An envelope that is no sign of life adds none. -/
theorem heartbeats_lifetime_append (hg : e.deregisters agent = false)
    (hb : e.beats agent = false) :
    heartbeats agent (lifetime agent (es ++ [e])) = heartbeats agent (lifetime agent es) := by
  rw [lifetime_append hg]
  split
  next hn => rw [hn.1]
  next =>
    rw [heartbeats_append, hb]
    exact List.append_nil _

theorem lifetime_append_eq_nil (hd : e.discovers agent = false) (hg : e.deregisters agent = false) :
    lifetime agent (es ++ [e]) = [] ↔ lifetime agent es = [] := by
  rw [lifetime_append hg]
  split
  next hn => simp [hn.1]
  next hn => simpa [hd] using hn

/-- There is a current lifetime just when the last valid report on the host comes after the last
valid deregistration. -/
theorem lifetime_ne_nil_iff : lifetime agent es ≠ [] ↔
    (es.filter fun e => e.discovers agent || e.deregisters agent).getLast?.any
      (·.discovers agent) = true := by
  induction es using List.reverseRecOn with
  | nil => simp [lifetime, sinceDeregistration]
  | append_singleton es e ih =>
    rw [List.filter_append]
    cases hg : e.deregisters agent with
    | true =>
      have hd := Envelope.discovers_of_deregisters hg
      simp [lifetime_deregisters hg, hg, hd]
    | false =>
      cases hd : e.discovers agent with
      | true => simp [lifetime_append hg, hd]
      | false =>
        rw [ne_eq, lifetime_append_eq_nil hd hg]
        simpa [hd, hg] using ih

end Lifetimes

/-- A row has what an envelope reports on a host, whatever its latest sign of life is. -/
def Host.ReportedIn (host : Host) (e : Envelope) : Prop :=
  ∃ report built, e.payloadAs HostReport.decode = .ok report ∧
    Host.ofReport e.source report e.receivedAt = .ok built ∧
    host = { built with lastHeartbeatAt := host.lastHeartbeatAt }

/-- The row of an agent's host is what the envelopes of the agent have made of it. -/
structure ShowsHost (agent : AgentId) (es : List Envelope) (m : ReadModels) : Prop where
  absent_iff : m.hosts.get? agent = none ↔ lifetime agent es = []
  reported : ∀ host, m.hosts.get? agent = some host →
    ∃ e, (es.filter (·.discovers agent)).getLast? = some e ∧ host.ReportedIn e
  heartbeat : ∀ host, m.hosts.get? agent = some host →
    IsLatest (heartbeats agent (lifetime agent es)) host.lastHeartbeatAt

namespace ShowsHost

variable {agent : AgentId} {e : Envelope} {es : List Envelope} {m m' : ReadModels}

theorem empty (agent : AgentId) : ShowsHost agent [] .empty where
  absent_iff := ⟨fun _ => rfl, fun _ => rfl⟩
  reported _ h := by cases h
  heartbeat _ h := by cases h

/-- What is not about the host leaves it as it is. -/
theorem other (h : ShowsHost agent es m) (hd : e.discovers agent = false)
    (hg : e.deregisters agent = false) (hb : e.beats agent = false)
    (hm : m'.hosts.get? agent = m.hosts.get? agent) : ShowsHost agent (es ++ [e]) m' where
  absent_iff := by
    rw [hm, lifetime_append_eq_nil hd hg]
    exact h.absent_iff
  reported host hh := by
    rw [List.filter_append, List.filter_cons_of_neg (by simp [hd]), List.filter_nil,
      List.append_nil]
    exact h.reported host (hm ▸ hh)
  heartbeat host hh := by
    rw [heartbeats_lifetime_append hg hb]
    exact h.heartbeat host (hm ▸ hh)

/-- A report takes the place of an earlier one, and begins a lifetime if there is none. The signs of
life of the current one still count. -/
theorem discover (h : ShowsHost agent es m) {host : Host} (hd : e.discovers agent = true)
    (hg : e.deregisters agent = false) (hb : e.beats agent = false) (hr : host.ReportedIn e)
    (hm : m'.hosts.get? agent = some { host with
      lastHeartbeatAt := (m.hosts.get? agent).bind (·.lastHeartbeatAt) }) :
    ShowsHost agent (es ++ [e]) m' where
  absent_iff := by
    rw [hm, lifetime_append hg]
    simp [hd]
  reported row hrow := by
    obtain rfl := Option.some.inj (hm.symm.trans hrow)
    obtain ⟨report, built, hdec, hbuilt, heq⟩ := hr
    refine ⟨e, ?_, report, built, hdec, hbuilt, by rw [heq]⟩
    rw [List.filter_append, List.filter_cons_of_pos hd, List.filter_nil, List.getLast?_concat]
  heartbeat row hrow := by
    obtain rfl := Option.some.inj (hm.symm.trans hrow)
    rw [heartbeats_lifetime_append hg hb]
    cases hold : m.hosts.get? agent with
    | none =>
      rw [h.absent_iff.1 hold]
      exact rfl
    | some old => exact h.heartbeat old hold

/-- Who is deregistered has no row, and no lifetime. -/
theorem deregister (hg : e.deregisters agent = true) (hm : m'.hosts.get? agent = none) :
    ShowsHost agent (es ++ [e]) m' where
  absent_iff := by simp [hm, lifetime_deregisters hg]
  reported row hrow := by
    rw [hm] at hrow
    cases hrow
  heartbeat row hrow := by
    rw [hm] at hrow
    cases hrow

/-- A sign of life counts for a host that is there, and for no other. -/
theorem beat (h : ShowsHost agent es m) (hd : e.discovers agent = false)
    (hg : e.deregisters agent = false) (hb : e.beats agent = true) :
    ShowsHost agent (es ++ [e]) (m.recordHeartbeat agent e.receivedAt) := by
  have hfilter : (es ++ [e]).filter (·.discovers agent) = es.filter (·.discovers agent) := by
    rw [List.filter_append, List.filter_cons_of_neg (by simp [hd]), List.filter_nil,
      List.append_nil]
  unfold ReadModels.recordHeartbeat
  cases hold : m.hosts.get? agent with
  | none =>
    refine ⟨?_, fun row hrow => ?_, fun row hrow => ?_⟩
    · rw [lifetime_append_eq_nil hd hg]
      exact h.absent_iff
    · cases hold.symm.trans hrow
    · cases hold.symm.trans hrow
  | some old =>
    have halive : lifetime agent es ≠ [] := fun hn => by
      rw [h.absent_iff.2 hn] at hold
      cases hold
    have hm : (m.hosts.insert agent { old with
        lastHeartbeatAt := some (ReadModels.latestHeartbeat old.lastHeartbeatAt e.receivedAt)
        }).get? agent = some _ := Table.get?_insert_self ..
    refine ⟨?_, fun row hrow => ?_, fun row hrow => ?_⟩
    · rw [lifetime_append_eq_nil hd hg]
      simp [halive]
    · obtain rfl := Option.some.inj (hm.symm.trans hrow)
      obtain ⟨e', he', report, built, hdec, hbuilt, heq⟩ := h.reported old hold
      refine ⟨e', hfilter ▸ he', report, built, hdec, hbuilt, ?_⟩
      rw [heq]
    · obtain rfl := Option.some.inj (hm.symm.trans hrow)
      rw [lifetime_append hg, if_neg fun hn => halive hn.1, heartbeats_append, if_pos hb]
      exact (h.heartbeat old hold).append e.receivedAt

/-- Every envelope does to the host of an agent what is said of it. -/
theorem project (h : ShowsHost agent es m) (e : Envelope) :
    ShowsHost agent (es ++ [e]) (m.project e) := by
  unfold ReadModels.project
  cases hw : e.change with
  | error error =>
    exact h.other (Envelope.isValidOf_of_fails hw) (Envelope.isValidOf_of_fails hw)
      (Envelope.isValidOf_of_fails hw) rfl
  | ok w =>
    have hof : ∀ {t}, e.isValidOf agent t = true ↔ e.source = agent ∧ w.eventType = t :=
      Envelope.isValidOf_of_change hw
    have hnot : ∀ {t}, w.eventType ≠ t → e.isValidOf agent t = false :=
      fun hne => Bool.eq_false_iff.2 fun ht => hne (hof.1 ht).2
    by_cases hp : w.place = .host agent
    · cases w with
      | upsertHost host =>
        obtain rfl := Place.host.inj hp
        obtain ⟨report, hdec, hbuilt⟩ := Envelope.report_of_upsertHost hw
        exact h.discover (hof.2 ⟨(Envelope.agent_of_upsertHost hw).symm, rfl⟩)
          (hnot (show EventType.hostDiscovered ≠ _ by decide))
          (hnot (show EventType.hostDiscovered ≠ _ by decide))
          ⟨report, host, hdec, hbuilt, rfl⟩ (Table.get?_insert_self ..)
      | deleteHost owner =>
        obtain rfl := Place.host.inj hp
        exact deregister (hof.2 ⟨(Envelope.agent_of_deleteHost hw).symm, rfl⟩)
          (Table.get?_erase_self ..)
      | recordHeartbeat owner time =>
        obtain rfl := Place.host.inj hp
        obtain ⟨hsource, rfl⟩ := Envelope.eq_of_recordHeartbeat hw
        exact h.beat (hnot (show EventType.hostHeartbeat ≠ _ by decide))
          (hnot (show EventType.hostHeartbeat ≠ _ by decide)) (hof.2 ⟨hsource.symm, rfl⟩)
      | _ => cases hp
    · have hforeign : ∀ {t}, t = .hostDiscovered ∨ t = .hostHeartbeat ∨ t = .hostDeregistered →
          e.isValidOf agent t = false := by
        intro t ht
        refine Bool.eq_false_iff.2 fun hv => hp ?_
        obtain ⟨rfl, rfl⟩ := hof.1 hv
        rw [← Envelope.eventType_of_change hw] at ht
        exact Envelope.place_of_hostChange ((Envelope.change_host ht).symm.trans hw)
      exact h.other (hforeign (.inl rfl)) (hforeign (.inr (.inr rfl))) (hforeign (.inr (.inl rfl)))
        ((ReadModels.agreeOff_write m w).hosts agent hp)

/-- The ledger does not touch the hosts. -/
theorem record (h : ShowsHost agent es m) (r : OutcomeRecord) : ShowsHost agent es (m.record r) :=
  ⟨h.absent_iff, h.reported, h.heartbeat⟩

end ShowsHost

end AgentFacts
