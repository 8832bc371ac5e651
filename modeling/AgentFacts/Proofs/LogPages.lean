import AgentFacts.Proofs.AppliedReports
import AgentFacts.Proofs.Deliveries

namespace AgentFacts

/-- What comes of a report that is handed to the event log, by the reply and the world after it. -/
inductive World.Files (w : World) (e : NewEnvelope) :
    Except (Halt EventLogError) EnvelopeId → World → Prop
  | kept {w' : World} (hfit : e.validate = .ok ()) (hlog : w'.events = w.events.append e) :
      Files w e (.ok w.events.nextId) w'
  | refused {fault : EnvelopeFault} {faults : FaultPlan} (hunfit : e.validate = .error fault) :
      Files w e (.error (.error (.invalidEnvelope fault.message))) { w with faults }
  | struck {halt : Halt EventLogError} {faults : FaultPlan}
      (hplan : w.faults.nextLog .persist = (some halt, faults)) :
      Files w e (.error halt) { w with faults }

/-- The report that a call has put into the log, by its reply. -/
def Call.filed : (c : Call) → c.Reply → List NewEnvelope
  | .persist e, .ok _ => [e]
  | _, _ => []

namespace EventLog

/-- The log holds some reports in their order, numbered from one. -/
def Numbers (log : EventLog) (reports : List NewEnvelope) : Prop :=
  log.envelopes = reports.mapIdx fun i e => e.withId ⟨i + 1⟩

variable {log : EventLog} {reports : List NewEnvelope}

theorem Numbers.append (h : log.Numbers reports) (e : NewEnvelope) :
    (log.append e).Numbers (reports ++ [e]) := by
  unfold Numbers EventLog.append nextId
  rw [List.mapIdx_concat, h, List.length_mapIdx]

theorem Numbers.ascending (h : log.Numbers reports) : log.Ascending where
  ids := by
    rw [h, List.pairwise_iff_getElem]
    intro i j hi hj hij
    simp only [List.getElem_mapIdx, NewEnvelope.withId, EnvelopeId.lt_iff]
    omega
  next e hm := by
    have hlen : log.envelopes.length = reports.length := by rw [h, List.length_mapIdx]
    rw [h] at hm
    obtain ⟨i, hi, rfl⟩ := List.mem_mapIdx.1 hm
    simp only [nextId, hlen, NewEnvelope.withId, EnvelopeId.lt_iff]
    omega

theorem get?_of_grown {log' : EventLog} (hasc : log'.Ascending)
    (hp : log.envelopes <+: log'.envelopes) {id : EnvelopeId} {e : Envelope}
    (h : log.get? id = some e) : log'.get? id = some e := by
  have hm := hp.subset (List.mem_of_find?_eq_some h)
  have hid : e.id = id := by simpa using List.find?_some h
  rw [← hid]
  exact hasc.get?_eq_some hm

end EventLog

namespace World

variable {w w' : World} {task : TaskId} {reports : List NewEnvelope}

theorem Delivers.envelopes_eq {queued : List Envelope} (h : Delivers w w' [] queued) :
    w'.events.envelopes = w.events.envelopes := by
  rw [h.events, List.append_nil]

theorem persist_files (w : World) (e : NewEnvelope) :
    ∃ reply w', w.persist e = .reply reply w' ∧ w.Files e reply w' := by
  unfold persist
  split
  next halt faults hplan => exact ⟨_, _, rfl, .struck hplan⟩
  next faults _ =>
    unfold EventLog.persist
    cases hv : e.validate with
    | error fault => exact ⟨_, _, rfl, .refused hv⟩
    | ok u => exact ⟨_, _, rfl, .kept hv rfl⟩

/-- The log goes on numbering what has been put into it, whatever is called. -/
theorem numbers_reply (h : w.events.Numbers reports) {c : Call} {reply : c.Reply}
    (ha : w.answer task c = .reply reply w') :
    w'.events.Numbers (reports ++ c.filed reply) := by
  -- Every other call leaves the log as it is.
  have hapart : (∀ e, c ≠ .persist e) → w'.events.Numbers (reports ++ []) := by
    intro hp
    have hd := delivers_reply ha
    have hnone : c.logged reply = [] := by
      cases c with
      | persist e => exact absurd rfl (hp e)
      | _ => rfl
    rw [hnone] at hd
    rw [List.append_nil]
    exact hd.envelopes_eq.trans h
  cases c with
  | persist e =>
    obtain ⟨reply', world, hpersist, hfiles⟩ := w.persist_files e
    cases hpersist.symm.trans ha
    cases hfiles with
    | kept _ hlog =>
      rw [hlog]
      exact h.append e
    | refused => exact (List.append_nil reports).symm ▸ h
    | struck => exact (List.append_nil reports).symm ▸ h
  | _ => exact hapart fun _ he => by cases he

end World

/-- A reader of the event log, among others who use the same world. -/
structure LogReader where
  world : World
  filed : List NewEnvelope
  received : List Envelope

namespace LogReader

inductive Move where
  | call (task : TaskId) (c : Call)
  | leave (task : TaskId)
  | page

def fresh (w : World) : LogReader where
  world := { w with events := .empty }
  filed := []
  received := []

variable (q : EnvelopeQuery)

/-- The query for the next page: what comes after the last envelope received. -/
def nextQuery (s : LogReader) : EnvelopeQuery :=
  { q with after := (s.received.getLast?.map (·.id)).or q.after }

def nextPage (s : LogReader) : List Envelope :=
  s.world.events.query (s.nextQuery q)

def step (s : LogReader) : Move → LogReader
  | .call task c =>
    match s.world.answer task c with
    | .reply reply world => { s with world, filed := s.filed ++ c.filed reply }
    | .wait world => { s with world }
  | .leave task => { s with world := s.world.forget task }
  | .page => { s with received := s.received ++ s.nextPage q }

def play (s : LogReader) (moves : List Move) : LogReader :=
  moves.foldl (step q) s

/-- What there is for the reader in the log. -/
def wanted (s : LogReader) : List Envelope :=
  s.world.events.envelopes.filter q.admits

/-- The log numbers what has been put into it, and nothing of what is wanted has been skipped. -/
structure Sound (s : LogReader) : Prop where
  numbers : s.world.events.Numbers s.filed
  received : s.received <+: s.wanted q

variable {q} {s : LogReader}

theorem play_append (s : LogReader) (first later : List Move) :
    s.play q (first ++ later) = (s.play q first).play q later :=
  List.foldl_append

theorem admits_nextQuery {last : Envelope} (hl : s.received.getLast? = some last)
    (ha : q.admits last = true) (e : Envelope) :
    (s.nextQuery q).admits e = (decide (last.id < e.id) && q.admits e) := by
  have hafter : q.after.all (fun id => decide (id < last.id)) = true := by
    simp only [EnvelopeQuery.admits, Bool.and_eq_true] at ha
    exact ha.1.1.2
  have hpast : last.id < e.id → q.after.all (fun id => decide (id < e.id)) = true := by
    intro hlt
    rw [Option.all_eq_true] at hafter ⊢
    exact fun id hid =>
      decide_eq_true (EnvelopeId.lt_trans (of_decide_eq_true (hafter id hid)) hlt)
  unfold nextQuery EnvelopeQuery.admits
  rw [hl]
  by_cases hlt : last.id < e.id
  · simp [hlt, hpast hlt]
  · simp [hlt]

theorem Sound.wanted_ascends (h : s.Sound q) : (s.wanted q).Pairwise (·.id < ·.id) :=
  h.numbers.ascending.ids.sublist List.filter_sublist

/-- What the next query admits is what is wanted and has not been received. -/
theorem Sound.received_append (h : s.Sound q) :
    s.received ++ s.world.events.envelopes.filter (s.nextQuery q).admits = s.wanted q := by
  cases hl : s.received.getLast? with
  | none =>
    have hempty := List.getLast?_eq_none_iff.1 hl
    unfold nextQuery wanted
    rw [hempty]
    rfl
  | some last =>
    -- What has been received ends where the cursor is, so the filter leaves what comes after it.
    obtain ⟨rest, hrest⟩ := h.received
    have hlast := List.mem_filter.1 (h.received.subset (List.mem_of_getLast? hl))
    have hwanted : s.world.events.envelopes.filter q.admits = s.received ++ rest := hrest.symm
    rw [List.filter_congr fun e _ => admits_nextQuery hl hlast.2 e, ← List.filter_filter, hwanted,
      Envelope.filter_past (hrest ▸ h.wanted_ascends) hl, hrest]

theorem nextPage_stretch (ho : q.offset = none) :
    s.nextPage q <+: s.world.events.envelopes.filter (s.nextQuery q).admits := by
  have hoffset : (s.nextQuery q).offset = none := ho
  unfold nextPage EventLog.query EnvelopeQuery.stretch
  rw [hoffset]
  dsimp only [Option.elim]
  split
  · exact List.prefix_refl _
  · exact List.take_prefix _ _

/-- A page has room for at least one envelope, so it is empty only when nothing is left. -/
theorem nextPage_eq_nil (ho : q.offset = none) (hl : q.limit ≠ some 0)
    (h : s.nextPage q = []) :
    s.world.events.envelopes.filter (s.nextQuery q).admits = [] := by
  have hoffset : (s.nextQuery q).offset = none := ho
  have hlimit : (s.nextQuery q).limit = q.limit := rfl
  unfold nextPage EventLog.query EnvelopeQuery.stretch at h
  rw [hoffset, hlimit] at h
  dsimp only [Option.elim] at h
  split at h
  · exact h
  next limit hq =>
    rcases List.take_eq_nil_iff.1 h with hzero | hnil
    · have hnone : limit = 0 := UInt64.toNat_inj.1 (hzero.trans UInt64.toNat_zero.symm)
      exact absurd (hq.trans (congrArg some hnone)) hl
    · exact hnil

theorem numbers_step (h : s.world.events.Numbers s.filed) (move : Move) :
    (s.step q move).world.events.Numbers (s.step q move).filed := by
  cases move with
  | call task c =>
    unfold step
    dsimp only
    split
    next ha => exact World.numbers_reply h ha
    next ha => exact (World.delivers_wait ha).envelopes_eq.trans h
  | leave task => exact (World.delivers_forget s.world task).envelopes_eq.trans h
  | page => exact h

theorem numbers_play (w : World) (moves : List Move) :
    ((fresh w).play q moves).world.events.Numbers ((fresh w).play q moves).filed :=
  List.foldlRecOn (motive := fun s : LogReader => s.world.events.Numbers s.filed) moves (step q)
    rfl fun _ h move _ => numbers_step h move

theorem prefix_step (s : LogReader) (move : Move) :
    s.world.events.envelopes <+: (s.step q move).world.events.envelopes := by
  cases move with
  | call task c =>
    unfold step
    dsimp only
    split
    next ha => exact ⟨_, (World.delivers_reply ha).events.symm⟩
    next ha => exact ⟨_, (World.delivers_wait ha).events.symm⟩
  | leave task => exact ⟨_, (World.delivers_forget s.world task).events.symm⟩
  | page => exact List.prefix_refl _

/-- Nothing is ever taken out of the log or changed in it. -/
theorem prefix_play (s : LogReader) (moves : List Move) :
    s.world.events.envelopes <+: (s.play q moves).world.events.envelopes :=
  List.foldlRecOn (motive := fun s' : LogReader =>
      s.world.events.envelopes <+: s'.world.events.envelopes)
    moves (step q) (List.prefix_refl _) fun s' hs move _ => hs.trans (s'.prefix_step move)

theorem Sound.step (h : s.Sound q) (ho : q.offset = none) (move : Move) :
    (s.step q move).Sound q where
  numbers := numbers_step h.numbers move
  received := by
    cases move with
    | call task c =>
      have hkept : (s.step q (.call task c)).received = s.received := by
        unfold LogReader.step
        dsimp only
        split <;> rfl
      rw [hkept]
      exact h.received.trans ((s.prefix_step (.call task c)).filter _)
    | leave task => exact h.received.trans ((s.prefix_step (.leave task)).filter _)
    | page =>
      change s.received ++ s.nextPage q <+: s.wanted q
      rw [← h.received_append]
      exact (List.prefix_append_right_inj _).2 (nextPage_stretch ho)

theorem Sound.play (h : s.Sound q) (ho : q.offset = none) (moves : List Move) :
    (s.play q moves).Sound q :=
  List.foldlRecOn (motive := Sound q) moves (LogReader.step q) h fun _ hs move _ => hs.step ho move

theorem Sound.nextPage_eq_nil_iff (h : s.Sound q) (ho : q.offset = none) (hl : q.limit ≠ some 0) :
    s.nextPage q = [] ↔ s.received = s.wanted q := by
  rw [← h.received_append, List.self_eq_append_right]
  exact ⟨nextPage_eq_nil ho hl, fun hnil => List.prefix_nil.1 (hnil ▸ nextPage_stretch ho)⟩

/-- Each page brings something, until one is empty. -/
theorem brought_by_pages (s : LogReader) (n : Nat) :
    let s' := s.play q (List.replicate n .page)
    s'.world = s.world ∧ (s'.nextPage q = [] ∨ n ≤ s'.received.length) := by
  induction n with
  | zero => exact ⟨rfl, .inr (Nat.zero_le _)⟩
  | succ n ih =>
    rw [List.replicate_succ', play_append]
    generalize s.play q (List.replicate n .page) = before at ih ⊢
    obtain ⟨hworld, hbrought⟩ := ih
    refine ⟨hworld, ?_⟩
    change (before.step q .page).nextPage q = [] ∨
      n + 1 ≤ (before.received ++ before.nextPage q).length
    by_cases hempty : before.nextPage q = []
    · have hsame : before.step q .page = before := by
        unfold step
        rw [hempty, List.append_nil]
      left
      rw [hsame]
      exact hempty
    · have hpos := List.length_pos_iff.2 hempty
      have hle := hbrought.resolve_left hempty
      exact .inr (by rw [List.length_append]; omega)

/-- A reader who goes on gets an empty page after at most as many pages as there are envelopes. -/
theorem Sound.ends (h : s.Sound q) (ho : q.offset = none) (hl : q.limit ≠ some 0) {n : Nat}
    (hn : (s.wanted q).length ≤ n) : (s.play q (List.replicate n .page)).nextPage q = [] := by
  have hsound := h.play ho (List.replicate n .page)
  obtain ⟨hworld, hempty | hle⟩ := brought_by_pages (q := q) s n
  · exact hempty
  · refine (hsound.nextPage_eq_nil_iff ho hl).2 (hsound.received.eq_of_length_le ?_)
    unfold wanted at hn ⊢
    rw [hworld]
    exact Nat.le_trans hn hle

/-- Whatever is called by whom, the event log holds the reports that were fit for it in the order in
which they came, numbered from one; a report that is refused changes nothing; and what has once been
found under an id is found there ever after. A reader who asks for page after page of what a query
wants, each time with the last id received, receives what there is in order of the ids; a page is
empty just when all that is wanted and in the log by then has been received, each envelope once; and
unless more is put into the log, there is such a page. -/
theorem pages_of_growing_log (q : EnvelopeQuery) (w : World) (moves : List Move) :
    let s := (fresh w).play q moves
    s.world.events.Numbers s.filed ∧
      (∀ task e, ∃ reply w', s.world.answer task (.persist e) = .reply reply w' ∧
        s.world.Files e reply w') ∧
      (∀ id e, s.world.events.get? id = some e →
        ∀ later, (s.play q later).world.events.get? id = some e) ∧
      (q.offset = none → q.limit ≠ some 0 →
        (s.wanted q).Pairwise (·.id < ·.id) ∧ s.received <+: s.wanted q ∧
          (s.nextPage q = [] ↔ s.received = s.wanted q) ∧
          ∀ n, (s.wanted q).length ≤ n → (s.play q (List.replicate n .page)).nextPage q = []) := by
  intro s
  refine ⟨numbers_play w moves, fun _ e => s.world.persist_files e, fun id e he later => ?_,
    fun ho hl => ?_⟩
  · have hlater : (s.play q later).world.events.Numbers (s.play q later).filed := by
      have hplay : s.play q later = (fresh w).play q (moves ++ later) :=
        ((fresh w).play_append moves later).symm
      rw [hplay]
      exact numbers_play w (moves ++ later)
    exact EventLog.get?_of_grown hlater.ascending (s.prefix_play later) he
  · have hsound : s.Sound q := Sound.play (s := fresh w) ⟨rfl, List.nil_prefix⟩ ho moves
    exact ⟨hsound.wanted_ascends, hsound.received, hsound.nextPage_eq_nil_iff ho hl,
      fun n hn => hsound.ends ho hl hn⟩

/-- Pages of one envelope each, between which a report is kept and another one is refused. -/
theorem pages_of_growing_log_interleaved :
    let q := { EnvelopeQuery.ofSource ⟨"a"⟩ with limit := some 1 }
    let report := fun source eventType => Call.persist ⟨⟨source⟩, eventType, .null, ⟨0, 0⟩⟩
    let moves : List Move := [
      .call (.client 0) (report "a" .hostDiscovered), .call (.client 1) (report "b" .hostDiscovered),
      .page, .call (.client 1) (report "" .hostDiscovered),
      .call (.client 0) (report "a" .hostHeartbeat), .page]
    let s := (fresh (.new ⟨0, 0⟩ 1 .none)).play q moves
    q.offset = none ∧ q.limit ≠ some 0 ∧ s.received = s.wanted q ∧
      s.received.map (·.id.value) = [1, 3] := by
  intro q report moves s
  have h := (pages_of_growing_log q (.new ⟨0, 0⟩ 1 .none) moves).2.2.2 rfl (by decide)
  exact ⟨rfl, by decide, h.2.2.1.1 (List.isEmpty_iff.1 (by decide +kernel)), by decide +kernel⟩

end LogReader

end AgentFacts
