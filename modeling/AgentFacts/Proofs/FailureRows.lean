import AgentFacts.Proofs.StandardCharter

namespace AgentFacts

def Deed.key : Deed → LedgerKey
  | .commit key _ => key
  | .note r _ _ => r.key

/-- Where a failure in a row comes from: the last deed for its pair noted it. -/
structure NotedLast (history : List Deed) (key : LedgerKey) (row : Subscription)
    (before : List Deed) (r : OutcomeRecord) (base : ReadModels) (struck : Bool) : Prop where
  last : ∃ after, history = before ++ .note r base struck :: after ∧ ∀ d ∈ after, d.key ≠ key
  key : r.key = key
  outcome : r.outcome = row.outcome

/-- What is known of the row whose failure was noted last. -/
structure FailureExplained (key : LedgerKey) (row : Subscription) (before : List Deed)
    (r : OutcomeRecord) (base : ReadModels) (struck : Bool) : Prop where
  lastEnvelope : row.lastEnvelope = (appliedTo key before).getLast?
  sorted : (appliedTo key before).Pairwise (· < ·)
  due : struck = false → ∀ last, base.lastEnvelope? key = some last → last < r.envelope

/-- Every failure in the ledger is explained by the deed that noted it. The note is written outside
of the transaction, without another look at the ledger, so an envelope that has been overtaken
meanwhile can turn the row of its pair into a failure. -/
def Crew.FailuresExplained (c : Crew) : Prop :=
  ∀ key row, c.committed.ledger.get? key = some row → row.outcome.isSuccess = false →
    ∃ before r base struck, NotedLast c.history key row before r base struck ∧
      FailureExplained key row before r base struck

def Crew.AppliesKnown (x : Executor) (c : Crew) : Prop :=
  ∀ key, x.registry.find? key.eventType = none → appliedTo key c.history = []

theorem NotedLast.append {history : List Deed} {key : LedgerKey} {row : Subscription}
    {before : List Deed} {r : OutcomeRecord} {base : ReadModels} {struck : Bool} {d : Deed}
    (h : NotedLast history key row before r base struck) (hd : d.key ≠ key) :
    NotedLast (history ++ [d]) key row before r base struck where
  last := by
    obtain ⟨after, rfl, ha⟩ := h.last
    refine ⟨after ++ [d], by simp, fun d' hm => ?_⟩
    rcases List.mem_append.1 hm with hm | hm
    · exact ha d' hm
    · rw [List.mem_singleton.1 hm]
      exact hd
  key := h.key
  outcome := h.outcome

namespace Crew

variable {x : Executor} {faulty : Prop} {p : Envelope → Prop} {c c' : Crew}

theorem AppliesKnown.did (hx : Registry.standard = .ok x.registry) (h : c.AppliesKnown x)
    (hd : Did (.standard x faulty p) c c') : c'.AppliesKnown x := by
  intro key hk
  cases hd with
  | nothing _ hh =>
    rw [hh]
    exact h key hk
  | commit _ hc hh =>
    rw [hh, appliedTo_append, h key hk]
    dsimp only [Deed.appliedTo?]
    obtain ⟨w, _, hw, _⟩ := hc.2.made
    rw [if_neg ?_]
    · rfl
    · intro he
      subst he
      have hs := (Registry.isSome_find?_standard hx _).2 (Envelope.known_of_change hw)
      exact Option.isSome_iff_ne_none.1 hs hk
  | note _ _ _ _ _ hh =>
    rw [hh, appliedTo_note]
    exact h key hk

theorem FailuresExplained.others (h : c.FailuresExplained) {d : Deed} {key : LedgerKey}
    {row : Subscription} (hh : c'.history = c.history ++ [d]) (hd : d.key ≠ key)
    (hl : c'.committed.ledger.get? key = c.committed.ledger.get? key)
    (hrow : c'.committed.ledger.get? key = some row) (hf : row.outcome.isSuccess = false) :
    ∃ before r base struck, NotedLast c'.history key row before r base struck ∧
      FailureExplained key row before r base struck := by
  rw [hl] at hrow
  obtain ⟨before, r, base, struck, hn, he⟩ := h key row hrow hf
  rw [hh]
  exact ⟨before, r, base, struck, hn.append hd, he⟩

theorem FailuresExplained.commit (h : c.FailuresExplained) {e : Envelope}
    (hp : Projects e c.committed c'.committed)
    (hh : c'.history = c.history ++ [.commit e.key e.id]) :
    c'.FailuresExplained := by
  intro key row hrow hf
  obtain ⟨w, time, _, hm⟩ := hp.made
  by_cases hk : key = e.key
  · subst hk
    rw [hm, show e.key = (OutcomeRecord.ofEnvelope e .success time).key from rfl,
      ReadModels.ledger_record_self] at hrow
    obtain rfl := Option.some.inj hrow
    rw [ReadModels.outcome_rowAfter] at hf
    cases hf
  · refine h.others hh (Ne.symm hk) ?_ hrow hf
    have hk' : key ≠ (OutcomeRecord.ofEnvelope e .success time).key := hk
    rw [hm, ReadModels.ledger_record_ne hk', ReadModels.ledger_write]

/-- An envelope that was due when its worker last looked was due when it was taken. -/
theorem due_of_kept (hks : c.AppliesKnown x) (ho : c.InOrder) {task : TaskId} {errand : Errand}
    {σ : Standing} (hk : errand.Kept (.standard x faulty p) task c.world.models σ)
    (hc : σ.copy = none) (hd : Executor.Due x errand.envelope σ) (hs : errand.struck = false) :
    ¬ errand.base.Stale errand.envelope := by
  intro hst
  rcases hd with hd | hd | hd
  · rw [hk.struck hd] at hs
    cases hs
  · obtain ⟨last, hl, -⟩ :=
      ReadModels.Since.stale (ReadModels.Since.trans hk.drift (hk.fits.outside hc).2) hst
    have hn := (ho errand.envelope.key).2
    rw [hks errand.envelope.key hd] at hn
    rw [show c.world.models.committed.lastEnvelope? errand.envelope.key = none from hn] at hl
    cases hl
  · exact hd (ReadModels.Since.stale hk.drift hst)

theorem FailuresExplained.note (h : c.FailuresExplained) (hks : c.AppliesKnown x)
    (ho : c.InOrder) {task : TaskId} {errand : Errand} {σ : Standing} {r : OutcomeRecord}
    (hk : errand.Kept (.standard x faulty p) task c.world.models σ) (hc : σ.copy = none)
    (hn : NotesFailure x errand.envelope σ r) (hm : c'.committed = c.committed.record r)
    (hh : c'.history = c.history ++ [.note r errand.base errand.struck]) :
    c'.FailuresExplained := by
  intro key row hrow hf
  obtain ⟨hrk, hri⟩ := hn.key
  by_cases hkey : key = r.key
  · subst hkey
    rw [hm, ReadModels.ledger_record_self] at hrow
    obtain rfl := Option.some.inj hrow
    refine ⟨c.history, r, errand.base, errand.struck,
      ⟨⟨[], hh, fun _ hd => absurd hd List.not_mem_nil⟩, rfl,
        (ReadModels.outcome_rowAfter ..).symm⟩, ?_, (ho r.key).1, ?_⟩
    · rw [ReadModels.lastEnvelope_rowAfter_failure hn.not_success]
      exact (ho r.key).2
    · intro hs last hl
      rw [hrk] at hl
      rw [hri]
      exact ReadModels.lt_of_not_stale (due_of_kept hks ho hk hc hn.due hs) hl
  · refine h.others hh (Ne.symm hkey) ?_ hrow hf
    rw [hm, ReadModels.ledger_record_ne hkey]

/-- What is known of a crew with the standard registry, throughout every run. -/
structure Accounted (x : Executor) (c : Crew) : Prop where
  order : c.InOrder
  known : c.AppliesKnown x
  failures : c.FailuresExplained

theorem Accounted.did (hx : Registry.standard = .ok x.registry) (h : c.Accounted x)
    (hd : Did (.standard x faulty p) c c') : c'.Accounted x where
  order := h.order.did (Charter.standard_orderly x faulty p) hd
  known := h.known.did hx hd
  failures := by
    cases hd with
    | nothing hc hh =>
      intro key row hrow hf
      rw [hc] at hrow
      rw [hh]
      exact h.failures key row hrow hf
    | commit _ hc hh => exact h.failures.commit hc.2 hh
    | note _ hk ho hn hc hh => exact h.failures.note h.known h.order hk ho hn hc hh

theorem accounted_fresh (x : Executor) (w : World) : Accounted x (fresh w) where
  order := inOrder_fresh w
  known _ _ := rfl
  failures _ _ h := by cases h

end Crew

/-- The last failure of a row is one of an envelope that is newer than the last applied one just
when no envelope of the pair, equally new or newer, had been applied by then. Without a failing call
to the store that can only have happened while the failing envelope was being dispatched. -/
theorem failure_newer_iff (x : Executor) (hx : Registry.standard = .ok x.registry) (w : World)
    (moves : List Move) (key : LedgerKey) (row : Subscription) (reason : String) :
    let c := Crew.play x (.fresh w) moves
    c.committed.ledger.get? key = some row → row.outcome = .failure reason →
      ∃ before r base struck, NotedLast c.history key row before r base struck ∧
        ((∀ last, row.lastEnvelope = some last → last < r.envelope) ↔
          ∀ id ∈ appliedTo key before, id < r.envelope) ∧
        (struck = false → ∀ last, base.lastEnvelope? key = some last → last < r.envelope) := by
  intro c hrow hr
  have hc : c.Sound _ ∧ c.Accounted x :=
    Crew.play_induction (K := .standard x True fun _ => True) trivial
      (fun _ => Charter.standard_upheld hx trivial) (Crew.accounted_fresh x w)
      fun _ h hd => h.did hx hd
  have h := hc.2
  obtain ⟨before, r, base, struck, hn, he⟩ := h.failures key row hrow (by rw [hr]; rfl)
  refine ⟨before, r, base, struck, hn, ?_, he.due⟩
  rw [he.lastEnvelope]
  constructor
  · intro hlast id hm
    obtain ⟨last, hl⟩ := Option.ne_none_iff_exists'.1
      (mt List.getLast?_eq_none_iff.1 (List.ne_nil_of_mem hm))
    have hle := le_of_getLast? he.sorted hl hm
    have hlt := hlast last hl
    simp only [EnvelopeId.le_iff, EnvelopeId.lt_iff] at *
    omega
  · intro hall last hl
    exact hall last (List.mem_of_getLast? hl)

/-- A failure that comes after a newer success, although no call to the store has failed: the newer
envelope is applied between the failing projection and its note. -/
theorem failure_newer_iff_overtaken :
    let newer : Envelope := ⟨⟨2⟩, ⟨"agent"⟩, .hostHeartbeat, .ofMembers [], ⟨0, 0⟩⟩
    let older : Envelope := { newer with id := ⟨1⟩, payload := .null }
    let moves : List Move := [.take (.worker 0) older, .take (.worker 1) newer] ++
      List.replicate 4 (.call (.worker 0)) ++ List.replicate 11 (.call (.worker 1)) ++
      List.replicate 5 (.call (.worker 0))
    ∃ r, Registry.standard = .ok r ∧
      let c := Crew.play ⟨r, .single⟩ (.fresh (.new ⟨0, 0⟩ 1 .none)) moves
      ∃ row reason, c.committed.ledger.get? older.key = some row ∧
        row.outcome = .failure reason ∧ row.lastEnvelope = some newer.id ∧
        ∃ before r base struck, NotedLast c.history older.key row before r base struck ∧
          ((∀ last, row.lastEnvelope = some last → last < r.envelope) ↔
            ∀ id ∈ appliedTo older.key before, id < r.envelope) ∧
          (struck = false → ∀ last, base.lastEnvelope? older.key = some last →
            last < r.envelope) := by
  intro newer older moves
  let reason := "Payload deserialization error: invalid type: null, expected struct HostHeartbeat"
  let row : Subscription :=
    ⟨older.source, older.eventType, some newer.id, ⟨0, 1⟩, .failure reason⟩
  obtain ⟨r, hr, hrow⟩ : ∃ r, Registry.standard = .ok r ∧
      (Crew.play ⟨r, .single⟩ (.fresh (.new ⟨0, 0⟩ 1 .none)) moves).committed.ledger.get?
        older.key = some row := ⟨_, rfl, by decide +kernel⟩
  exact ⟨r, hr, row, reason, hrow, rfl, rfl,
    failure_newer_iff ⟨r, .single⟩ hr _ moves older.key row reason hrow rfl⟩

/-- An envelope that has been applied and is dispatched again turns the row of its pair into a
failure when the store does not open a transaction for it. -/
theorem failure_of_stale_envelope :
    let e : Envelope := ⟨⟨1⟩, ⟨"agent"⟩, .hostHeartbeat, .ofMembers [], ⟨0, 0⟩⟩
    let faults : FaultPlan :=
      .ofQueues [(.begin, [none, some (.error (.projection "down"))])] []
    let moves : List Move := .take (.worker 0) e :: List.replicate 11 (.call (.worker 0)) ++
      [.finish (.worker 0), .take (.worker 0) e] ++ List.replicate 4 (.call (.worker 0))
    ∃ r, Registry.standard = .ok r ∧
      let c := Crew.play ⟨r, .single⟩ (.fresh (.new ⟨0, 0⟩ 1 faults)) moves
      ∃ row before note base struck, c.committed.ledger.get? e.key = some row ∧
        row.outcome = .failure "Projection error: down" ∧
        NotedLast c.history e.key row before note base struck ∧
        note.envelope = e.id ∧ row.lastEnvelope = some e.id := by
  intro e faults moves
  let outcome : Outcome := .failure "Projection error: down"
  let row : Subscription := ⟨e.source, e.eventType, some e.id, ⟨0, 1⟩, outcome⟩
  let first : Subscription := ⟨e.source, e.eventType, some e.id, ⟨0, 0⟩, .success⟩
  let base : ReadModels := { ReadModels.empty with ledger := Table.empty.insert e.key first }
  refine ⟨_, rfl, row, [.commit e.key e.id], .ofEnvelope e outcome ⟨0, 1⟩, base, true, ?_, rfl,
    ⟨⟨[], ?_, fun _ hd => absurd hd List.not_mem_nil⟩, rfl, rfl⟩, rfl, rfl⟩
  · decide +kernel
  · decide +kernel

end AgentFacts
