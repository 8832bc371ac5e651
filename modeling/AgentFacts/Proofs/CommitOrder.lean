import AgentFacts.Proofs.CrewSafety
import AgentFacts.Proofs.StandardDispatch

namespace AgentFacts

def Deed.appliedTo? (key : LedgerKey) : Deed → Option EnvelopeId
  | .commit other id => if other = key then some id else none
  | .note .. => none

/-- The envelopes of a pair whose projections were committed, in the order of the commits. -/
def appliedTo (key : LedgerKey) (history : List Deed) : List EnvelopeId :=
  history.filterMap (Deed.appliedTo? key)

/-- An envelope that was due has taken the place of the last one of its pair. -/
structure Advances (e : Envelope) (m m' : ReadModels) : Prop where
  due : ¬ m.Stale e
  self : m'.lastEnvelope? e.key = some e.id
  others : ∀ key, key ≠ e.key → m'.lastEnvelope? key = m.lastEnvelope? key

/-- The terms let workers move the ledger only by commits, and only forwards. -/
structure Charter.Orderly (K : Charter) : Prop where
  commits : ∀ {e m m'}, K.commits e m m' → Advances e m m'
  notes : ∀ {e σ r}, K.notes e σ r → r.outcome.isSuccess = false

/-- The envelopes of each pair have been applied in order, and the ledger names the last one. -/
def Crew.InOrder (c : Crew) : Prop :=
  ∀ key, (appliedTo key c.history).Pairwise (· < ·) ∧
    c.committed.lastEnvelope? key = (appliedTo key c.history).getLast?

theorem advances_of_makes {e : Envelope} {m m' : ReadModels} (time : Instant)
    (hs : ¬ m.Stale e) (hm : m'.lastEnvelope? = m.lastEnvelope?) :
    Advances e m (m'.record (.ofEnvelope e .success time)) where
  due := hs
  self := by
    refine ReadModels.lastEnvelope?_record_success ?_
    unfold ReadModels.Stale at hs ⊢
    rw [hm]
    exact hs
  others key hne := by
    have hne' : key ≠ (OutcomeRecord.ofEnvelope e .success time).key := hne
    rw [ReadModels.lastEnvelope?_record_ne hne', hm]

theorem appliedTo_append (key : LedgerKey) (history : List Deed) (deed : Deed) :
    appliedTo key (history ++ [deed]) =
      appliedTo key history ++ (deed.appliedTo? key).toList := by
  unfold appliedTo
  rw [List.filterMap_append]
  congr 1

theorem appliedTo_note (key : LedgerKey) (history : List Deed) (r : OutcomeRecord)
    (base : ReadModels) (struck : Bool) :
    appliedTo key (history ++ [.note r base struck]) = appliedTo key history :=
  (appliedTo_append ..).trans (List.append_nil _)

theorem pairwise_append_of_last {ids : List EnvelopeId} {id : EnvelopeId}
    (h : ids.Pairwise (· < ·)) (hl : ∀ last, ids.getLast? = some last → last < id) :
    (ids ++ [id]).Pairwise (· < ·) := by
  refine List.pairwise_append.2 ⟨h, List.pairwise_singleton _ _, fun earlier hm other ho => ?_⟩
  rw [List.mem_singleton.1 ho]
  cases hlast : ids.getLast? with
  | none =>
    rw [List.getLast?_eq_none_iff.1 hlast] at hm
    cases hm
  | some last =>
    have hle := le_of_getLast? h hlast hm
    have hlt := hl last hlast
    simp only [EnvelopeId.le_iff, EnvelopeId.lt_iff] at *
    omega

namespace Crew

variable {K : Charter} {c c' : Crew}

theorem inOrder_fresh (w : World) : InOrder (fresh w) := fun _ => ⟨.nil, rfl⟩

theorem InOrder.commit (h : c.InOrder) {e : Envelope} (ha : Advances e c.committed c'.committed)
    (hh : c'.history = c.history ++ [.commit e.key e.id]) : c'.InOrder := by
  intro key
  obtain ⟨hp, hl⟩ := h key
  rw [hh, appliedTo_append]
  dsimp only [Deed.appliedTo?]
  by_cases hk : e.key = key
  · subst hk
    rw [if_pos rfl, Option.toList_some, List.getLast?_concat]
    refine ⟨pairwise_append_of_last hp fun last hlast => ?_, ha.self⟩
    rw [← hl] at hlast
    exact ReadModels.lt_of_not_stale ha.due hlast
  · rw [if_neg hk, Option.toList_none, List.append_nil, ha.others key (Ne.symm hk)]
    exact ⟨hp, hl⟩

theorem InOrder.note (h : c.InOrder) {r : OutcomeRecord} {base : ReadModels} {struck : Bool}
    (hr : r.outcome.isSuccess = false) (hc : c'.committed = c.committed.record r)
    (hh : c'.history = c.history ++ [.note r base struck]) : c'.InOrder := by
  intro key
  rw [hh, hc, appliedTo_note, ReadModels.lastEnvelope?_record_failure hr]
  exact h key

theorem InOrder.did (hK : K.Orderly) (h : c.InOrder) (hd : Did K c c') : c'.InOrder := by
  cases hd with
  | nothing hc hh =>
    intro key
    rw [hc, hh]
    exact h key
  | commit _ hc hh => exact h.commit (hK.commits hc) hh
  | note _ _ _ hn hc hh => exact h.note (hK.notes hn) hc hh

end Crew

/-- Every call that a program can come to make is one of some. -/
def Program.Uses (p : Call → Bool) : Program α → Prop
  | .done _ => True
  | .call c next => p c = true ∧ ∀ reply, (next reply).Uses p

/-- The calls that neither end a transaction nor write the ledger. -/
def Call.keepsTransaction : Call → Bool
  | .commit | .rollback | .drop | .recordIn _ | .record _ => false
  | _ => true

/-- A projector leaves the transaction open and the ledger alone. -/
def Projector.KeepsTransaction (p : Projector) : Prop :=
  ∀ e, (p.project e).run.Uses Call.keepsTransaction

/-- What a projector that keeps its transaction may do: anything but to the ledger. -/
def Effect.apartFromLedger : Effect where
  makes m m' := m'.lastEnvelope? = m.lastEnvelope?
  fails _ := True

namespace Charter

def ordered : Charter where
  faulty := True
  drift _ _ := True
  drift_refl _ := trivial
  drift_trans _ _ := trivial
  commits := Advances
  notes _ _ r := r.outcome.isSuccess = false
  admits _ _ := True
  admits_allowed _ := trivial
  ends _ _ := True
  commits_drift _ := trivial
  notes_drift _ _ := trivial

theorem ordered_orderly : ordered.Orderly := ⟨fun h => h, fun h => h⟩

end Charter

/-- A transaction is open, and what its copy says of the ledger is what it said at first. -/
structure Standing.Undisturbed (A : Accord) (base : ReadModels) (lost : Nat)
    (seen copy : ReadModels) (σ : Standing) : Prop where
  opened : σ.Open A base lost
  seen : σ.seen = seen
  copy : ∃ copy', σ.copy = some copy' ∧ copy'.lastEnvelope? = copy.lastEnvelope?

namespace Standing.Undisturbed

variable {A : Accord} {base seen copy : ReadModels} {lost : Nat} {σ σ' : Standing}

theorem hit (h : σ.Undisturbed A base lost seen copy) : σ.hit.Undisturbed A base lost seen copy :=
  ⟨h.opened.hit, h.seen, h.copy⟩

theorem withCopy (h : σ.Undisturbed A base lost seen copy) {m : ReadModels}
    (hm : m.lastEnvelope? = copy.lastEnvelope?) :
    (σ.withCopy m).Undisturbed A base lost seen copy :=
  ⟨h.opened.withCopy m, h.seen, m, rfl, hm⟩

theorem within (h : σ.Undisturbed A base lost seen copy) {f : ReadModels → α × ReadModels}
    {reply : Except (Halt ProjectionError) α}
    (hr : A.within σ (fun m => ((f m).1, σ.withCopy (f m).2)) reply σ')
    (hf : ∀ m, (f m).2.lastEnvelope? = m.lastEnvelope?) :
    σ'.Undisturbed A base lost seen copy := by
  refine Accord.within_elim (P := fun _ σ' => σ'.Undisturbed A base lost seen copy) hr
    (fun m hm => ?_) (fun _ _ => h.hit) fun _ _ => h
  obtain ⟨copy', hc, hl⟩ := h.copy
  rw [hc] at hm
  obtain rfl := Option.some.inj hm
  exact h.withCopy ((hf _).trans hl)

theorem countLost (h : σ.Undisturbed A base lost seen copy) (c : Counter) :
    σ.countLost c = σ := by
  obtain ⟨copy', hc, -⟩ := h.copy
  refine if_neg fun hn => ?_
  rw [hc] at hn
  cases hn.1

theorem reacts (h : σ.Undisturbed A base lost seen copy) {c : Call} {reply : c.Reply}
    (hc : c.keepsTransaction = true) (hr : A.Reacts σ c reply σ') :
    σ'.Undisturbed A base lost seen copy := by
  cases c with
  | begin =>
    cases reply with
    | ok u =>
      obtain ⟨copy', hc', -⟩ := h.copy
      obtain ⟨hn, -⟩ := hr
      rw [hc'] at hn
      cases hn
    | error halt =>
      obtain ⟨-, rfl⟩ := hr
      exact h.hit
  | find source eventType =>
    exact h.within (f := fun m => (m.subscription? source eventType, m)) hr fun _ => rfl
  | write w =>
    exact h.within (f := fun m => (m.finds w, m.write w)) hr fun m =>
      ReadModels.lastEnvelope?_write m w
  | count c =>
    cases hr
    rw [h.countLost]
    exact h
  | recordIn r => cases hc
  | commit => cases hc
  | rollback => cases hc
  | drop => cases hc
  | record r => cases hc
  | _ =>
    cases hr
    exact h

theorem meets {p : Program α} (ha : ∀ σ c, A.admits σ c) (hp : p.Uses Call.keepsTransaction)
    (h : σ.Undisturbed A base lost seen copy) :
    p.Meets A (fun σ' _ => σ'.Undisturbed A base lost seen copy) σ := by
  induction p generalizing σ with
  | done a => exact h
  | call c next ih =>
    obtain ⟨hc, hn⟩ := hp
    refine ⟨⟨ha σ c, ?_⟩, fun reply σ' hr => ih reply (hn reply) (h.reacts hc hr)⟩
    cases c with
    | commit => cases hc
    | record r => cases hc
    | _ => trivial

end Standing.Undisturbed

/-- A projector that keeps its transaction does nothing to what the ledger says. -/
theorem Projector.KeepsTransaction.does {p : Projector} (hp : p.KeepsTransaction) {A : Accord}
    (ha : ∀ σ c, A.admits σ c) (e : Envelope) : p.Does A .apartFromLedger e := by
  intro base lost σ copy ho hc
  have h : σ.Undisturbed A base lost σ.seen copy := ⟨ho, rfl, copy, hc, rfl⟩
  refine Program.Meets.mono (h.meets ha (hp e)) fun σ' result h' => ?_
  cases result with
  | ok u => exact ⟨h'.opened, h'.seen, h'.copy⟩
  | error halt => exact ⟨h'.opened, h'.seen, .inr trivial⟩

namespace Charter

theorem ordered_upheld {x : Executor}
    (hx : ∀ {t p}, x.registry.find? t = some p → p.KeepsTransaction) (e : Envelope) :
    ordered.Upheld x e .apartFromLedger where
  serves.does hp := (hx hp).does (fun _ _ => trivial) e
  serves.commits time hs hm := advances_of_makes time hs hm
  serves.notes _ _ _ := rfl
  ends _ := trivial

end Charter

theorem Projector.keepsTransaction_ofChange (name : String) (eventTypes : List EventType)
    (change : Envelope → Except ProjectionError Write) :
    (ofChange name eventTypes change).KeepsTransaction := by
  intro e
  unfold ofChange
  dsimp only
  cases change e with
  | error error => trivial
  | ok w =>
    refine ⟨rfl, fun reply => ?_⟩
    cases reply with
    | error halt => trivial
    | ok found =>
      cases w with
      | recordHeartbeat agent time =>
        cases found with
        | true => trivial
        | false => exact ⟨rfl, fun _ => trivial⟩
      | deleteHost agent => exact ⟨rfl, fun _ => trivial⟩
      | _ => trivial

/-- The projectors of the standard registry leave the transaction open and the ledger alone. -/
theorem Registry.keepsTransaction_standard {r : Registry} (h : standard = .ok r) {t : EventType}
    {p : Projector} (hp : r.find? t = some p) : p.KeepsTransaction := by
  obtain ⟨hm, -⟩ := handler_standard h hp
  simp only [Projector.all, List.mem_cons, List.not_mem_nil, or_false] at hm
  rcases hm with rfl | rfl | rfl | rfl | rfl <;> exact Projector.keepsTransaction_ofChange _ _ _

/-- In every run, the envelopes of a pair that have been applied are in the order of their ids,
each at most once, and the ledger names the last one. -/
theorem applied_in_order (x : Executor)
    (hx : ∀ {t p}, x.registry.find? t = some p → p.KeepsTransaction) (w : World)
    (moves : List Move) (key : LedgerKey) :
    let c := Crew.play x (.fresh w) moves
    (appliedTo key c.history).Pairwise (· < ·) ∧
      c.committed.lastEnvelope? key = (appliedTo key c.history).getLast? :=
  (Crew.play_induction trivial (fun _ => Charter.ordered_upheld hx _) (Crew.inOrder_fresh w)
    fun _ h hd => h.did Charter.ordered_orderly hd).2 key

/-- Two workers with envelopes of one pair, of which the older one comes too late. -/
theorem applied_in_order_overtaken :
    let older : Envelope := ⟨⟨1⟩, ⟨"agent"⟩, .hostHeartbeat, .ofMembers [], ⟨0, 0⟩⟩
    let newer : Envelope := { older with id := ⟨2⟩ }
    let moves : List Move := [.take (.worker 0) newer, .take (.worker 1) older] ++
      List.replicate 12 (.call (.worker 0)) ++ List.replicate 12 (.call (.worker 1))
    ∃ r, (∀ {t p}, r.find? t = some p → p.KeepsTransaction) ∧
      let c := Crew.play ⟨r, .single⟩ (.fresh (.new ⟨0, 0⟩ 1 .none)) moves
      appliedTo older.key c.history = [⟨2⟩] ∧
        (appliedTo older.key c.history).Pairwise (· < ·) ∧
        c.committed.lastEnvelope? older.key = (appliedTo older.key c.history).getLast? := by
  intro older newer moves
  obtain ⟨r, hr, ha⟩ : ∃ r, Registry.standard = .ok r ∧
      appliedTo older.key
        (Crew.play ⟨r, .single⟩ (.fresh (.new ⟨0, 0⟩ 1 .none)) moves).history = [⟨2⟩] :=
    ⟨_, rfl, by decide +kernel⟩
  have hk : ∀ {t p}, r.find? t = some p → p.KeepsTransaction :=
    Registry.keepsTransaction_standard hr
  exact ⟨r, hk, ha, applied_in_order ⟨r, .single⟩ hk _ moves older.key⟩

end AgentFacts
