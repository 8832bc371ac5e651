import AgentFacts.Database.Service
import AgentFacts.Proofs.Accord
import AgentFacts.Proofs.Exchanges

namespace AgentFacts

/-- What has been said so far. -/
structure Conversation where
  isOpen : Bool
  said : List Exchange

namespace Conversation

def fresh : Conversation := ⟨false, []⟩

/-- A call has been answered by a value or an error, never by a panic, and `P` tells of what has
been said meanwhile. -/
def GoesOn (v : Conversation) (isOpen : Except ProjectionError α → Bool)
    (P : List Exchange → Except ProjectionError α → Prop)
    (reply : Except (Halt ProjectionError) α) (v' : Conversation) : Prop :=
  ∃ log result, P log result ∧ reply = result.mapError .error ∧
    v' = ⟨isOpen result, v.said ++ log⟩

/-- The replies to a call, and how the conversation goes on with each. -/
def Reacts (v : Conversation) : (c : Call) → c.Reply → Conversation → Prop
  | .begin => v.GoesOn Except.isOk Began
  | .find source eventType => v.GoesOn (fun _ => true) (Found ⟨source, eventType⟩)
  | .write w => v.GoesOn (fun _ => true) (Changed w.statements)
  | .recordIn r => v.GoesOn (fun _ => true) (Recorded r)
  | .commit => v.GoesOn (fun _ => false) (Ended .commit)
  | .rollback => v.GoesOn (fun _ => false) (Ended .rollback)
  | .record r => v.GoesOn (fun _ => false) fun log result =>
      log = [] ∧ (∃ error, result = .error error) ∨ Recorded r log result
  | _ => fun _ v' => v' = v

/-- Whether a call is in its place. -/
def Permits (v : Conversation) : Call → Prop
  | .begin | .record _ | .drop => v.isOpen = false
  | .find _ _ | .write _ | .recordIn _ | .commit | .rollback => v.isOpen = true
  | .sleep _ | .now | .log _ | .count _ => True
  | _ => False

/-- A conversation is what has been said from one state of the session to another. -/
structure Follows (s₀ : Session) (v : Conversation) (s : Session) : Prop where
  heard : s₀.Heard v.said (s.mark false)
  isOpen : s.inTransaction = v.isOpen

variable {s₀ : Session} {v : Conversation} {d : DatabaseService}

theorem follows_fresh {s : Session} (h : s.inTransaction = false) : Follows s fresh s := by
  have hmark : s.mark false = s := by
    rw [← h]
    rfl
  refine ⟨?_, h⟩
  rw [hmark]
  exact .nil s

/-- A step of the session answers a call. -/
theorem Follows.step {isOpen : Except ProjectionError α → Bool}
    {P : List Exchange → Except ProjectionError α → Prop} {log : List Exchange}
    {step : Session.ModelStep α} (h : Follows s₀ v d.session)
    (hheard : (d.session.mark false).Heard log ((step.run d.session).2.mark false))
    (hp : P log (step.run d.session).1)
    (hopen : (step.run d.session).2.inTransaction = isOpen (step.run d.session).1) :
    ∃ reply d' v', some (d.step step) = some (reply, d') ∧ v.GoesOn isOpen P reply v' ∧
      Follows s₀ v' d'.session :=
  ⟨_, _, _, rfl, ⟨log, _, hp, rfl, rfl⟩, h.heard.append hheard, hopen⟩

theorem Follows.says {P : List Exchange → Except ProjectionError α → Prop}
    {step step' : Session.ModelStep α} (h : Follows s₀ v d.session) (hs : Session.Says P step)
    (hrun : step'.run d.session = step.run d.session) :
    ∃ reply d' v', some (d.step step') = some (reply, d') ∧
      v.GoesOn (fun _ => v.isOpen) P reply v' ∧ Follows s₀ v' d'.session := by
  obtain ⟨log, hl, hp⟩ := hs d.session
  rw [← hrun] at hl hp
  exact h.step (hl.mark false) hp (hl.inTransaction.trans h.isOpen)

theorem Follows.ends {statement : Statement} {control : Session.Step DatabaseError Unit}
    {step : Session.ModelStep Unit} (h : Follows s₀ v d.session) (hopen : v.isOpen = true)
    (hc : Session.Sends statement control)
    (hs : step = Session.within do
      Session.leave
      Session.withError .database (Session.endBy control)) :
    ∃ reply d' v', some (d.step step) = some (reply, d') ∧
      v.GoesOn (fun _ => false) (Ended statement) reply v' ∧ Follows s₀ v' d'.session := by
  obtain ⟨log, hl, he⟩ := Session.heard_end hc (h.isOpen.trans hopen) hs
  exact h.step (hl.mark false) he hl.inTransaction

/-- A call in its place is answered, and the conversation goes on. -/
theorem Follows.answer (h : Follows s₀ v d.session) {c : Call} (hp : v.Permits c) :
    ∃ reply d' v', d.answer c = some (reply, d') ∧ v.Reacts c reply v' ∧
      Follows s₀ v' d'.session := by
  have hopen := h.isOpen
  cases c with
  | begin =>
    obtain ⟨log, hl, hb, hi⟩ := Session.heard_begin (hopen.trans hp)
    exact h.step (hl.mark false) hb hi
  | find source eventType =>
    have hw := h.says (Session.says_find ⟨source, eventType⟩)
      (Session.run_within (hopen.trans hp) _)
    rw [show v.isOpen = true from hp] at hw
    exact hw
  | write w =>
    have hw := h.says (Session.says_inRange w) (Session.run_write (hopen.trans hp) w)
    rw [show v.isOpen = true from hp] at hw
    exact hw
  | recordIn r =>
    have hw := h.says (Session.says_upsertOutcome r) (Session.run_within (hopen.trans hp) _)
    rw [show v.isOpen = true from hp] at hw
    exact hw
  | commit => exact h.ends hp Session.sends_commit rfl
  | rollback => exact h.ends hp Session.sends_rollback rfl
  | drop =>
    refine ⟨(), d, v, ?_, rfl, h⟩
    change some ((), { d with session := (Session.drop.rollbackOnce.run d.session).2 }) = _
    rw [Session.run_rollbackOnce (hopen.trans hp)]
    rfl
  | record r =>
    have hw := h.says (Session.says_record r) rfl
    rw [show v.isOpen = false from hp] at hw
    exact hw
  | sleep span => exact ⟨_, _, v, rfl, rfl, h⟩
  | now => exact ⟨_, _, v, rfl, rfl, h⟩
  | log event => exact ⟨_, _, v, rfl, rfl, h⟩
  | count counter => exact ⟨_, _, v, rfl, rfl, h⟩
  | _ => cases hp

/-- A program whose calls are all in their places comes to an end, as the conversation has it. -/
theorem Follows.run {p : Program α} {Q : Conversation → α → Prop} (h : Follows s₀ v d.session)
    (hp : p.Keeps Permits Reacts Q v) :
    ∃ a d' v', d.run p = (some a, d') ∧ Q v' a ∧ Follows s₀ v' d'.session := by
  induction p generalizing v d with
  | done a => exact ⟨a, d, v, rfl, hp, h⟩
  | call c next ih =>
    obtain ⟨reply, d', v', ha, hr, hf⟩ := h.answer hp.1
    obtain ⟨a, d'', v'', hrun, hq, hf'⟩ := ih reply hf (hp.2 reply v' hr)
    refine ⟨a, d'', v'', ?_, hq, hf'⟩
    rw [DatabaseService.run, ha]
    exact hrun

end Conversation

namespace Projection

/-- A projection makes its calls in their places and does not panic; `Q` tells of what has been said
in the end. -/
def Speaks (Q : Conversation → Except ProjectionError α → Prop) (p : Projection α)
    (v : Conversation) : Prop :=
  p.run.Keeps Conversation.Permits Conversation.Reacts
    (fun v' ended => ∃ result, ended = result.mapError .error ∧ Q v' result) v

/-- What is to be shown of a projection once an earlier one has come to its end. -/
def Continues (Q : Conversation → Except ProjectionError β → Prop) (f : α → Projection β)
    (v : Conversation) : Except ProjectionError α → Prop
  | .ok a => (f a).Speaks Q v
  | .error error => Q v (.error error)

variable {v : Conversation} {Q : Conversation → Except ProjectionError α → Prop} {p : Projection α}

theorem Speaks.mono {Q' : Conversation → Except ProjectionError α → Prop} (h : p.Speaks Q v)
    (hq : ∀ v result, Q v result → Q' v result) : p.Speaks Q' v := by
  apply Program.Keeps.mono h
  intro v' ended hended
  obtain ⟨result, rfl, hr⟩ := hended
  exact ⟨result, rfl, hq v' result hr⟩

theorem speaks_pure {a : α} (h : Q v (.ok a)) : (pure a : Projection α).Speaks Q v :=
  ⟨.ok a, rfl, h⟩

theorem speaks_fail {error : ProjectionError} (h : Q v (.error error)) :
    (fail error : Projection α).Speaks Q v :=
  ⟨.error error, rfl, h⟩

theorem speaks_mk {result : Except ProjectionError α} (h : Q v result) :
    Speaks Q (.mk (pure (result.mapError .error))) v :=
  ⟨result, rfl, h⟩

theorem speaks_bind {f : α → Projection β} {Q : Conversation → Except ProjectionError β → Prop}
    (h : p.Speaks (Continues Q f) v) : (p >>= f).Speaks Q v := by
  unfold Speaks
  rw [ExceptT.run_bind, Program.keeps_bind]
  apply Program.Keeps.mono h
  intro v' ended hended
  obtain ⟨result, rfl, hr⟩ := hended
  cases result with
  | ok a => exact hr
  | error error => exact ⟨.error error, rfl, hr⟩

theorem speaks_settle
    {Q : Conversation → Except ProjectionError (Except (Halt ProjectionError) α) → Prop}
    (h : p.Speaks (fun v result => Q v (.ok (result.mapError .error))) v) :
    p.settle.Speaks Q v := by
  unfold Speaks settle
  change (Except.ok <$> p.run).Keeps _ _ _ v
  rw [map_eq_pure_bind, Program.keeps_bind]
  apply Program.Keeps.mono h
  intro v' ended hended
  obtain ⟨result, rfl, hr⟩ := hended
  exact ⟨.ok _, rfl, hr⟩

/-- A call after which the conversation is as it was. -/
theorem speaks_quiet {c : Call} {Q : Conversation → Except ProjectionError c.Reply → Prop}
    (hp : v.Permits c) (hr : ∀ reply v', v.Reacts c reply v' → v' = v)
    (h : ∀ reply, Q v (.ok reply)) : (liftM (Program.ask c) : Projection c.Reply).Speaks Q v := by
  refine ⟨hp, fun reply v' hv => ?_⟩
  rw [hr reply v' hv]
  exact ⟨.ok reply, rfl, h reply⟩

theorem speaks_now {Q : Conversation → Except ProjectionError Instant → Prop}
    (h : ∀ time, Q v (.ok time)) : (liftM Program.now : Projection Instant).Speaks Q v :=
  speaks_quiet (c := .now) trivial (fun _ _ hv => hv) h

theorem speaks_log {level : LogLevel} {message : String} {fields : List (String × Json)}
    {Q : Conversation → Except ProjectionError Unit → Prop} (h : Q v (.ok ())) :
    (liftM (Program.log level message fields) : Projection Unit).Speaks Q v :=
  speaks_quiet (c := .log _) trivial (fun _ _ hv => hv) fun _ => h

theorem speaks_count {counter : Counter} {Q : Conversation → Except ProjectionError Unit → Prop}
    (h : Q v (.ok ())) : (liftM (Program.count counter) : Projection Unit).Speaks Q v :=
  speaks_quiet (c := .count _) trivial (fun _ _ hv => hv) fun _ => h

theorem speaks_drop (hv : v.isOpen = false)
    {Q : Conversation → Except ProjectionError Unit → Prop} (h : Q v (.ok ())) :
    (liftM Program.drop : Projection Unit).Speaks Q v :=
  speaks_quiet (c := .drop) hv (fun _ _ hv => hv) fun _ => h

theorem ends_of_goesOn {isOpen : Except ProjectionError α → Bool}
    {P : List Exchange → Except ProjectionError α → Prop}
    {reply : Except (Halt ProjectionError) α} {v' : Conversation} (h : v.GoesOn isOpen P reply v')
    (hq : ∀ log result, P log result → Q ⟨isOpen result, v.said ++ log⟩ result) :
    ∃ result, reply = result.mapError .error ∧ Q v' result := by
  obtain ⟨log, result, hp, rfl, rfl⟩ := h
  exact ⟨result, rfl, hq log result hp⟩

theorem speaks_begin {Q : Conversation → Except ProjectionError Unit → Prop}
    (hv : v.isOpen = false)
    (h : ∀ log result, Began log result → Q ⟨result.isOk, v.said ++ log⟩ result) :
    begin.Speaks Q v :=
  ⟨hv, fun _ _ hr => ends_of_goesOn hr h⟩

theorem speaks_find {source : AgentId} {eventType : EventType}
    {Q : Conversation → Except ProjectionError (Option Subscription) → Prop}
    (hv : v.isOpen = true)
    (h : ∀ log result, Found ⟨source, eventType⟩ log result → Q ⟨true, v.said ++ log⟩ result) :
    (find source eventType).Speaks Q v :=
  ⟨hv, fun _ _ hr => ends_of_goesOn hr h⟩

theorem speaks_write {w : Write} {Q : Conversation → Except ProjectionError Bool → Prop}
    (hv : v.isOpen = true)
    (h : ∀ log result, Changed w.statements log result → Q ⟨true, v.said ++ log⟩ result) :
    (write w).Speaks Q v :=
  ⟨hv, fun _ _ hr => ends_of_goesOn hr h⟩

theorem speaks_recordIn {r : OutcomeRecord}
    {Q : Conversation → Except ProjectionError Subscription → Prop} (hv : v.isOpen = true)
    (h : ∀ log result, Recorded r log result → Q ⟨true, v.said ++ log⟩ result) :
    (recordIn r).Speaks Q v :=
  ⟨hv, fun _ _ hr => ends_of_goesOn hr h⟩

theorem speaks_commit {Q : Conversation → Except ProjectionError Unit → Prop}
    (hv : v.isOpen = true)
    (h : ∀ log result, Ended .commit log result → Q ⟨false, v.said ++ log⟩ result) :
    commit.Speaks Q v :=
  ⟨hv, fun _ _ hr => ends_of_goesOn hr h⟩

theorem speaks_rollback {Q : Conversation → Except ProjectionError Unit → Prop}
    (hv : v.isOpen = true)
    (h : ∀ log result, Ended .rollback log result → Q ⟨false, v.said ++ log⟩ result) :
    rollback.Speaks Q v :=
  ⟨hv, fun _ _ hr => ends_of_goesOn hr h⟩

theorem speaks_record {r : OutcomeRecord}
    {Q : Conversation → Except ProjectionError Subscription → Prop} (hv : v.isOpen = false)
    (h : ∀ log result, log = [] ∧ (∃ error, result = .error error) ∨ Recorded r log result →
      Q ⟨false, v.said ++ log⟩ result) :
    (record r).Speaks Q v :=
  ⟨hv, fun _ _ hr => ends_of_goesOn hr h⟩

end Projection

end AgentFacts
