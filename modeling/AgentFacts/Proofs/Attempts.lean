import AgentFacts.Dispatch
import AgentFacts.Proofs.Conversation
import AgentFacts.Proofs.Staleness

namespace AgentFacts

namespace Projector

def change (p : Projector) : Envelope → Except ProjectionError Write :=
  match p.name with
  | "clusters" => Envelope.clusterChange
  | "sap_system_instances" => Envelope.sapChange
  | "sles_subscriptions" => Envelope.slesChange
  | "checks_results" => Envelope.checksChange
  | _ => Envelope.hostChange

theorem project_eq {p : Projector} (hp : p ∈ all) (e : Envelope) :
    p.project e = (ofChange p.name p.eventTypes p.change).project e := by
  simp only [all, List.mem_cons, List.not_mem_nil, or_false] at hp
  rcases hp with rfl | rfl | rfl | rfl | rfl <;> rfl

end Projector

/-- What a projector says that is to make a change, and what it comes to. -/
inductive Worked (change : Except ProjectionError Write) :
    List Exchange → Except ProjectionError Unit → Prop where
  | done {w : Write} {log : List Exchange} (asks : change = .ok w)
      (sends : log.map Exchange.statement = w.statements) (succeeds : ∀ x ∈ log, ¬ x.Fails) :
      Worked change log (.ok ())
  | broken {log : List Exchange}
      (sends : ∀ x ∈ log, ∃ w, change = .ok w ∧ x.statement ∈ w.statements)
      (stops : log.Pairwise fun x _ => ¬ x.Fails) (error : ProjectionError) :
      Worked change log (.error error)

/-- The row of a pair does not keep an envelope from being applied. -/
def Envelope.IsDue (e : Envelope) (row : Option Subscription) : Prop :=
  row.any (·.isStale e.id) = false

/-- What is said between the begin of a transaction and its end, and what it comes to. -/
inductive Middle (e : Envelope) (change : Except ProjectionError Write) :
    List Exchange → Except ProjectionError Projected → Prop where
  | unopened {log : List Exchange} {error : ProjectionError}
      (found : Found e.key log (.error error)) : Middle e change log (.error error)
  | stale {log : List Exchange} {sub : Subscription} (opening : Opening e.key log (some sub))
      (stale : sub.isStale e.id = true) : Middle e change log (.ok .stale)
  | unworked {opening work : List Exchange} {row : Option Subscription} {error : ProjectionError}
      (opened : Opening e.key opening row) (due : e.IsDue row)
      (worked : Worked change work (.error error)) :
      Middle e change (opening ++ work) (.error error)
  | recorded {opening work note : List Exchange} {row : Option Subscription} {time : Instant}
      {result : Except ProjectionError Subscription} (opened : Opening e.key opening row)
      (due : e.IsDue row) (worked : Worked change work (.ok ()))
      (noted : Recorded (.ofEnvelope e .success time) note result) :
      Middle e change (opening ++ work ++ note) (result.map fun _ => Projected.applied)

/-- What an attempt says, and what it comes to. -/
inductive Attempt (e : Envelope) (change : Except ProjectionError Write) :
    List Exchange → Except ProjectionError Projected → Prop where
  | unbegun {log : List Exchange} {error : ProjectionError} (began : Began log (.error error)) :
      Attempt e change log (.error error)
  | committed {middle ending : List Exchange} (complete : Middle e change middle (.ok .applied))
      {ended : Except ProjectionError Unit} (ends : Ended .commit ending ended) :
      Attempt e change (⟨.begin, .done [] 0⟩ :: middle ++ ending)
        (ended.map fun _ => Projected.applied)
  | undone {middle ending : List Exchange} {result : Except ProjectionError Projected}
      (incomplete : Middle e change middle result) (unapplied : result ≠ .ok .applied)
      {ended : Except ProjectionError Unit} (ends : Ended .rollback ending ended)
      {result' : Except ProjectionError Projected} (unapplied' : result' ≠ .ok .applied) :
      Attempt e change (⟨.begin, .done [] 0⟩ :: middle ++ ending) result'

theorem Recorded.eq_singleton {r : OutcomeRecord} {log : List Exchange}
    {result : Except ProjectionError Subscription} (h : Recorded r log result) :
    ∃ reply, log = [⟨.record r, reply⟩] := by
  cases h with
  | done _ _ => exact ⟨_, rfl⟩
  | broken _ _ => exact ⟨_, rfl⟩

namespace Projector

open Projection

variable {v : Conversation} {e : Envelope} {p : Projector}

theorem speaks_tell {found : Bool} {w : Write}
    {Q : Conversation → Except ProjectionError Unit → Prop} (h : Q v (.ok ())) :
    (liftM (tell e found w) : Projection Unit).Speaks Q v := by
  unfold tell
  split
  · split
    · exact speaks_pure h
    · exact speaks_log h
  · exact speaks_log h
  · exact speaks_pure h

theorem speaks_project (hp : p ∈ all) (hv : v.isOpen = true) :
    (p.project e).Speaks
      (fun v' result => ∃ log, v' = ⟨true, v.said ++ log⟩ ∧ Worked (p.change e) log result) v := by
  rw [project_eq hp]
  unfold ofChange
  dsimp only
  cases hc : p.change e with
  | error error =>
    apply speaks_fail
    refine ⟨[], ?_, .broken (fun x hx => by cases hx) List.Pairwise.nil error⟩
    rw [List.append_nil, ← hv]
  | ok w =>
    refine speaks_bind (speaks_write hv fun log result hw => ?_)
    cases hw with
    | done hs hf value => exact speaks_tell ⟨log, rfl, .done rfl hs hf⟩
    | broken hs hf error =>
      refine ⟨log, rfl, .broken (fun x hx => ⟨w, rfl, ?_⟩) hf error⟩
      exact hs.subset (List.mem_map_of_mem hx)

end Projector

namespace Executor

open Projection

variable {v : Conversation} {e : Envelope} {p : Projector}

theorem speaks_runProjector (hp : p ∈ Projector.all) (hv : v.isOpen = true) :
    (runProjector p e).Speaks
      (fun v' result => ∃ log, v' = ⟨true, v.said ++ log⟩ ∧ Worked (p.change e) log result) v := by
  refine speaks_bind (speaks_settle ((p.speaks_project hp hv).mono fun v' result hw => ?_))
  cases result with
  | ok u => exact speaks_pure hw
  | error error => exact speaks_fail hw

theorem speaks_projectIn (hp : p ∈ Projector.all) (hv : v.isOpen = true) :
    (projectIn p e).Speaks
      (fun v' result => ∃ log, v' = ⟨true, v.said ++ log⟩ ∧ Middle e (p.change e) log result)
      v := by
  refine speaks_bind (speaks_find hv fun opening row hfound => ?_)
  cases row with
  | error error => exact ⟨opening, rfl, .unopened hfound⟩
  | ok row =>
    obtain ⟨hopening⟩ := hfound
    change Speaks _ (if _ then _ else _) _
    split
    next hs =>
      cases row with
      | none => cases hs
      | some sub => exact speaks_pure ⟨opening, rfl, .stale hopening hs⟩
    next hs =>
      have hdue : e.IsDue row := Bool.eq_false_iff.2 hs
      refine speaks_bind ((speaks_runProjector hp rfl).mono ?_)
      rintro v' worked ⟨work, rfl, hw⟩
      cases worked with
      | error error => 
        refine ⟨opening ++ work, ?_, .unworked hopening hdue hw⟩
        rw [List.append_assoc]
      | ok u =>
        refine speaks_bind (speaks_now fun time => ?_)
        refine speaks_bind (speaks_recordIn rfl fun note result hn => ?_)
        have hm := Middle.recorded hopening hdue hw hn
        cases result with
        | error error => 
          refine ⟨opening ++ work ++ note, ?_, hm⟩
          simp only [List.append_assoc]
        | ok sub =>
          apply speaks_pure
          refine ⟨opening ++ work ++ note, ?_, hm⟩
          simp only [List.append_assoc]

theorem speaks_conclude (hv : v.isOpen = true) {change : Except ProjectionError Write}
    {middle : List Exchange} {result : Except ProjectionError Projected}
    (hm : Middle e change middle result) :
    (conclude (result.mapError .error)).Speaks
      (fun v' result => ∃ ending, v' = ⟨false, v.said ++ ending⟩ ∧
        Attempt e change (⟨.begin, .done [] 0⟩ :: middle ++ ending) result) v := by
  match result with
  | .ok .applied =>
    refine speaks_bind (speaks_commit hv fun ending ended hend => ?_)
    have ha := Attempt.committed hm hend
    cases ended with
    | ok u => exact speaks_pure ⟨ending, rfl, ha⟩
    | error error => exact ⟨ending, rfl, ha⟩
  | .ok .stale =>
    have hstale : (.ok .stale : Except ProjectionError Projected) ≠ .ok .applied := nofun
    refine speaks_bind (speaks_rollback hv fun ending ended hend => ?_)
    cases ended with
    | ok u => exact speaks_pure ⟨ending, rfl, .undone hm hstale hend hstale⟩
    | error error => exact ⟨ending, rfl, .undone hm hstale hend nofun⟩
  | .error error =>
    have herror : (.error error : Except ProjectionError Projected) ≠ .ok .applied := nofun
    refine speaks_bind (speaks_settle (speaks_rollback hv fun ending ended hend => ?_))
    have ha := Attempt.undone hm herror hend herror
    cases ended with
    | ok u => exact speaks_fail ⟨ending, rfl, ha⟩
    | error second => exact speaks_bind (speaks_log (speaks_fail ⟨ending, rfl, ha⟩))

/-- An attempt leaves no transaction open. -/
theorem speaks_projectOnce (hp : p ∈ Projector.all) (hv : v.isOpen = false) :
    (projectOnce p e).Speaks
      (fun v' result => ∃ log, v' = ⟨false, v.said ++ log⟩ ∧ Attempt e (p.change e) log result)
      v := by
  refine speaks_bind (speaks_begin hv fun opening began hb => ?_)
  cases began with
  | error error => exact ⟨opening, rfl, .unbegun hb⟩
  | ok u =>
    cases hb
    refine speaks_bind (speaks_settle ((speaks_projectIn hp rfl).mono ?_))
    rintro v' result ⟨middle, rfl, hm⟩
    refine speaks_bind (speaks_settle ((speaks_conclude rfl hm).mono ?_))
    rintro v' ended ⟨ending, rfl, ha⟩
    refine speaks_bind (speaks_drop rfl (speaks_mk ⟨_, ?_, ha⟩))
    simp only [List.append_assoc, List.cons_append, List.nil_append]

theorem speaks_pause {policy : RetryPolicy} {number : Nat} {halt : Halt ProjectionError}
    {delay : Span} {Q : Conversation → Unit → Prop} (h : Q v ()) :
    (pause policy number halt delay).Keeps Conversation.Permits Conversation.Reacts Q v := by
  refine ⟨trivial, ?_⟩
  intro _ v' hv
  subst hv
  refine ⟨trivial, ?_⟩
  intro _ v' hv
  subst hv
  exact h

section Attempts

variable {x : Executor} {attempt : Nat → Projection α}
  {P : List Exchange → Except ProjectionError α → Prop}

/-- One attempt after another, what is said is what they say, and all but the last of them have
failed. -/
theorem speaks_retryFrom
    (ha : ∀ {v : Conversation} number, v.isOpen = false →
      (attempt number).Speaks
        (fun v' result => ∃ log, v' = ⟨false, v.said ++ log⟩ ∧ P log result) v)
    (left number : Nat) (hv : v.isOpen = false) :
    Projection.Speaks
      (fun v' result => ∃ failed last, v' = ⟨false, v.said ++ (List.flatten failed ++ last)⟩ ∧
        (∀ log ∈ failed, ∃ error, P log (.error error)) ∧ P last result)
      (.mk (x.retry.retryFrom isRetryable (pause x.retry) (fun number => (attempt number).run) left
        number)) v := by
  induction left generalizing number v with
  | zero =>
    apply (ha number hv).mono
    rintro v' result ⟨log, rfl, hp⟩
    exact ⟨[], log, rfl, nofun, hp⟩
  | succ left ih =>
    unfold Projection.Speaks RetryPolicy.retryFrom
    rw [ExceptT.run_mk, Program.keeps_bind]
    apply Program.Keeps.mono (ha number hv)
    rintro v' ended ⟨result, rfl, log, rfl, hp⟩
    cases result with
    | ok a => exact ⟨.ok a, rfl, [], log, rfl, nofun, hp⟩
    | error error =>
      change Program.Keeps _ _ _ (if _ then _ else _) _
      split
      · rw [Program.keeps_bind]
        apply speaks_pause
        apply (ih (number + 1) rfl).mono
        rintro v'' result ⟨failed, last, rfl, hf, hl⟩
        refine ⟨log :: failed, last, ?_, ?_, hl⟩
        · simp only [List.flatten_cons, List.append_assoc]
        · exact List.forall_mem_cons.2 ⟨⟨error, hp⟩, hf⟩
      · exact ⟨.error error, rfl, [], log, rfl, nofun, hp⟩

theorem speaks_retrying
    (ha : ∀ {v : Conversation} number, v.isOpen = false →
      (attempt number).Speaks
        (fun v' result => ∃ log, v' = ⟨false, v.said ++ log⟩ ∧ P log result) v)
    (hv : v.isOpen = false) :
    (x.retrying attempt).Speaks
      (fun v' result => ∃ failed last, v' = ⟨false, v.said ++ (List.flatten failed ++ last)⟩ ∧
        (∀ log ∈ failed, ∃ error, P log (.error error)) ∧ P last result) v :=
  speaks_retryFrom ha _ 1 hv

end Attempts

end Executor

/-- A failure of an envelope is to be noted in the ledger, where it leaves the newest envelope that
has been applied as it is. -/
def Exchange.NotesFailure (e : Envelope) (x : Exchange) : Prop :=
  ∃ reason time, x.statement = .record (.ofEnvelope e (.failure reason) time) ∧
    x.statement.params = [.text e.source.text, .text e.eventType.text, .null, .ofInstant time,
      .text "failure", .text reason]

namespace Executor

open Projection

variable {v : Conversation} {e : Envelope} {p : Projector} {x : Executor}

/-- Whatever comes of the note of a failure, the dispatch goes on. -/
theorem speaks_recordFailure (reason : String) (hv : v.isOpen = false) :
    (x.recordFailure e reason).Speaks
      (fun v' result => result = .ok () ∧ ∃ notes, v' = ⟨false, v.said ++ notes⟩ ∧
        ∀ y ∈ notes, y.NotesFailure e) v := by
  unfold recordFailure
  refine speaks_bind (speaks_settle ((speaks_retrying
    (P := fun log _ => ∀ y ∈ log, y.NotesFailure e) (fun number hv' => ?_) hv).mono ?_))
  · refine speaks_bind (speaks_now fun time => speaks_record hv' fun log result hl => ?_)
    refine ⟨log, rfl, fun y hy => ?_⟩
    rcases hl with ⟨rfl, -⟩ | hr
    · cases hy
    · obtain ⟨reply, rfl⟩ := hr.eq_singleton
      obtain rfl := List.mem_singleton.1 hy
      exact ⟨reason, time, rfl, rfl⟩
  · rintro v' result ⟨failed, last, rfl, hf, hl⟩
    have hnotes : ∀ y ∈ failed.flatten ++ last, y.NotesFailure e := by
      intro y hy
      rcases List.mem_append.1 hy with hy | hy
      · obtain ⟨log, hlog, hy⟩ := List.mem_flatten.1 hy
        obtain ⟨_, h⟩ := hf log hlog
        exact h y hy
      · exact hl y hy
    cases result with
    | ok sub => exact speaks_pure ⟨rfl, _, rfl, hnotes⟩
    | error error =>
      exact speaks_bind (speaks_count (speaks_log ⟨rfl, _, rfl, hnotes⟩))

end Executor

end AgentFacts
