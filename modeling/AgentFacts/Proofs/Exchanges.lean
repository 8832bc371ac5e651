import AgentFacts.Database.ReadModels

namespace AgentFacts

/-- A statement that has been sent, with the server's answer. -/
structure Exchange where
  statement : Statement
  reply : Reply

/-- Nothing comes of an exchange: the server refuses the statement, gives a row of the ledger that
cannot be read, or gives none where there must be one. -/
inductive Exchange.Fails : Exchange → Prop where
  | refused (statement : Statement) (error : DatabaseError) : Fails ⟨statement, .refused error⟩
  | unreadableLock (key : LedgerKey) {row : Row} {error : ProjectionError}
      (unreadable : Subscription.ofRow row = .error error) (rows : List Row) (affected : Nat) :
      Fails ⟨.lockRow key, .done (row :: rows) affected⟩
  | unreadableRecord (r : OutcomeRecord) {row : Row} {error : ProjectionError}
      (unreadable : Subscription.ofRow row = .error error) (rows : List Row) (affected : Nat) :
      Fails ⟨.record r, .done (row :: rows) affected⟩
  | missing (r : OutcomeRecord) (affected : Nat) : Fails ⟨.record r, .done [] affected⟩

namespace Reply

/-- The answer to a statement that begins or ends a transaction, as the refusals have it. -/
def next : List DatabaseError → Reply
  | [] => .done [] 0
  | error :: _ => .refused error

def result : Reply → Except DatabaseError (List Row × Nat)
  | .done rows affected => .ok (rows, affected)
  | .refused error => .error error

end Reply

/-- The statements of a change. -/
def Write.statements : Write → List Statement
  | .upsertHost host => [.upsertHost host]
  | .deleteHost agent => [.deleteHost agent]
  | .recordHeartbeat agent time => [.recordHeartbeat agent time]
  | .upsertCluster cluster => [.upsertCluster cluster]
  | .replaceSapInstances agent instances =>
    .clearSapInstances agent :: instances.map (.addSapInstance agent)
  | .replaceSlesSubscriptions agent subscriptions =>
    .clearSlesSubscriptions agent :: subscriptions.map (.addSlesSubscription agent)
  | .upsertChecksResult result => [.upsertChecksResult result]

/-- A statement on the entities, as against one on the ledger or on the transaction. -/
def Statement.IsOnEntities : Statement → Prop
  | .upsertHost _ | .deleteHost _ | .recordHeartbeat _ _ | .upsertCluster _ => True
  | .clearSapInstances _ | .addSapInstance _ _ => True
  | .clearSlesSubscriptions _ | .addSlesSubscription _ _ => True
  | .upsertChecksResult _ => True
  | _ => False

theorem Write.onEntities {w : Write} {statement : Statement} (h : statement ∈ w.statements) :
    statement.IsOnEntities := by
  cases w with
  | replaceSapInstances agent instances =>
    rcases List.mem_cons.1 h with rfl | h
    · trivial
    · obtain ⟨item, _, rfl⟩ := List.mem_map.1 h
      trivial
  | replaceSlesSubscriptions agent subscriptions =>
    rcases List.mem_cons.1 h with rfl | h
    · trivial
    · obtain ⟨item, _, rfl⟩ := List.mem_map.1 h
      trivial
  | _ =>
    obtain rfl := List.mem_singleton.1 h
    trivial

theorem Statement.IsOnEntities.prepared {statement : Statement} (h : statement.IsOnEntities) :
    statement.isPrepared = true := by
  cases statement <;> first | rfl | cases h

/-- A statement on the entities that is not refused succeeds. -/
theorem Exchange.not_fails {statement : Statement} (h : statement.IsOnEntities) (rows : List Row)
    (affected : Nat) : ¬ Fails ⟨statement, .done rows affected⟩ := by
  intro hf
  cases hf <;> exact h

namespace Session

/-- What the server answers to a statement. -/
def answerTo (s : Session) : Statement → Reply
  | .begin => .next s.refusals.begin
  | .commit => .next s.refusals.commit
  | .rollback => .next s.refusals.rollback
  | _ => s.replies.headD (.done [] 0)

/-- The session when a statement has been answered. -/
def after (s : Session) : Statement → Session
  | .begin =>
    { s with refusals := { s.refusals with begin := s.refusals.begin.tail } }.note .begin
  | .commit =>
    { s with refusals := { s.refusals with commit := s.refusals.commit.tail } }.note .commit
  | .rollback =>
    { s with refusals := { s.refusals with rollback := s.refusals.rollback.tail } }.note .rollback
  | statement => { s with replies := s.replies.tail }.note statement

/-- Statements that are sent one after another, with the server's answers. -/
def exchanges (s : Session) : List Statement → List Exchange
  | [] => []
  | statement :: rest => ⟨statement, s.answerTo statement⟩ :: (s.after statement).exchanges rest

def afterAll (s : Session) (statements : List Statement) : Session :=
  statements.foldl after s

/-- Sets whether there is a transaction. -/
def mark (s : Session) (inTransaction : Bool) : Session :=
  { s with inTransaction }

variable {s s' s'' : Session}

@[simp]
theorem afterAll_append (s : Session) (a b : List Statement) :
    s.afterAll (a ++ b) = (s.afterAll a).afterAll b :=
  List.foldl_append

theorem exchanges_append (s : Session) (a b : List Statement) :
    s.exchanges (a ++ b) = s.exchanges a ++ (s.afterAll a).exchanges b := by
  induction a generalizing s with
  | nil => rfl
  | cons statement rest ih =>
    change _ :: (s.after statement).exchanges (rest ++ b) = _
    rw [ih]
    rfl

theorem answerTo_mark (s : Session) (b : Bool) (statement : Statement) :
    (s.mark b).answerTo statement = s.answerTo statement := by
  cases statement <;> rfl

theorem after_mark (s : Session) (b : Bool) (statement : Statement) :
    (s.mark b).after statement = (s.after statement).mark b := by
  cases statement <;> rfl

theorem afterAll_mark (s : Session) (b : Bool) (statements : List Statement) :
    (s.mark b).afterAll statements = (s.afterAll statements).mark b := by
  induction statements generalizing s with
  | nil => rfl
  | cons statement rest ih =>
    change ((s.mark b).after statement).afterAll rest = _
    rw [after_mark, ih]
    rfl

theorem exchanges_mark (s : Session) (b : Bool) (statements : List Statement) :
    (s.mark b).exchanges statements = s.exchanges statements := by
  induction statements generalizing s with
  | nil => rfl
  | cons statement rest ih =>
    unfold exchanges
    rw [answerTo_mark, after_mark, ih]

theorem sent_afterAll (s : Session) (statements : List Statement) :
    (s.afterAll statements).sent = statements.reverse ++ s.sent := by
  induction statements generalizing s with
  | nil => rfl
  | cons statement rest ih =>
    have hs : (s.after statement).sent = statement :: s.sent := by cases statement <;> rfl
    change ((s.after statement).afterAll rest).sent = _
    rw [ih, hs, List.reverse_cons, List.append_assoc]
    rfl

/-- What has been said between two times. -/
structure Heard (s : Session) (log : List Exchange) (s' : Session) : Prop where
  answers : s.exchanges (log.map Exchange.statement) = log
  leads : s' = s.afterAll (log.map Exchange.statement)

theorem Heard.nil (s : Session) : s.Heard [] s := ⟨rfl, rfl⟩

theorem Heard.single (s : Session) (statement : Statement) :
    s.Heard [⟨statement, s.answerTo statement⟩] (s.after statement) := ⟨rfl, rfl⟩

theorem Heard.append {log log' : List Exchange} (h : s.Heard log s') (h' : s'.Heard log' s'') :
    s.Heard (log ++ log') s'' := by
  obtain ⟨ha, rfl⟩ := h
  obtain ⟨ha', rfl⟩ := h'
  refine ⟨?_, ?_⟩
  · rw [List.map_append, exchanges_append, ha, ha']
  · rw [List.map_append, afterAll_append]

theorem Heard.mark {log : List Exchange} (h : s.Heard log s') (b : Bool) :
    (s.mark b).Heard log (s'.mark b) := by
  obtain ⟨ha, rfl⟩ := h
  refine ⟨?_, ?_⟩
  · rw [exchanges_mark, ha]
  · rw [afterAll_mark]

theorem answerTo_prepared {statement : Statement} (h : statement.isPrepared = true) :
    s.answerTo statement = s.replies.headD (.done [] 0) := by
  cases statement <;> first | rfl | cases h

theorem after_prepared {statement : Statement} (h : statement.isPrepared = true) :
    s.after statement = { s with replies := s.replies.tail }.note statement := by
  cases statement <;> first | rfl | cases h

theorem send_run {statement : Statement} (h : statement.isPrepared = true) :
    (send statement).run s = ((s.answerTo statement).result, s.after statement) := by
  rw [answerTo_prepared h, after_prepared h]
  obtain ⟨isOpen, connections, inTransaction, replies, refusals, sent⟩ := s
  cases replies with
  | nil => rfl
  | cons reply rest => cases reply <;> rfl

/-- In whichever state a step finds the session, what it says goes with its result. -/
def Says (P : List Exchange → Except ε α → Prop) (step : Step ε α) : Prop :=
  ∀ s : Session, ∃ log, s.Heard log (step.run s).2 ∧ P log (step.run s).1

variable {ε ε' α β : Type} {P : List Exchange → Except ε α → Prop} {step : Step ε α}

theorem Says.mono {P' : List Exchange → Except ε α → Prop} (h : Says P step)
    (hp : ∀ log result, P log result → P' log result) : Says P' step := by
  intro s
  obtain ⟨log, hl, hr⟩ := h s
  exact ⟨log, hl, hp _ _ hr⟩

theorem says_pure {a : α} (h : P [] (.ok a)) : Says P (pure a) :=
  fun s => ⟨[], .nil s, h⟩

theorem says_liftExcept {result : Except ε α} (h : P [] result) : Says P (liftExcept result) :=
  fun s => ⟨[], .nil s, h⟩

theorem run_step_bind (step : Step ε α) (f : α → Step ε β) (s : Session) :
    (step >>= f).run s = (ExceptT.bindCont f (step.run s).1) (step.run s).2 := rfl

/-- What is to be shown of a step once an earlier one has come to its end. -/
def Continues (Q : List Exchange → Except ε β → Prop) (f : α → Step ε β) (log : List Exchange) :
    Except ε α → Prop
  | .ok a => Says (fun log' => Q (log ++ log')) (f a)
  | .error error => Q log (.error error)

theorem says_bind {f : α → Step ε β} {Q : List Exchange → Except ε β → Prop}
    (h : Says (Continues Q f) step) : Says Q (step >>= f) := by
  intro s
  obtain ⟨log, hl, hr⟩ := h s
  rw [run_step_bind]
  cases ha : (step.run s).1 with
  | ok a =>
    rw [ha] at hr
    obtain ⟨log', hl', hr'⟩ := hr (step.run s).2
    exact ⟨log ++ log', hl.append hl', hr'⟩
  | error error =>
    rw [ha] at hr
    exact ⟨log, hl, hr⟩

theorem says_withError {wrap : ε → ε'} {P : List Exchange → Except ε' α → Prop}
    (h : Says (fun log result => P log (result.mapError wrap)) step) :
    Says P (withError wrap step) :=
  h

theorem says_send {statement : Statement}
    {P : List Exchange → Except DatabaseError (List Row × Nat) → Prop}
    (hp : statement.isPrepared = true) (h : ∀ reply, P [⟨statement, reply⟩] reply.result) :
    Says P (send statement) := by
  intro s
  rw [send_run hp]
  exact ⟨_, .single s statement, h _⟩

theorem says_rows {statement : Statement}
    {P : List Exchange → Except DatabaseError (List Row) → Prop}
    (hp : statement.isPrepared = true)
    (hdone : ∀ rows affected, P [⟨statement, .done rows affected⟩] (.ok rows))
    (hrefused : ∀ error, P [⟨statement, .refused error⟩] (.error error)) :
    Says P (rows statement) := by
  unfold rows
  rw [map_eq_pure_bind]
  refine says_bind (says_send hp fun reply => ?_)
  cases reply with
  | done rows affected => exact says_pure (hdone rows affected)
  | refused error => exact hrefused error

theorem says_row {statement : Statement} {P : List Exchange → Except DatabaseError Row → Prop}
    (hp : statement.isPrepared = true)
    (hdone : ∀ row rows affected, P [⟨statement, .done (row :: rows) affected⟩] (.ok row))
    (hmissing : ∀ affected, P [⟨statement, .done [] affected⟩] (.error .rowNotFound))
    (hrefused : ∀ error, P [⟨statement, .refused error⟩] (.error error)) :
    Says P (row statement) := by
  unfold row
  refine says_bind (says_rows hp (fun rows affected => ?_) hrefused)
  cases rows with
  | nil => exact says_liftExcept (hmissing affected)
  | cons row rows => exact says_pure (hdone row rows affected)

end Session

/-- How the row of a pair is claimed and locked, and what it tells. -/
inductive Opening (key : LedgerKey) : List Exchange → Option Subscription → Prop where
  | claimed (row : Row) (rows : List Row) (affected : Nat) :
      Opening key [⟨.claim key, .done (row :: rows) affected⟩] none
  | absent (affected affected' : Nat) :
      Opening key [⟨.claim key, .done [] affected⟩, ⟨.lockRow key, .done [] affected'⟩] none
  | locked (affected : Nat) {row : Row} {sub : Subscription}
      (readable : Subscription.ofRow row = .ok sub) (rows : List Row) (affected' : Nat) :
      Opening key
        [⟨.claim key, .done [] affected⟩, ⟨.lockRow key, .done (row :: rows) affected'⟩] (some sub)

/-- What comes of the claim to a pair. -/
inductive Found (key : LedgerKey) :
    List Exchange → Except ProjectionError (Option Subscription) → Prop where
  | opened {log : List Exchange} {row : Option Subscription} (opening : Opening key log row) :
      Found key log (.ok row)
  | unclaimed (refusal : DatabaseError) (error : ProjectionError) :
      Found key [⟨.claim key, .refused refusal⟩] (.error error)
  | unlocked (affected : Nat) {reply : Reply} (fails : Exchange.Fails ⟨.lockRow key, reply⟩)
      (error : ProjectionError) :
      Found key [⟨.claim key, .done [] affected⟩, ⟨.lockRow key, reply⟩] (.error error)

/-- What comes of statements that make a change. -/
inductive Changed (statements : List Statement) : List Exchange → Except ε α → Prop where
  | done {log : List Exchange} (sends : log.map Exchange.statement = statements)
      (succeeds : ∀ x ∈ log, ¬ x.Fails) (value : α) : Changed statements log (.ok value)
  | broken {log : List Exchange} (sends : log.map Exchange.statement <+: statements)
      (stops : log.Pairwise fun x _ => ¬ x.Fails) (error : ε) :
      Changed statements log (.error error)

/-- What comes of an outcome for the ledger. -/
inductive Recorded (r : OutcomeRecord) :
    List Exchange → Except ProjectionError Subscription → Prop where
  | done {reply : Reply} (succeeds : ¬ Exchange.Fails ⟨.record r, reply⟩) (sub : Subscription) :
      Recorded r [⟨.record r, reply⟩] (.ok sub)
  | broken {reply : Reply} (fails : Exchange.Fails ⟨.record r, reply⟩) (error : ProjectionError) :
      Recorded r [⟨.record r, reply⟩] (.error error)

/-- What comes of the begin of a transaction. -/
inductive Began : List Exchange → Except ProjectionError Unit → Prop where
  | done : Began [⟨.begin, .done [] 0⟩] (.ok ())
  | refused (error : DatabaseError) :
      Began [⟨.begin, .refused error⟩] (.error (.database error))
  | unconnected (error : ProjectionError) : Began [] (.error error)

/-- What comes of the statement that ends a transaction. When it is refused, the transaction is
undone. -/
inductive Ended (statement : Statement) : List Exchange → Except ε Unit → Prop where
  | done : Ended statement [⟨statement, .done [] 0⟩] (.ok ())
  | refused (refusal : DatabaseError) (reply : Reply) (error : ε) :
      Ended statement [⟨statement, .refused refusal⟩, ⟨.rollback, reply⟩] (.error error)

namespace Changed

variable {statements : List Statement} {log : List Exchange}

theorem none (value : α) : Changed (ε := ε) [] [] (.ok value) := by
  apply done
  · rfl
  · intro x hx
    cases hx

theorem refused (statement : Statement) (rest : List Statement) (refusal : DatabaseError)
    (error : ε) :
    Changed (α := α) (statement :: rest) [⟨statement, .refused refusal⟩] (.error error) := by
  apply broken
  · exact List.cons_prefix_cons.2 ⟨rfl, List.nil_prefix⟩
  · exact List.pairwise_singleton _ _

theorem cons {x : Exchange} {result : Except ε α} (hx : ¬ x.Fails)
    (h : Changed statements log result) :
    Changed (x.statement :: statements) (x :: log) result := by
  cases h with
  | done hs hf value =>
    apply done
    · rw [List.map_cons, hs]
    · exact List.forall_mem_cons.2 ⟨hx, hf⟩
  | broken hs hf error =>
    apply broken
    · exact List.cons_prefix_cons.2 ⟨rfl, hs⟩
    · exact List.pairwise_cons.2 ⟨fun _ _ => hx, hf⟩

end Changed

namespace Session

/-- The steps of `find` in an open transaction. -/
theorem says_find (key : LedgerKey) :
    Says (Found key) (do
      let claimed ← withError ProjectionError.database (rows (.claim key))
      if claimed.isEmpty then
        let locked ← withError ProjectionError.database (rows (.lockRow key))
        liftExcept (locked.head?.mapM Subscription.ofRow)
      else return none) := by
  refine says_bind (says_withError (says_rows rfl (fun rows affected => ?_)
    fun error => .unclaimed error _))
  cases rows with
  | cons row rows => exact says_pure (.opened (.claimed row rows affected))
  | nil =>
    refine says_bind (says_withError (says_rows rfl (fun rows affected' => ?_)
      fun error => .unlocked affected (.refused _ error) _))
    cases rows with
    | nil => exact says_liftExcept (.opened (.absent affected affected'))
    | cons row rows =>
      apply says_liftExcept
      change Found key _ (some <$> Subscription.ofRow row)
      cases hr : Subscription.ofRow row with
      | ok sub => exact .opened (.locked affected hr rows affected')
      | error error => exact .unlocked affected (.unreadableLock key hr rows affected') error

theorem says_upsertOutcome (r : OutcomeRecord) : Says (Recorded r) (upsertOutcome r) := by
  refine says_bind (says_withError (says_row rfl (fun row rows affected => ?_)
    (fun affected => .broken (.missing r affected) _)
    fun error => .broken (.refused _ error) _))
  apply says_liftExcept
  cases hr : Subscription.ofRow row with
  | ok sub =>
    refine .done (fun hf => ?_) sub
    cases hf with
    | unreadableRecord _ hr' _ _ =>
      rw [hr] at hr'
      cases hr'
  | error error => exact .broken (.unreadableRecord r hr rows affected) error

variable {statements : List Statement}

theorem says_statements (h : ∀ statement ∈ statements, statement.IsOnEntities) :
    Says (Changed statements) (statements.forM fun statement => do
      let _ ← send statement) := by
  induction statements with
  | nil => exact says_pure (.none ())
  | cons statement rest ih =>
    have hs := h statement List.mem_cons_self
    refine says_bind (says_bind (says_send hs.prepared fun reply => ?_))
    cases reply with
    | refused error => exact Changed.refused statement rest error error
    | done rows affected =>
      apply says_pure
      apply (ih fun statement hm => h statement (List.mem_cons_of_mem _ hm)).mono
      intro log result hc
      exact hc.cons (Exchange.not_fails hs rows affected)

theorem says_change (h : ∀ statement ∈ statements, statement.IsOnEntities) :
    Says (Changed statements) (change statements) := by
  refine says_bind ((says_statements h).mono fun log result hc => ?_)
  cases hc with
  | done hs hf value =>
    apply says_pure
    rw [List.append_nil]
    exact .done hs hf true
  | broken hs hf error => exact Changed.broken hs hf error

theorem says_changes {statement : Statement} (h : statement.IsOnEntities) :
    Says (Changed [statement]) (changes statement) := by
  refine says_bind (says_send h.prepared fun reply => ?_)
  cases reply with
  | refused error => exact Changed.refused statement [] error error
  | done rows affected =>
    apply says_pure
    exact (Changed.none _).cons (Exchange.not_fails h rows affected)

theorem says_changeBy (w : Write) : Says (Changed w.statements) (changeBy w) := by
  have hw : ∀ statement ∈ w.statements, statement.IsOnEntities := fun _ h => Write.onEntities h
  cases w with
  | deleteHost agent => exact says_changes trivial
  | recordHeartbeat agent time => exact says_changes trivial
  | _ => exact says_change hw

theorem run_bind {α β : Type} (m : StateM Session α) (k : α → StateM Session β) (s : Session) :
    (m >>= k) s = k (m s).1 (m s).2 := rfl

/-- A step of one statement that ends a transaction. -/
structure Sends (statement : Statement) (step : Step DatabaseError Unit) : Prop where
  answers : ∀ s : Session, ∃ errors, s.answerTo statement = .next errors
  run : ∀ s : Session,
    step.run s = ((s.answerTo statement).result.map fun _ => (), s.after statement)

theorem sends_commit : Sends .commit sendCommit where
  answers s := ⟨s.refusals.commit, rfl⟩
  run s := by
    obtain ⟨isOpen, connections, inTransaction, replies, ⟨begins, commits, rollbacks⟩, sent⟩ := s
    cases commits <;> rfl

theorem sends_rollback : Sends .rollback sendRollback where
  answers s := ⟨s.refusals.rollback, rfl⟩
  run s := by
    obtain ⟨isOpen, connections, inTransaction, replies, ⟨begins, commits, rollbacks⟩, sent⟩ := s
    cases rollbacks <;> rfl

variable {statement : Statement} {control : Step DatabaseError Unit}

/-- The two ways in which the only statement of such a step is answered. -/
theorem Sends.cases (h : Sends statement control) (s : Session) :
    (s.Heard [⟨statement, .done [] 0⟩] (s.after statement) ∧
      control.run s = (.ok (), s.after statement)) ∨
    ∃ error, s.Heard [⟨statement, .refused error⟩] (s.after statement) ∧
      control.run s = (.error error, s.after statement) := by
  have hheard := Heard.single s statement
  have hrun := h.run s
  obtain ⟨errors, ha⟩ := h.answers s
  rw [ha] at hheard hrun
  cases errors with
  | nil => exact .inl ⟨hheard, hrun⟩
  | cons error rest => exact .inr ⟨error, hheard, hrun⟩

theorem says_endBy (h : Sends statement control) : Says (Ended statement) (endBy control) := by
  intro s
  rcases h.cases s with ⟨hheard, hrun⟩ | ⟨error, hheard, hrun⟩
  · have hend : (endBy control).run s = (.ok (), s.after statement) := by
      unfold endBy
      rw [ExceptT.run_mk, run_bind, hrun]
      rfl
    rw [hend]
    exact ⟨_, hheard, .done⟩
  · have hundo := Heard.single (s.after statement) .rollback
    have hend : (endBy control).run s = (.error error, (s.after statement).after .rollback) := by
      unfold endBy
      rw [ExceptT.run_mk, run_bind, hrun]
      change (Except.error error, (sendRollback.run (s.after statement)).2) = _
      rw [sends_rollback.run]
    rw [hend]
    exact ⟨_, hheard.append hundo, .refused error _ error⟩

theorem says_connect {P : List Exchange → Except DatabaseError Unit → Prop} (hok : P [] (.ok ()))
    (herror : ∀ error, P [] (.error error)) : Says P connect := by
  intro s
  unfold connect
  rw [ExceptT.run_mk]
  split
  · exact ⟨[], .nil s, herror _⟩
  split
  · exact ⟨[], .nil s, herror _⟩
  · exact ⟨[], .nil s, hok⟩

/-- What comes of an outcome that is recorded outside of a transaction. -/
theorem says_record (r : OutcomeRecord) :
    Says (fun log result => log = [] ∧ (∃ error, result = .error error) ∨ Recorded r log result)
      (record r) := by
  refine says_bind (says_withError (says_connect ?_ fun error => .inl ⟨rfl, _, rfl⟩))
  exact (says_upsertOutcome r).mono fun log result h => .inr h

variable {s s' : Session}

theorem inTransaction_afterAll (s : Session) (statements : List Statement) :
    (s.afterAll statements).inTransaction = s.inTransaction := by
  induction statements generalizing s with
  | nil => rfl
  | cons statement rest ih =>
    have hs : (s.after statement).inTransaction = s.inTransaction := by cases statement <;> rfl
    exact (ih (s.after statement)).trans hs

theorem Heard.inTransaction {log : List Exchange} (h : s.Heard log s') :
    s'.inTransaction = s.inTransaction := by
  rw [h.leads]
  exact inTransaction_afterAll s _

theorem run_within (h : s.inTransaction = true) (step : ModelStep α) :
    (within step).run s = step.run s :=
  if_pos h

/-- Who lets go when there is no transaction says nothing. -/
theorem run_rollbackOnce (h : s.inTransaction = false) :
    drop.rollbackOnce.run s = (.error .transactionClosed, s) := by
  unfold drop.rollbackOnce within
  rw [ExceptT.run_mk, h]
  rfl

theorem run_write (h : s.inTransaction = true) (w : Write) :
    (write w).run s = ((do
      withError ProjectionError.validation (liftExcept (checkRange w))
      withError .database (changeBy w) : ModelStep Bool)).run s := by
  unfold write
  cases checkRange w with
  | error error => rfl
  | ok u => exact run_within h _

theorem says_inRange (w : Write) :
    Says (Changed w.statements) (do
      withError ProjectionError.validation (liftExcept (checkRange w))
      withError ProjectionError.database (changeBy w)) := by
  refine says_bind (says_withError (says_liftExcept ?_))
  cases checkRange w with
  | error error =>
    apply Changed.broken
    · exact List.nil_prefix
    · exact List.Pairwise.nil
  | ok u =>
    refine says_withError ((says_changeBy w).mono fun log result h => ?_)
    cases h with
    | done hs hf value => exact Changed.done hs hf value
    | broken hs hf error => exact Changed.broken hs hf _

/-- What is said at the begin of a transaction, which there is only if it succeeds. -/
theorem heard_begin (h : s.inTransaction = false) :
    ∃ log, s.Heard log ((begin.run s).2.mark false) ∧ Began log (begin.run s).1 ∧
      (begin.run s).2.inTransaction = (begin.run s).1.isOk := by
  obtain ⟨isOpen, connections, inTransaction, replies, ⟨begins, commits, rollbacks⟩, sent⟩ := s
  obtain rfl : inTransaction = false := h
  cases isOpen with
  | false => exact ⟨[], .nil _, .unconnected _, rfl⟩
  | true =>
    cases begins with
    | nil => exact ⟨_, .single _ .begin, .done, rfl⟩
    | cons error rest => exact ⟨_, .single _ .begin, .refused error, rfl⟩

/-- What is said at the end of a transaction, after which there is none. -/
theorem heard_end {statement : Statement} {control : Step DatabaseError Unit}
    (hc : Sends statement control) (h : s.inTransaction = true) {step : ModelStep Unit}
    (hs : step = within do
      leave
      withError .database (endBy control)) :
    ∃ log, (s.mark false).Heard log (step.run s).2 ∧ Ended statement log (step.run s).1 := by
  have hrun : step.run s =
      (withError ProjectionError.database (endBy control)).run (s.mark false) := by
    rw [hs]
    exact run_within h _
  have hend : Says (Ended statement) (withError ProjectionError.database (endBy control)) := by
    refine says_withError ((says_endBy hc).mono fun log result h => ?_)
    cases h with
    | done => exact .done
    | refused refusal reply error => exact .refused refusal reply _
  rw [hrun]
  exact hend (s.mark false)

end Session

end AgentFacts
