import AgentFacts.Proofs.Attempts
import AgentFacts.Proofs.Handlers
import Mathlib.Data.List.Chain

namespace AgentFacts

/-- A statement that works on an envelope: one of its projector's, or the note of its success. -/
def Statement.WorksOn (e : Envelope) (change : Except ProjectionError Write)
    (statement : Statement) : Prop :=
  (∃ w, change = .ok w ∧ statement ∈ w.statements) ∨
    ∃ time, statement = .record (.ofEnvelope e .success time)

/-- An attempt has projected an envelope and noted its success, and all that has been answered. -/
inductive Complete (e : Envelope) (change : Except ProjectionError Write) :
    List Exchange → Prop where
  | intro {w : Write} {opening work : List Exchange} {row : Option Subscription} {time : Instant}
      {reply : Reply} (asks : change = .ok w) (opens : Opening e.key opening row)
      (due : e.IsDue row) (sends : work.map Exchange.statement = w.statements)
      (succeeds : ∀ x ∈ work, ¬ x.Fails)
      (notes : ¬ Exchange.Fails ⟨.record (.ofEnvelope e .success time), reply⟩)
      (binds : (Statement.record (.ofEnvelope e .success time)).params =
        [.text e.source.text, .text e.eventType.text, .int e.id.value, .ofInstant time,
          .text "success", .null]) :
      Complete e change (⟨.begin, .done [] 0⟩ :: opening ++ work ++
        [⟨.record (.ofEnvelope e .success time), reply⟩])

/-- An exchange asks for the row of a pair and locks it exactly when the claim before it has
inserted none. -/
def LocksIfTaken (key : LedgerKey) (x y : Exchange) : Prop :=
  y.statement = .lockRow key ↔ x.statement = .claim key ∧ ∃ affected, x.reply = .done [] affected

/-- What is said in one attempt. -/
structure OrderlyAttempt (e : Envelope) (change : Except ProjectionError Write)
    (t : List Exchange) : Prop where
  /-- There is one transaction, -/
  begins : ∀ x rest, t = x :: rest → x.statement = .begin ∧ ∀ y ∈ rest, y.statement ≠ .begin
  /-- which is ended, unless it could not be begun. -/
  ends : ∀ x, t.getLast? = some x → x.statement = .commit ∨ x.statement = .rollback ∨
    x.statement = .begin ∧ x.Fails
  claims : ∀ x y rest, t = x :: y :: rest → y.statement = .claim e.key
  locks : t.IsChain (LocksIfTaken e.key)
  sends : ∀ x ∈ t, x.statement ∈ [.begin, .claim e.key, .lockRow e.key, .commit, .rollback] ∨
    x.statement.WorksOn e change
  stale : ∀ row rows affected sub last, ⟨.lockRow e.key, .done (row :: rows) affected⟩ ∈ t →
    Subscription.ofRow row = .ok sub → sub.lastEnvelope = some last → e.id ≤ last →
    ∀ x ∈ t, x.statement ∈ [.begin, .claim e.key, .lockRow e.key, .rollback]
  fails : t.Pairwise fun x y => x.Fails → y.statement = .rollback
  commits : ∀ before x after, t = before ++ x :: after → x.statement = .commit →
    Complete e change before ∧ ∀ y ∈ after, y.statement = .rollback

/-- The server has committed the transaction of an attempt. -/
def Committed (t : List Exchange) : Prop :=
  ∃ x ∈ t, x.statement = .commit ∧ ¬ x.Fails

namespace Statement.WorksOn

variable {e : Envelope} {change : Except ProjectionError Write} {statement : Statement}

theorem ne (h : statement.WorksOn e change) :
    statement ∉ [.begin, .commit, .rollback] ∧
      ∀ key, statement ≠ .claim key ∧ statement ≠ .lockRow key := by
  rcases h with ⟨w, _, hw⟩ | ⟨time, rfl⟩
  · have hon := Write.onEntities hw
    cases statement <;> first | exact hon.elim | simp
  · simp

end Statement.WorksOn

theorem not_fails_claim (key : LedgerKey) (rows : List Row) (affected : Nat) :
    ¬ Exchange.Fails ⟨.claim key, .done rows affected⟩ := nofun

theorem Opening.succeeds {key : LedgerKey} {log : List Exchange} {row : Option Subscription}
    (h : Opening key log row) : ∀ x ∈ log, ¬ x.Fails := by
  cases h with
  | claimed first rows affected =>
    simp only [List.mem_singleton, forall_eq]
    exact not_fails_claim key _ affected
  | absent affected affected' =>
    simp only [List.mem_cons, List.not_mem_nil, or_false, forall_eq_or_imp, forall_eq]
    exact ⟨not_fails_claim key [] affected, nofun⟩
  | locked affected hs rows affected' =>
    simp only [List.mem_cons, List.not_mem_nil, or_false, forall_eq_or_imp, forall_eq]
    refine ⟨not_fails_claim key [] affected, fun hf => ?_⟩
    cases hf with
    | unreadableLock _ hr _ _ =>
      rw [hs] at hr
      cases hr

namespace Found

variable {key : LedgerKey} {log : List Exchange}
  {row : Except ProjectionError (Option Subscription)}

theorem claims (h : Found key log row) : ∃ reply rest, log = ⟨.claim key, reply⟩ :: rest := by
  cases h with
  | opened hopening => cases hopening <;> exact ⟨_, _, rfl⟩
  | _ => exact ⟨_, _, rfl⟩

theorem statements (h : Found key log row) :
    ∀ x ∈ log, x.statement = .claim key ∨ x.statement = .lockRow key := by
  cases h with
  | opened hopening => cases hopening <;> simp
  | _ => simp

theorem locks (h : Found key log row) :
    (⟨.begin, .done [] 0⟩ :: log).IsChain (LocksIfTaken key) ∧
      ∀ x ∈ log.getLast?,
        ¬ (x.statement = .claim key ∧ ∃ affected, x.reply = .done [] affected) := by
  cases h with
  | opened hopening => cases hopening <;> simp [LocksIfTaken]
  | _ => simp [LocksIfTaken]

theorem stops (h : Found key log row) : log.Pairwise fun x _ => ¬ x.Fails := by
  cases h with
  | opened hopening =>
    exact List.pairwise_of_forall_mem_list fun x hx _ _ => hopening.succeeds x hx
  | unclaimed refusal error => exact List.pairwise_singleton _ _
  | unlocked affected hf error => exact List.pairwise_pair.2 (not_fails_claim key [] affected)

/-- A row that has been locked and can be read is what has been found. -/
theorem reads (h : Found key log row) {first : Row} {rows : List Row} {affected : Nat}
    {sub : Subscription} (hm : ⟨.lockRow key, .done (first :: rows) affected⟩ ∈ log)
    (hr : Subscription.ofRow first = .ok sub) : row = .ok (some sub) := by
  cases h with
  | opened hopening =>
    cases hopening with
    | claimed _ _ _ => simp at hm
    | absent _ _ => simp at hm
    | @locked _ _ sub' hs _ _ =>
      simp at hm
      obtain ⟨⟨rfl, rfl⟩, rfl⟩ := hm
      rw [hs] at hr
      rw [Except.ok.inj hr]
  | unclaimed refusal error => simp at hm
  | unlocked affected hf error =>
    simp at hm
    subst hm
    cases hf with
    | unreadableLock _ hs _ _ =>
      rw [hs] at hr
      cases hr

end Found

theorem Complete.succeeds {e : Envelope} {change : Except ProjectionError Write}
    {log : List Exchange} (h : Complete e change log) : ∀ x ∈ log, ¬ x.Fails := by
  cases h with
  | intro _ hopens _ _ hwork hnote _ =>
    simp only [List.mem_append, List.mem_cons, List.not_mem_nil, or_false]
    rintro x (((rfl | hx) | hx) | rfl)
    · exact nofun
    · exact hopens.succeeds x hx
    · exact hwork x hx
    · exact hnote

/-- What is said in a transaction before its end: the claim to the row of the pair, and the work on
the envelope. -/
structure Body (e : Envelope) (change : Except ProjectionError Write) (head tail : List Exchange) :
    Prop where
  found : ∃ row, Found e.key head row ∧ (tail ≠ [] → ∃ sub, row = .ok sub ∧ e.IsDue sub)
  works : ∀ x ∈ tail, x.statement.WorksOn e change
  stops : (head ++ tail).Pairwise fun x _ => ¬ x.Fails

theorem Body.inner {e : Envelope} {change : Except ProjectionError Write}
    {head tail : List Exchange} (h : Body e change head tail) :
    ∀ x ∈ head ++ tail, x.statement ∉ [.begin, .commit, .rollback] := by
  obtain ⟨row, hfound, -⟩ := h.found
  intro x hx
  rcases List.mem_append.1 hx with hx | hx
  · rcases hfound.statements x hx with hs | hs <;> simp [hs]
  · exact (h.works x hx).ne.1

/-- So a commit can only stand at the end. -/
theorem Body.mem_ending {e : Envelope} {change : Except ProjectionError Write}
    {head tail ending : List Exchange} (h : Body e change head tail) {x : Exchange}
    (hx : x ∈ ⟨.begin, .done [] 0⟩ :: (head ++ tail) ++ ending) (hs : x.statement = .commit) :
    x ∈ ending := by
  rcases List.mem_append.1 hx with hx | hx
  · rcases List.mem_cons.1 hx with rfl | hx
    · cases hs
    · exact absurd (by simp [hs]) (h.inner x hx)
  · exact hx

/-- The exchange that ends the transaction, with what there may be left to say after it. -/
structure Parts (e : Envelope) (change : Except ProjectionError Write) (head tail : List Exchange)
    (last : Exchange) (rest : List Exchange) : Prop extends Body e change head tail where
  ends : last.statement = .rollback ∨ last.statement = .commit ∧ tail ≠ [] ∧
    Complete e change (⟨.begin, .done [] 0⟩ :: (head ++ tail))
  undone : ∀ x ∈ rest, x.statement = .rollback

namespace Parts

variable {e : Envelope} {change : Except ProjectionError Write} {head tail : List Exchange}
  {last : Exchange} {rest : List Exchange}

def all (head tail : List Exchange) (last : Exchange) (rest : List Exchange) : List Exchange :=
  ⟨.begin, .done [] 0⟩ :: (head ++ tail) ++ last :: rest

theorem mem_all {x : Exchange} :
    x ∈ all head tail last rest ↔
      x = ⟨.begin, .done [] 0⟩ ∨ x ∈ head ∨ x ∈ tail ∨ x = last ∨ x ∈ rest := by
  simp [all]

theorem ends_cases (h : Parts e change head tail last rest) {x : Exchange}
    (hx : x = last ∨ x ∈ rest) : x.statement = .commit ∨ x.statement = .rollback := by
  rcases hx with rfl | hx
  · rcases h.ends with hs | ⟨hs, -⟩
    · exact .inr hs
    · exact .inl hs
  · exact .inr (h.undone x hx)

/-- Neither the work nor what follows it has to do with the row of a pair. -/
theorem plain (h : Parts e change head tail last rest) {x : Exchange}
    (hx : x ∈ tail ++ last :: rest) (key : LedgerKey) :
    x.statement ≠ .claim key ∧ x.statement ≠ .lockRow key := by
  rcases List.mem_append.1 hx with hx | hx
  · exact (h.works x hx).ne.2 key
  · rcases h.ends_cases (List.mem_cons.1 hx) with hs | hs <;> simp [hs]

theorem begins (h : Parts e change head tail last rest) :
    ∀ x ∈ head ++ tail ++ last :: rest, x.statement ≠ .begin := by
  intro x hx hs
  rcases List.mem_append.1 hx with hx | hx
  · exact h.inner x hx (by simp [hs])
  · rcases h.ends_cases (List.mem_cons.1 hx) with hs' | hs' <;> simp [hs'] at hs

theorem locks (h : Parts e change head tail last rest) :
    (all head tail last rest).IsChain (LocksIfTaken e.key) := by
  obtain ⟨row, hfound, -⟩ := h.found
  obtain ⟨hhead, hlast⟩ := hfound.locks
  have hplain : (tail ++ last :: rest).IsChain (LocksIfTaken e.key) := by
    apply List.Pairwise.isChain
    apply List.pairwise_of_forall_mem_list
    intro x hx y hy
    exact ⟨fun hs => absurd hs (h.plain hy _).2, fun hs => absurd hs.1 (h.plain hx _).1⟩
  have hall : all head tail last rest =
      (⟨.begin, .done [] 0⟩ :: head) ++ (tail ++ last :: rest) := by simp [all]
  rw [hall]
  apply hhead.append hplain
  intro x hx y hy
  have hy' := List.mem_of_mem_head? hy
  refine ⟨fun hs => absurd hs (h.plain hy' _).2, fun hs => absurd hs (hlast x ?_)⟩
  obtain ⟨reply, more, rfl⟩ := hfound.claims
  exact hx

theorem stale (h : Parts e change head tail last rest) {row : Row} {rows : List Row}
    {affected : Nat} {sub : Subscription} {newest : EnvelopeId}
    (hm : ⟨.lockRow e.key, .done (row :: rows) affected⟩ ∈ all head tail last rest)
    (hr : Subscription.ofRow row = .ok sub) (hn : sub.lastEnvelope = some newest)
    (hle : e.id ≤ newest) :
    ∀ x ∈ all head tail last rest,
      x.statement ∈ [.begin, .claim e.key, .lockRow e.key, .rollback] := by
  obtain ⟨found, hfound, hdue⟩ := h.found
  have hhead : ⟨.lockRow e.key, .done (row :: rows) affected⟩ ∈ head := by
    rcases mem_all.1 hm with hx | hx | hx | hx
    · cases hx
    · exact hx
    · exact absurd rfl ((h.works _ hx).ne.2 e.key).2
    · rcases h.ends_cases hx with hs | hs <;> cases hs
  have hstale : sub.isStale e.id = true := by
    unfold Subscription.isStale
    rw [hn]
    exact decide_eq_true hle
  have htail : tail = [] := by
    by_contra hne
    obtain ⟨sub', hs, hd⟩ := hdue hne
    rw [hfound.reads hhead hr] at hs
    cases hs
    unfold Envelope.IsDue at hd
    rw [Option.any_some, hstale] at hd
    cases hd
  subst htail
  intro x hx
  rcases mem_all.1 hx with rfl | hx | hx | rfl | hx
  · simp
  · rcases hfound.statements x hx with hs | hs <;> simp [hs]
  · cases hx
  · rcases h.ends with hs | ⟨-, hne, -⟩
    · simp [hs]
    · exact absurd rfl hne
  · simp [h.undone x hx]

theorem fails (h : Parts e change head tail last rest) :
    (all head tail last rest).Pairwise fun x y => x.Fails → y.statement = .rollback := by
  have hbegin : ¬ Exchange.Fails ⟨.begin, .done [] 0⟩ := nofun
  have hends : ∀ x ∈ head ++ tail, ∀ y ∈ last :: rest, x.Fails → y.statement = .rollback := by
    intro x hx y hy hf
    rcases h.ends with hs | ⟨-, -, hc⟩
    · rcases List.mem_cons.1 hy with rfl | hy
      · exact hs
      · exact h.undone y hy
    · exact absurd hf (hc.succeeds x (List.mem_cons_of_mem _ hx))
  have hrest : (last :: rest).Pairwise fun x y => x.Fails → y.statement = .rollback := by
    apply List.pairwise_cons.2
    refine ⟨fun y hy _ => h.undone y hy, ?_⟩
    exact List.pairwise_of_forall_mem_list fun x hx y hy _ => h.undone y hy
  apply List.pairwise_cons.2
  refine ⟨fun y _ hf => absurd hf hbegin, ?_⟩
  exact List.pairwise_append.2 ⟨h.stops.imp fun hx hf => absurd hf hx, hrest, hends⟩

theorem commits (h : Parts e change head tail last rest) {before after : List Exchange}
    {x : Exchange} (ht : all head tail last rest = before ++ x :: after)
    (hx : x.statement = .commit) :
    Complete e change before ∧ ∀ y ∈ after, y.statement = .rollback := by
  have hbefore : x ∉ ⟨.begin, .done [] 0⟩ :: (head ++ tail) := by
    intro hm
    rcases List.mem_cons.1 hm with rfl | hm
    · cases hx
    · exact h.inner x hm (by simp [hx])
  have hafter : x ∉ rest := by
    intro hm
    have hs := h.undone x hm
    rw [hx] at hs
    cases hs
  obtain ⟨rfl, rfl, rfl⟩ := (List.append_cons_inj_of_notMem hbefore hafter).1 ht
  refine ⟨?_, h.undone⟩
  rcases h.ends with hs | ⟨-, -, hc⟩
  · rw [hx] at hs
    cases hs
  · exact hc

theorem orderly (h : Parts e change head tail last rest) :
    OrderlyAttempt e change (all head tail last rest) where
  begins x more ht := by
    obtain ⟨rfl, rfl⟩ := List.cons.inj ht
    exact ⟨rfl, h.begins⟩
  ends x hx := by
    unfold all at hx
    rw [List.getLast?_append_cons] at hx
    rcases h.ends_cases (List.mem_cons.1 (List.mem_of_getLast? hx)) with hs | hs
    · exact .inl hs
    · exact .inr (.inl hs)
  claims x y more ht := by
    obtain ⟨row, hfound, -⟩ := h.found
    obtain ⟨reply, others, rfl⟩ := hfound.claims
    obtain ⟨-, ht⟩ := List.cons.inj ht
    obtain ⟨rfl, -⟩ := List.cons.inj ht
    rfl
  locks := h.locks
  sends x hx := by
    obtain ⟨row, hfound, -⟩ := h.found
    rcases mem_all.1 hx with rfl | hx | hx | hx
    · exact .inl (by simp)
    · rcases hfound.statements x hx with hs | hs <;> exact .inl (by simp [hs])
    · exact .inr (h.works x hx)
    · rcases h.ends_cases hx with hs | hs <;> exact .inl (by simp [hs])
  stale row rows affected sub newest hm hr hn hle := h.stale hm hr hn hle
  fails := h.fails
  commits before x after ht hx := h.commits ht hx

end Parts

/-- The statement that ends a transaction comes first, and after it there is at most a rollback. -/
theorem Ended.parts {statement : Statement} {log : List Exchange}
    {ended : Except ProjectionError Unit} (h : Ended statement log ended) :
    ∃ reply rest, log = ⟨statement, reply⟩ :: rest ∧ ∀ x ∈ rest, x.statement = .rollback := by
  cases h with
  | done => exact ⟨_, [], rfl, fun x hx => by cases hx⟩
  | refused refusal reply error =>
    refine ⟨_, _, rfl, fun x hx => ?_⟩
    rw [List.mem_singleton.1 hx]

theorem Worked.worksOn {e : Envelope} {change : Except ProjectionError Write}
    {log : List Exchange} {result : Except ProjectionError Unit} (h : Worked change log result) :
    ∀ x ∈ log, x.statement.WorksOn e change := by
  intro x hx
  cases h with
  | done asks sends _ =>
    refine .inl ⟨_, asks, ?_⟩
    rw [← sends]
    exact List.mem_map_of_mem hx
  | broken sends _ _ => exact .inl (sends x hx)

theorem Worked.stops {change : Except ProjectionError Write} {log : List Exchange}
    {result : Except ProjectionError Unit} (h : Worked change log result) :
    log.Pairwise fun x _ => ¬ x.Fails := by
  cases h with
  | done _ _ hs => exact List.pairwise_of_forall_mem_list fun x hx _ _ => hs x hx
  | broken _ hs _ => exact hs

namespace Middle

variable {e : Envelope} {change : Except ProjectionError Write} {log : List Exchange}
  {result : Except ProjectionError Projected}

/-- What comes before the end of a transaction, in its parts. -/
theorem body (h : Middle e change log result) :
    ∃ head tail, log = head ++ tail ∧ Body e change head tail ∧
      (result = .ok .applied → tail ≠ []) := by
  cases h with
  | @unopened _ error found =>
    refine ⟨log, [], (List.append_nil _).symm, ⟨⟨_, found, fun hne => absurd rfl hne⟩, ?_, ?_⟩, ?_⟩
    · intro x hx
      cases hx
    · rw [List.append_nil]
      exact found.stops
    · intro he
      cases he
  | stale opened hs =>
    refine ⟨log, [], (List.append_nil _).symm,
      ⟨⟨_, .opened opened, fun hne => absurd rfl hne⟩, ?_, ?_⟩, ?_⟩
    · intro x hx
      cases hx
    · rw [List.append_nil]
      exact (Found.opened opened).stops
    · intro he
      cases he
  | @unworked head tail row error opened due worked =>
    refine ⟨head, tail, rfl, ⟨⟨_, .opened opened, fun _ => ⟨_, rfl, due⟩⟩, worked.worksOn, ?_⟩, ?_⟩
    · apply List.pairwise_append.2
      exact ⟨(Found.opened opened).stops, worked.stops, fun x hx _ _ => opened.succeeds x hx⟩
    · intro he
      cases he
  | @recorded head work note row time result opened due worked noted =>
    obtain ⟨reply, rfl⟩ := noted.eq_singleton
    have hwork : ∀ x ∈ work, ¬ x.Fails := by
      cases worked with
      | done _ _ hs => exact hs
    refine ⟨head, work ++ [_], List.append_assoc ..,
      ⟨⟨_, .opened opened, fun _ => ⟨_, rfl, due⟩⟩, ?_, ?_⟩, fun _ => List.concat_ne_nil _ _⟩
    · intro x hx
      rcases List.mem_append.1 hx with hx | hx
      · exact worked.worksOn x hx
      · obtain rfl := List.mem_singleton.1 hx
        exact .inr ⟨time, rfl⟩
    · apply List.pairwise_append.2
      refine ⟨(Found.opened opened).stops, ?_, fun x hx _ _ => opened.succeeds x hx⟩
      apply List.pairwise_append.2
      exact ⟨worked.stops, List.pairwise_singleton _ _, fun x hx _ _ => hwork x hx⟩

/-- When an envelope has been applied, all that it takes has been said and answered. -/
theorem complete (h : Middle e change log (.ok .applied)) :
    Complete e change (⟨.begin, .done [] 0⟩ :: log) := by
  generalize hr : (Except.ok .applied : Except ProjectionError Projected) = result at h
  cases h with
  | unopened _ => cases hr
  | stale _ _ => cases hr
  | unworked _ _ _ => cases hr
  | recorded opened due worked noted =>
    cases worked with
    | done asks sends succeeds =>
      cases noted with
      | broken _ _ => cases hr
      | done hnote sub => exact .intro asks opened due sends succeeds hnote rfl

end Middle

namespace Attempt

variable {e : Envelope} {change : Except ProjectionError Write} {log : List Exchange}
  {result : Except ProjectionError Projected}

theorem orderly_unbegun {error : ProjectionError} (h : Began log (.error error)) :
    OrderlyAttempt e change log := by
  cases h with
  | unconnected error => constructor <;> simp
  | refused error =>
    have hbegin : ∀ x ∈ [(⟨.begin, .refused error⟩ : Exchange)], x.statement = .begin := by simp
    exact {
      begins := by
        intro x rest ht
        cases ht
        exact ⟨rfl, fun y hy => absurd hy List.not_mem_nil⟩
      ends := by
        intro x hx
        cases hx
        exact .inr (.inr ⟨rfl, .refused .begin error⟩)
      claims := by
        intro x y rest ht
        cases ht
      locks := .singleton _
      sends := by
        intro x hx
        exact .inl (by simp [hbegin x hx])
      stale := by
        intro row rows affected sub newest hm
        cases hbegin _ hm
      fails := List.pairwise_singleton _ _
      commits := by
        intro before x after ht hx
        have hm : x ∈ before ++ x :: after := List.mem_append_right _ List.mem_cons_self
        rw [← ht] at hm
        rw [hbegin x hm] at hx
        cases hx }

theorem orderly (h : Attempt e change log result) : OrderlyAttempt e change log := by
  cases h with
  | unbegun began => exact orderly_unbegun began
  | committed hm hend =>
    obtain ⟨head, tail, rfl, hbody, hne⟩ := hm.body
    obtain ⟨reply, rest, rfl, hrest⟩ := hend.parts
    exact Parts.orderly ⟨hbody, .inr ⟨rfl, hne rfl, hm.complete⟩, hrest⟩
  | undone hm _ hend _ =>
    obtain ⟨head, tail, rfl, hbody, _⟩ := hm.body
    obtain ⟨reply, rest, rfl, hrest⟩ := hend.parts
    exact Parts.orderly ⟨hbody, .inl rfl, hrest⟩

theorem applied_iff (h : Attempt e change log result) : result = .ok .applied ↔ Committed log := by
  cases h with
  | unbegun began =>
    refine ⟨fun he => (by cases he), ?_⟩
    rintro ⟨x, hx, hs, -⟩
    cases began with
    | refused error =>
      rw [List.mem_singleton.1 hx] at hs
      cases hs
    | unconnected error => cases hx
  | @committed middle ending hm ended hend =>
    obtain ⟨head, tail, rfl, hbody, -⟩ := hm.body
    cases hend with
    | done =>
      refine ⟨fun _ => ⟨⟨.commit, .done [] 0⟩, ?_, rfl, nofun⟩, fun _ => rfl⟩
      simp
    | refused refusal reply error =>
      refine ⟨fun he => (by cases he), ?_⟩
      rintro ⟨x, hx, hs, hf⟩
      have hm := hbody.mem_ending hx hs
      simp only [List.mem_cons, List.not_mem_nil, or_false] at hm
      rcases hm with rfl | rfl
      · exact absurd (.refused _ refusal) hf
      · cases hs
  | @undone middle ending result hm hne ended hend result' hne' =>
    obtain ⟨head, tail, rfl, hbody, -⟩ := hm.body
    refine ⟨fun he => absurd he hne', ?_⟩
    rintro ⟨x, hx, hs, -⟩
    have hm := hbody.mem_ending hx hs
    obtain ⟨reply, rest, rfl, hrest⟩ := hend.parts
    rcases List.mem_cons.1 hm with rfl | hm
    · cases hs
    · rw [hrest x hm] at hs
      cases hs

end Attempt

namespace Executor

open Projection

/-- What a dispatch says: what its attempts say, one after another, and after them the notes of its
failure. -/
structure Orderly (x : Executor) (e : Envelope) (outcome : DispatchOutcome)
    (attempts : List (List Exchange)) (notes : List Exchange) : Prop where
  orderly : ∀ t ∈ attempts, ∃ p, x.registry.find? e.eventType = some p ∧
    OrderlyAttempt e (p.change e) t
  /-- None but the last attempt has been committed, -/
  last : ∀ t ∈ attempts.dropLast, ¬ Committed t
  applied : outcome = .applied ↔ ∃ t ∈ attempts, Committed t
  failures : ∀ y ∈ notes, y.NotesFailure e
  /-- and after that one no failure is noted. -/
  unnoted : (∃ t ∈ attempts, Committed t) → notes = []

variable {x : Executor} {e : Envelope} {v : Conversation}

/-- What is to be shown of a dispatch. -/
def SpeaksOrderly (x : Executor) (e : Envelope) (v v' : Conversation)
    (result : Except ProjectionError DispatchOutcome) : Prop :=
  ∃ outcome attempts notes, result = .ok outcome ∧
    v' = ⟨false, v.said ++ (List.flatten attempts ++ notes)⟩ ∧ x.Orderly e outcome attempts notes

theorem orderly_attempts {p : Projector} (hfind : x.registry.find? e.eventType = some p)
    {failed : List (List Exchange)} {last : List Exchange}
    {result : Except ProjectionError Projected}
    (hf : ∀ t ∈ failed, ∃ error, Attempt e (p.change e) t (.error error))
    (hl : Attempt e (p.change e) last result) {outcome : DispatchOutcome} {notes : List Exchange}
    (ho : outcome = .applied ↔ result = .ok .applied) (hn : ∀ y ∈ notes, y.NotesFailure e)
    (hnone : result = .ok .applied → notes = []) :
    x.Orderly e outcome (failed ++ [last]) notes := by
  have hfailed : ∀ t ∈ failed, ¬ Committed t := by
    intro t ht hc
    obtain ⟨error, ha⟩ := hf t ht
    cases ha.applied_iff.2 hc
  have hcommitted : (∃ t ∈ failed ++ [last], Committed t) ↔ result = .ok .applied := by
    rw [hl.applied_iff]
    refine ⟨?_, fun hc => ⟨last, List.mem_append_right _ List.mem_cons_self, hc⟩⟩
    rintro ⟨t, ht, hc⟩
    rcases List.mem_append.1 ht with ht | ht
    · exact absurd hc (hfailed t ht)
    · rwa [List.mem_singleton.1 ht] at hc
  exact {
    orderly := by
      intro t ht
      refine ⟨p, hfind, ?_⟩
      rcases List.mem_append.1 ht with ht | ht
      · obtain ⟨error, ha⟩ := hf t ht
        exact ha.orderly
      · rw [List.mem_singleton.1 ht]
        exact hl.orderly
    last := by
      rw [List.dropLast_concat]
      exact hfailed
    applied := ho.trans hcommitted.symm
    failures := hn
    unnoted := fun hc => hnone (hcommitted.1 hc) }

theorem speaks_project {p : Projector} (hfind : x.registry.find? e.eventType = some p)
    (hp : p ∈ Projector.all) (hv : v.isOpen = false) :
    (x.project p e).Speaks (SpeaksOrderly x e v) v := by
  unfold project
  refine speaks_bind (speaks_settle ((speaks_retrying (P := Attempt e (p.change e)) ?_ hv).mono ?_))
  · intro v' number hv'
    have hone := speaks_projectOnce (e := e) hp hv'
    split
    · exact speaks_bind (speaks_count hone)
    · exact hone
  · rintro v' result ⟨failed, last, rfl, hf, hl⟩
    have hnone : ∀ y ∈ [], Exchange.NotesFailure e y := fun y hy => absurd hy List.not_mem_nil
    have hsaid : ∀ notes,
        (failed ++ [last]).flatten ++ notes = failed.flatten ++ last ++ notes := by
      simp
    match result with
    | .ok .applied =>
      refine speaks_bind (speaks_log (speaks_pure ⟨.applied, failed ++ [last], [], rfl, ?_, ?_⟩))
      · rw [hsaid, List.append_nil]
      · exact orderly_attempts hfind hf hl (by simp) hnone fun _ => rfl
    | .ok .stale =>
      refine speaks_bind (speaks_log (speaks_pure ⟨.skipped, failed ++ [last], [], rfl, ?_, ?_⟩))
      · rw [hsaid, List.append_nil]
      · exact orderly_attempts hfind hf hl (by simp) hnone fun _ => rfl
    | .error error =>
      refine speaks_bind (speaks_log (speaks_bind ((speaks_recordFailure _ rfl).mono ?_)))
      rintro v' result ⟨rfl, notes, rfl, hn⟩
      refine speaks_pure ⟨.failed error.message, failed ++ [last], notes, rfl, ?_, ?_⟩
      · rw [hsaid, List.append_assoc]
      · exact orderly_attempts hfind hf hl (by simp) hn (by simp)

/-- An envelope that nobody handles is not attempted at all. -/
theorem speaks_resolve (hp : ∀ p, x.registry.find? e.eventType = some p → p ∈ Projector.all)
    (hv : v.isOpen = false) : (x.resolve e).Speaks (SpeaksOrderly x e v) v := by
  unfold resolve
  split
  next p hfind => exact speaks_project hfind (hp p hfind) hv
  next =>
    refine speaks_bind (speaks_log (speaks_bind ((speaks_recordFailure unknownReason hv).mono ?_)))
    rintro v' result ⟨rfl, notes, rfl, hn⟩
    refine speaks_pure ⟨.unknownEventType, [], notes, rfl, rfl, ?_⟩
    exact {
      orderly := by simp
      last := by simp
      applied := by simp
      failures := hn
      unnoted := by simp }

theorem speaks_dispatch (hp : ∀ p, x.registry.find? e.eventType = some p → p ∈ Projector.all)
    (hv : v.isOpen = false) : (x.dispatch e).Speaks (SpeaksOrderly x e v) v := by
  unfold dispatch
  refine speaks_bind ((speaks_resolve hp hv).mono ?_)
  rintro v' result ⟨outcome, attempts, notes, rfl, rfl, ho⟩
  exact speaks_bind (speaks_count (speaks_bind (speaks_count (speaks_pure
    ⟨outcome, attempts, notes, rfl, rfl, ho⟩))))

end Executor

/-- Whatever the server answers to each statement of a dispatch with projectors of entities, an
outcome comes of it; what has been said falls into attempts, each in its order, and notes of the
failure outside of any transaction, and a commit is sent for nothing but a complete projection. -/
theorem commit_only_complete {x : Executor} {e : Envelope}
    (hp : ∀ p, x.registry.find? e.eventType = some p → p ∈ Projector.all) (d : DatabaseService)
    (hd : d.session.inTransaction = false) :
    ∃ outcome d' attempts notes,
      d.run (x.dispatch e).run = (some (.ok outcome), d') ∧
      d'.session.inTransaction = false ∧
      d'.session.sent =
        ((List.flatten attempts ++ notes).map Exchange.statement).reverse ++ d.session.sent ∧
      d.session.exchanges ((List.flatten attempts ++ notes).map Exchange.statement) =
        List.flatten attempts ++ notes ∧
      x.Orderly e outcome attempts notes := by
  have hspeaks : (x.dispatch e).Speaks (x.SpeaksOrderly e .fresh) .fresh :=
    Executor.speaks_dispatch hp rfl
  obtain ⟨ended, d', v', hrun, ⟨result, rfl, hr⟩, hf⟩ := (Conversation.follows_fresh hd).run hspeaks
  obtain ⟨outcome, attempts, notes, rfl, rfl, ho⟩ := hr
  have hheard := hf.heard
  refine ⟨outcome, d', attempts, notes, hrun, hf.isOpen, ?_, hheard.answers, ho⟩
  have hsent := congrArg Session.sent hheard.leads
  rw [Session.sent_afterAll] at hsent
  exact hsent

/-- A set of two is to be replaced: at first the second row is refused for a passing reason, and
then all goes well. -/
theorem commit_only_complete_retried :
    let instances : List Json := ["00", "01"].map fun number =>
      .ofMembers [("sid", .text "PRD"), ("instance_number", .text number),
        ("system_type", .text "application")]
    let e : Envelope := ⟨⟨5⟩, ⟨"agent"⟩, .sapSystemDiscovered,
      .ofMembers [("instances", .list instances)], ⟨0, 0⟩⟩
    let row : Row := ⟨[("source", .text "agent"), ("event_type", .text e.eventType.text),
      ("last_envelope_id", .int8 4), ("last_processed_at", .timestamptz ⟨0, 0⟩),
      ("last_outcome", .text "failure"), ("failure_reason", .null)]⟩
    let opening : List Reply := [.done [] 0, .done [row] 0]
    let replies := opening ++ [.done [] 2, .done [] 1, .refused (.server (some "40001") "busy")] ++
      opening ++ [.done [] 2, .done [] 1, .done [] 1, .done [row] 0]
    let d : DatabaseService :=
      { DatabaseService.new ⟨0, 0⟩ 1 1 with session := { Session.new 1 with replies } }
    ∃ r, Registry.standard = .ok r ∧
      let x : Executor := ⟨r, .standard⟩
      (∀ p, x.registry.find? e.eventType = some p → p ∈ Projector.all) ∧
      d.session.inTransaction = false ∧
      ∃ d' attempts notes, d.run (x.dispatch e).run = (some (.ok .applied), d') ∧
        d.session.exchanges ((List.flatten attempts ++ notes).map Exchange.statement) =
          List.flatten attempts ++ notes ∧
        x.Orderly e .applied attempts notes := by
  intro instances e row opening replies d
  obtain ⟨r, hr, hrun⟩ : ∃ r, Registry.standard = .ok r ∧
      (d.run (Executor.dispatch ⟨r, .standard⟩ e).run).1.bind Except.toOption = some .applied :=
    ⟨_, rfl, by decide +kernel⟩
  have hp : ∀ p, r.find? e.eventType = some p → p ∈ Projector.all :=
    fun p hp => (Registry.handler_standard hr hp).1
  obtain ⟨outcome, d', attempts, notes, hd, -, -, hanswers, ho⟩ :=
    commit_only_complete (x := ⟨r, .standard⟩) hp d rfl
  rw [hd] at hrun
  obtain rfl : outcome = .applied := Option.some.inj hrun
  exact ⟨r, hr, hp, rfl, d', attempts, notes, hd, hanswers, ho⟩

end AgentFacts
