import AgentFacts.Projector

namespace AgentFacts

/-- A program makes none but the permitted calls, and comes to an end only as `Q` says. What is
known while it runs is of type `S`, and changes with each reply. -/
def Program.Keeps {S : Type} (permits : S → Call → Prop)
    (reacts : S → (c : Call) → c.Reply → S → Prop) (Q : S → α → Prop) : Program α → S → Prop
  | .done a, s => Q s a
  | .call c next, s =>
    permits s c ∧ ∀ reply s', reacts s c reply s' → (next reply).Keeps permits reacts Q s'

namespace Program

variable {S : Type} {permits : S → Call → Prop} {reacts : S → (c : Call) → c.Reply → S → Prop}

theorem Keeps.mono {p : Program α} {s : S} {Q Q' : S → α → Prop}
    (h : p.Keeps permits reacts Q s) (hq : ∀ s a, Q s a → Q' s a) :
    p.Keeps permits reacts Q' s := by
  induction p generalizing s with
  | done a => exact hq s a h
  | call c next ih => exact ⟨h.1, fun reply s' hr => ih reply (h.2 reply s' hr)⟩

theorem keeps_bind {p : Program α} {f : α → Program β} {s : S} {Q : S → β → Prop} :
    (p >>= f).Keeps permits reacts Q s ↔
      p.Keeps permits reacts (fun s a => (f a).Keeps permits reacts Q s) s := by
  change (p.bind f).Keeps permits reacts Q s ↔ _
  induction p generalizing s with
  | done a => rfl
  | call c next ih => simp only [bind, Keeps, ih]

theorem keeps_map {p : Program α} {f : α → β} {s : S} {Q : S → β → Prop} :
    (f <$> p).Keeps permits reacts Q s ↔ p.Keeps permits reacts (fun s a => Q s (f a)) s := by
  rw [map_eq_pure_bind, keeps_bind]
  rfl

end Program

namespace Projection

variable {S : Type} {permits : S → Call → Prop} {reacts : S → (c : Call) → c.Reply → S → Prop}
  {s : S}

/-- What is said of a projection's end: `Q` of a value and `E` of a halt. -/
def Ends (Q : S → α → Prop) (E : S → Halt ProjectionError → Prop) (s : S) :
    Except (Halt ProjectionError) α → Prop
  | .ok a => Q s a
  | .error halt => E s halt

theorem keeps_bind {p : Projection α} {f : α → Projection β} {Q : S → β → Prop}
    {E : S → Halt ProjectionError → Prop} :
    (p >>= f).run.Keeps permits reacts (Ends Q E) s ↔ p.run.Keeps permits reacts
      (Ends (fun s a => (f a).run.Keeps permits reacts (Ends Q E) s) E) s := by
  rw [ExceptT.run_bind, Program.keeps_bind]
  constructor <;> intro h <;> apply h.mono <;> intro s result <;> cases result <;> exact id

theorem keeps_settle {p : Projection α} {Q : S → Except (Halt ProjectionError) α → Prop}
    {E : S → Halt ProjectionError → Prop} :
    p.settle.run.Keeps permits reacts (Ends Q E) s ↔ p.run.Keeps permits reacts
      (Ends (fun s a => Q s (.ok a)) fun s halt => Q s (.error halt)) s := by
  unfold settle
  change (Except.ok <$> p.run).Keeps permits reacts _ s ↔ _
  rw [Program.keeps_map]
  constructor <;> intro h <;> apply h.mono <;> intro s result <;> cases result <;> exact id

end Projection

/-- How a task stands to the read models: the committed state when it last saw it, the copy that its
open transaction works on, how many failures it could not note, and whether a call has failed that
need not have failed. -/
structure Standing where
  seen : ReadModels
  copy : Option ReadModels
  lost : Nat
  struck : Bool

namespace Standing

/-- Before a task has done anything. -/
def fresh (seen : ReadModels) : Standing := ⟨seen, none, 0, false⟩

/-- After a call that failed. -/
def hit (σ : Standing) : Standing := { σ with struck := true }

def withCopy (σ : Standing) (copy : ReadModels) : Standing := { σ with copy := some copy }

/-- Outside of a transaction, in a known state. -/
def closed (σ : Standing) (seen : ReadModels) : Standing := { σ with seen, copy := none }

def countLost (σ : Standing) (c : Counter) : Standing :=
  if σ.copy = none ∧ c = .ledgerWriteFailed then { σ with lost := σ.lost + 1 } else σ

/-- Whether a call waits for the lock of the read models. -/
def needsLock : Call → Bool
  | .begin | .record _ | .read _ => true
  | _ => false

/-- The calls that a dispatch makes. Who has a transaction open must not wait for the lock, which
would be waiting for itself. -/
def allows (σ : Standing) : Call → Prop
  | .begin | .record _ => σ.copy = none
  | .count c => c = .ledgerWriteFailed → σ.copy = none
  | .find _ _ | .write _ | .recordIn _ | .commit | .rollback | .drop => True
  | .sleep _ | .now | .log _ => True
  | _ => False

theorem copy_of_needsLock {σ : Standing} {c : Call} (ha : σ.allows c) (h : needsLock c = true) :
    σ.copy = none := by
  cases c with
  | begin => exact ha
  | record _ => exact ha
  | read _ => exact ha.elim
  | _ => cases h

theorem withCopy_self {σ : Standing} {copy : ReadModels} (h : σ.copy = some copy) :
    σ.withCopy copy = σ := by
  obtain ⟨seen, copy', lost, struck⟩ := σ
  cases h
  rfl

theorem closed_self {σ : Standing} (h : σ.copy = none) : σ.closed σ.seen = σ := by
  obtain ⟨seen, copy, lost, struck⟩ := σ
  cases h
  rfl

end Standing

/-- The terms on which a task works: what it may count on while others work on the same read models,
and what it promises them. -/
structure Accord where
  /-- Whether calls may fail that need not fail. -/
  faulty : Prop
  /-- How the committed state may change behind the task's back. -/
  drift : ReadModels → ReadModels → Prop
  drift_refl : ∀ m, drift m m
  drift_trans : ∀ {m n k}, drift m n → drift n k → drift m k
  /-- What a transaction that began in one state may commit. -/
  commits : ReadModels → ReadModels → Prop
  /-- What the task may write into the ledger outside of a transaction. -/
  notes : Standing → OutcomeRecord → Prop
  /-- Which calls the task may make at all. -/
  admits : Standing → Call → Prop
  admits_allowed : ∀ {σ c}, σ.allows c → admits σ c

namespace Accord

/-- A reply to a call on the task's transaction. -/
def within (A : Accord) (σ : Standing) (run : ReadModels → α × Standing) :
    Except (Halt ProjectionError) α → Standing → Prop
  | .ok a, σ' => ∃ copy, σ.copy = some copy ∧ (a, σ') = run copy
  | .error halt, σ' =>
    A.faulty ∧ σ' = σ.hit ∨ σ.copy = none ∧ halt = .error .transactionClosed ∧ σ' = σ

/-- A reply to a call that needs the lock of the read models. -/
def locking (A : Accord) (σ : Standing) (run : ReadModels → α × Standing) :
    Except (Halt ProjectionError) α → Standing → Prop
  | .ok a, σ' => σ.copy = none ∧ ∃ m, A.drift σ.seen m ∧ (a, σ') = run m
  | .error _, σ' => A.faulty ∧ σ' = σ.hit

section Replies

variable {A : Accord} {σ σ' : Standing} {f : ReadModels → α × Standing}
  {reply : Except (Halt ProjectionError) α} {P : Except (Halt ProjectionError) α → Standing → Prop}

theorem within_elim (h : A.within σ f reply σ')
    (hok : ∀ copy, σ.copy = some copy → P (.ok (f copy).1) (f copy).2)
    (hhit : A.faulty → ∀ halt, P (.error halt) σ.hit)
    (hclosed : σ.copy = none → ∀ halt, P (.error halt) σ) : P reply σ' := by
  cases reply with
  | ok a =>
    obtain ⟨copy, hc, hr⟩ := h
    have hp := hok copy hc
    rw [← hr] at hp
    exact hp
  | error halt =>
    rcases h with ⟨hf, rfl⟩ | ⟨hc, _, rfl⟩
    · exact hhit hf halt
    · exact hclosed hc halt

theorem locking_elim (h : A.locking σ f reply σ')
    (hok : ∀ m, A.drift σ.seen m → P (.ok (f m).1) (f m).2)
    (hhit : A.faulty → ∀ halt, P (.error halt) σ.hit) : P reply σ' := by
  cases reply with
  | ok a =>
    obtain ⟨_, m, hm, hr⟩ := h
    have hp := hok m hm
    rw [← hr] at hp
    exact hp
  | error halt =>
    obtain ⟨hf, rfl⟩ := h
    exact hhit hf halt

theorem within_lost (h : A.within σ f reply σ') (hf : ∀ m, (f m).2.lost = σ.lost) :
    σ'.lost = σ.lost :=
  within_elim (P := fun _ σ' => σ'.lost = σ.lost) h (fun copy _ => hf copy) (fun _ _ => rfl)
    fun _ _ => rfl

theorem locking_lost (h : A.locking σ f reply σ') (hf : ∀ m, (f m).2.lost = σ.lost) :
    σ'.lost = σ.lost :=
  locking_elim (P := fun _ σ' => σ'.lost = σ.lost) h (fun m _ => hf m) fun _ _ => rfl

theorem within_keeps_struck (h : A.within σ f reply σ') (hf : ∀ m, (f m).2.struck = σ.struck)
    (hs : σ.struck = true) : σ'.struck = true :=
  within_elim (P := fun _ σ' => σ'.struck = true) h (fun copy _ => (hf copy).trans hs)
    (fun _ _ => rfl) fun _ _ => hs

theorem locking_keeps_struck (h : A.locking σ f reply σ') (hf : ∀ m, (f m).2.struck = σ.struck)
    (hs : σ.struck = true) : σ'.struck = true :=
  locking_elim (P := fun _ σ' => σ'.struck = true) h (fun m _ => (hf m).trans hs) fun _ _ => rfl

end Replies

/-- The replies to a call, and how the task stands after each. -/
def Reacts (A : Accord) (σ : Standing) : (c : Call) → c.Reply → Standing → Prop
  | .begin => A.locking σ fun m => ((), { σ with seen := m, copy := some m })
  | .find source eventType =>
    A.within σ fun m => (m.subscription? source eventType, σ.withCopy m)
  | .write w => A.within σ fun m => (m.finds w, σ.withCopy (m.write w))
  | .recordIn r => A.within σ fun m => (m.rowAfter r, σ.withCopy (m.record r))
  | .commit => A.within σ fun m => ((), σ.closed m)
  | .rollback => A.within σ fun _ => ((), σ.closed σ.seen)
  | .drop => fun _ σ' => σ' = σ.closed σ.seen
  | .record r => A.locking σ fun m => (m.rowAfter r, σ.closed (m.record r))
  | .count c => fun _ σ' => σ' = σ.countLost c
  | _ => fun _ σ' => σ' = σ

/-- A task that has been struck stays so. -/
theorem struck_of_reacts {A : Accord} {σ σ' : Standing} {c : Call} {reply : c.Reply}
    (h : A.Reacts σ c reply σ') (hs : σ.struck = true) : σ'.struck = true := by
  cases c with
  | begin => exact locking_keeps_struck h (fun _ => rfl) hs
  | record r => exact locking_keeps_struck h (fun _ => rfl) hs
  | find source eventType => exact within_keeps_struck h (fun _ => rfl) hs
  | write w => exact within_keeps_struck h (fun _ => rfl) hs
  | recordIn r => exact within_keeps_struck h (fun _ => rfl) hs
  | commit => exact within_keeps_struck h (fun _ => rfl) hs
  | rollback => exact within_keeps_struck h (fun _ => rfl) hs
  | count c =>
    cases h
    unfold Standing.countLost
    split <;> exact hs
  | _ =>
    cases h
    exact hs

/-- Whether a call keeps to the terms. -/
def Permits (A : Accord) (σ : Standing) (c : Call) : Prop :=
  A.admits σ c ∧
    match c with
    | .commit => ∀ copy, σ.copy = some copy → A.commits σ.seen copy
    | .record r => A.notes σ r
    | _ => True

end Accord

/-- A program keeps to the terms, and comes to an end only as `Q` says. -/
def Program.Meets (A : Accord) (Q : Standing → α → Prop) (p : Program α) (σ : Standing) : Prop :=
  p.Keeps A.Permits A.Reacts Q σ

namespace Program

variable {A : Accord}

theorem Meets.mono {p : Program α} {σ : Standing} {Q Q' : Standing → α → Prop}
    (h : p.Meets A Q σ) (hq : ∀ σ a, Q σ a → Q' σ a) : p.Meets A Q' σ :=
  Keeps.mono h hq

theorem Meets.struck {p : Program α} {σ : Standing} {Q : Standing → α → Prop} (h : p.Meets A Q σ)
    (hs : σ.struck = true) : p.Meets A (fun σ' a => Q σ' a ∧ σ'.struck = true) σ := by
  induction p generalizing σ with
  | done a => exact ⟨h, hs⟩
  | call c next ih =>
    exact ⟨h.1, fun reply σ' hr => ih reply (h.2 reply σ' hr) (Accord.struck_of_reacts hr hs)⟩

theorem meets_bind {p : Program α} {f : α → Program β} {σ : Standing} {Q : Standing → β → Prop} :
    (p >>= f).Meets A Q σ ↔ p.Meets A (fun σ a => (f a).Meets A Q σ) σ :=
  keeps_bind

theorem meets_pure {a : α} {σ : Standing} {Q : Standing → α → Prop} :
    (pure a : Program α).Meets A Q σ ↔ Q σ a := Iff.rfl

theorem meets_map {p : Program α} {f : α → β} {σ : Standing} {Q : Standing → β → Prop} :
    (f <$> p).Meets A Q σ ↔ p.Meets A (fun σ a => Q σ (f a)) σ :=
  keeps_map

end Program

namespace Projection

/-- A projection keeps to the terms; `Q` tells of the values that it gives and `E` of its halts. -/
def Meets (A : Accord) (Q : Standing → α → Prop) (E : Standing → Halt ProjectionError → Prop)
    (p : Projection α) (σ : Standing) : Prop :=
  p.run.Meets A (Ends Q E) σ

variable {A : Accord} {σ : Standing} {Q : Standing → α → Prop}
  {E : Standing → Halt ProjectionError → Prop}

theorem Meets.mono {p : Projection α} {Q' : Standing → α → Prop}
    {E' : Standing → Halt ProjectionError → Prop} (h : p.Meets A Q E σ)
    (hq : ∀ σ a, Q σ a → Q' σ a) (he : ∀ σ halt, E σ halt → E' σ halt) : p.Meets A Q' E' σ := by
  apply Program.Meets.mono h
  intro σ result
  cases result with
  | ok a => exact hq σ a
  | error halt => exact he σ halt

theorem Meets.struck {p : Projection α} (h : p.Meets A Q E σ) (hs : σ.struck = true) :
    p.Meets A (fun σ' a => Q σ' a ∧ σ'.struck = true) (fun σ' halt => E σ' halt ∧ σ'.struck = true)
      σ := by
  apply (Program.Meets.struck h hs).mono
  intro σ' result hq
  cases result with
  | ok a => exact hq
  | error halt => exact hq

theorem meets_bind {p : Projection α} {f : α → Projection β} {Q : Standing → β → Prop} :
    (p >>= f).Meets A Q E σ ↔ p.Meets A (fun σ a => (f a).Meets A Q E σ) E σ :=
  keeps_bind

theorem meets_settle {p : Projection α} {Q : Standing → Except (Halt ProjectionError) α → Prop} :
    p.settle.Meets A Q E σ ↔
      p.Meets A (fun σ a => Q σ (.ok a)) (fun σ halt => Q σ (.error halt)) σ :=
  keeps_settle

theorem meets_lift {p : Program α} :
    (liftM p : Projection α).Meets A Q E σ ↔ p.Meets A Q σ :=
  Program.meets_map

theorem meets_mk {p : Program (Except (Halt ProjectionError) α)} :
    Meets A Q E (.mk p) σ ↔ p.Meets A (Ends Q E) σ := Iff.rfl

theorem ends_of_within {f : ReadModels → α × Standing} {copy : ReadModels}
    {reply : Except (Halt ProjectionError) α} {σ' : Standing} (hr : A.within σ f reply σ')
    (hc : σ.copy = some copy) (hq : Q (f copy).2 (f copy).1)
    (he : A.faulty → ∀ halt, E σ.hit halt) : Ends Q E σ' reply := by
  refine Accord.within_elim (P := fun reply σ' => Ends Q E σ' reply) hr (fun copy' hc' => ?_) he
    fun hn => ?_
  · rw [hc] at hc'
    obtain rfl := Option.some.inj hc'
    exact hq
  · rw [hc] at hn
    cases hn

theorem ends_of_locking {f : ReadModels → α × Standing}
    {reply : Except (Halt ProjectionError) α} {σ' : Standing} (hr : A.locking σ f reply σ')
    (hq : ∀ m, A.drift σ.seen m → Q (f m).2 (f m).1)
    (he : A.faulty → ∀ halt, E σ.hit halt) : Ends Q E σ' reply :=
  Accord.locking_elim (P := fun reply σ' => Ends Q E σ' reply) hr hq he

theorem meets_begin {Q : Standing → Unit → Prop} (hc : σ.copy = none)
    (hq : ∀ m, A.drift σ.seen m → Q { σ with seen := m, copy := some m } ())
    (he : A.faulty → ∀ halt, E σ.hit halt) : begin.Meets A Q E σ :=
  ⟨⟨A.admits_allowed hc, trivial⟩, fun _ _ hr => ends_of_locking hr hq he⟩

theorem meets_record {r : OutcomeRecord} {Q : Standing → Subscription → Prop}
    (hc : σ.copy = none) (hn : A.notes σ r)
    (hq : ∀ m, A.drift σ.seen m → Q (σ.closed (m.record r)) (m.rowAfter r))
    (he : A.faulty → ∀ halt, E σ.hit halt) : (record r).Meets A Q E σ :=
  ⟨⟨A.admits_allowed hc, hn⟩, fun _ _ hr => ends_of_locking hr hq he⟩

variable {copy : ReadModels}

theorem meets_find {source : AgentId} {eventType : EventType}
    {Q : Standing → Option Subscription → Prop} (hc : σ.copy = some copy)
    (hq : Q σ (copy.subscription? source eventType)) (he : A.faulty → ∀ halt, E σ.hit halt) :
    (find source eventType).Meets A Q E σ := by
  rw [← Standing.withCopy_self hc] at hq
  exact ⟨⟨A.admits_allowed trivial, trivial⟩, fun _ _ hr => ends_of_within hr hc hq he⟩

theorem meets_write {w : Write} {Q : Standing → Bool → Prop} (hc : σ.copy = some copy)
    (hq : Q (σ.withCopy (copy.write w)) (copy.finds w)) (he : A.faulty → ∀ halt, E σ.hit halt) :
    (write w).Meets A Q E σ :=
  ⟨⟨A.admits_allowed trivial, trivial⟩, fun _ _ hr => ends_of_within hr hc hq he⟩

theorem meets_recordIn {r : OutcomeRecord} {Q : Standing → Subscription → Prop}
    (hc : σ.copy = some copy) (hq : Q (σ.withCopy (copy.record r)) (copy.rowAfter r))
    (he : A.faulty → ∀ halt, E σ.hit halt) : (recordIn r).Meets A Q E σ :=
  ⟨⟨A.admits_allowed trivial, trivial⟩, fun _ _ hr => ends_of_within hr hc hq he⟩

theorem meets_commit {Q : Standing → Unit → Prop} (hc : σ.copy = some copy)
    (hk : A.commits σ.seen copy) (hq : Q (σ.closed copy) ())
    (he : A.faulty → ∀ halt, E σ.hit halt) : commit.Meets A Q E σ := by
  refine ⟨⟨A.admits_allowed trivial, ?_⟩,
    fun _ _ hr => ends_of_within hr hc hq he⟩
  intro copy' hc'
  rw [hc] at hc'
  obtain rfl := Option.some.inj hc'
  exact hk

theorem meets_rollback {Q : Standing → Unit → Prop} (hc : σ.copy = some copy)
    (hq : Q (σ.closed σ.seen) ()) (he : A.faulty → ∀ halt, E σ.hit halt) :
    rollback.Meets A Q E σ :=
  ⟨⟨A.admits_allowed trivial, trivial⟩, fun _ _ hr => ends_of_within hr hc hq he⟩

end Projection

namespace Program

variable {A : Accord} {σ : Standing}

theorem meets_drop {Q : Standing → Unit → Prop} (hq : Q (σ.closed σ.seen) ()) :
    drop.Meets A Q σ := by
  refine ⟨⟨A.admits_allowed trivial, trivial⟩, ?_⟩
  intro _ σ' hσ
  subst hσ
  exact hq

theorem meets_now {Q : Standing → Instant → Prop} (hq : ∀ time, Q σ time) : now.Meets A Q σ := by
  refine ⟨⟨A.admits_allowed trivial, trivial⟩, ?_⟩
  intro time σ' hσ
  subst hσ
  exact hq time

theorem meets_sleep {span : Span} {Q : Standing → Unit → Prop} (hq : Q σ ()) :
    (sleep span).Meets A Q σ := by
  refine ⟨⟨A.admits_allowed trivial, trivial⟩, ?_⟩
  intro _ σ' hσ
  subst hσ
  exact hq

theorem meets_log {level : LogLevel} {message : String} {fields : List (String × Json)}
    {Q : Standing → Unit → Prop} (hq : Q σ ()) : (log level message fields).Meets A Q σ := by
  refine ⟨⟨A.admits_allowed trivial, trivial⟩, ?_⟩
  intro _ σ' hσ
  subst hσ
  exact hq

theorem meets_count {c : Counter} {Q : Standing → Unit → Prop}
    (ha : c = .ledgerWriteFailed → σ.copy = none) (hq : Q (σ.countLost c) ()) :
    (count c).Meets A Q σ := by
  refine ⟨⟨A.admits_allowed ha, trivial⟩, ?_⟩
  intro _ σ' hσ
  subst hσ
  exact hq

end Program

end AgentFacts
