import AgentFacts.Proofs.Faithful
import AgentFacts.Proofs.Spares

namespace AgentFacts

namespace Ingress

variable {q q' : Ingress} {e : Envelope}

theorem promise_eq (q : Ingress) : ∃ line promised, q.promise = { q with line, promised } := by
  unfold promise
  split
  · exact ⟨q.line, q.promised, rfl⟩
  · split
    · exact ⟨_, _, rfl⟩
    · exact ⟨q.line, q.promised, rfl⟩

theorem take_eq_some (h : q.take = some (e, q')) :
    q.items = e :: q'.items ∧ q'.isOpen = q.isOpen ∧ q'.hasSenders = q.hasSenders := by
  unfold take at h
  split at h
  · cases h
  next rest hi =>
    obtain ⟨line, promised, hp⟩ := promise_eq { q with items := rest }
    rw [hp] at h
    cases h
    exact ⟨hi, rfl, rfl⟩

theorem take_eq_none (h : q.take = none) : q.items = [] := by
  unfold take at h
  split at h
  next hi => exact hi
  · cases h

end Ingress

/-- The envelope in the hands of a worker, and what is left to do for it. -/
def Worker.inHand? :
    Worker → Option (Envelope × Program (Except (Halt ProjectionError) DispatchOutcome))
  | .busy e rest => some (e, rest)
  | _ => none

namespace Pipeline

/-- A worker makes one call, is done with its envelope or looks for the next one. -/
def work (p : Pipeline) (index : Nat) : Pipeline :=
  match p.pool.workers[index]? with
  | none => p
  | some .stopped => p
  | some .idle => p.takeEnvelope index
  | some (.busy e (.done result)) => p.finishEnvelope index e result
  | some (.busy e (.call c next)) =>
    match p.world.answer (.worker index) c with
    | .reply reply world => { world, pool := p.pool.setWorker index (.busy e (next reply)) }
    | .wait world => { p with world }

/-- What becomes of a worker who looks for an envelope. -/
inductive Looked (p : Pipeline) (index : Nat) : Pipeline → Prop where
  | waits (idle : List Nat) (woken : List TaskId) :
      Looked p index { p with world := { p.world with idle, woken } }
  | takes {e : Envelope} {queue : Ingress} (took : p.world.queue.take = some (e, queue))
      (idle : List Nat) (woken : List TaskId) :
      Looked p index {
        world := { p.world with queue, idle, woken }
        pool := p.pool.setWorker index (.busy e (p.pool.executor.dispatch e).run) }
  | stops (empty : p.world.queue.items = []) (senders : p.world.queue.hasSenders = false)
      (idle : List Nat) (woken : List TaskId) :
      Looked p index {
        world := { p.world with idle, woken }
        pool := p.pool.setWorker index .stopped }

theorem stopWorker_eq (p : Pipeline) (index : Nat) :
    ∃ idle woken, p.stopWorker index =
      { world := { p.world with idle, woken }, pool := p.pool.setWorker index .stopped } := by
  unfold stopWorker
  dsimp only
  obtain ⟨woken, hw⟩ := World.wakeIdle_eq { p.world with
    idle := p.world.idle.filter (· != index) }
  obtain ⟨woken', hw'⟩ := World.wake_eq { p.world with
    idle := p.world.idle.filter (· != index), woken } .supervisor
  rw [hw, hw']
  exact ⟨_, _, rfl⟩

theorem looked_takeEnvelope {p : Pipeline} (hc : p.pool.cancelled = false) (index : Nat) :
    p.Looked index (p.takeEnvelope index) := by
  unfold takeEnvelope
  rw [hc, if_neg Bool.false_ne_true]
  dsimp only
  generalize (if p.world.idle.contains index then p.world.idle
    else p.world.idle ++ [index]) = idle
  split
  · exact .waits idle p.world.woken
  split
  next e queue ht =>
    obtain ⟨woken, hw⟩ := World.wakeIdle_eq { p.world with queue, idle := idle.tail }
    rw [hw]
    exact .takes ht idle.tail woken
  next ht =>
    split
    · exact .waits idle p.world.woken
    next hs =>
      obtain ⟨idle', woken, hst⟩ := stopWorker_eq p index
      rw [hst]
      exact .stops (Ingress.take_eq_none ht) (Bool.eq_false_iff.2 hs) idle' woken

/-- What all can count on when a worker of the pool goes on. -/
structure Worked (p p' : Pipeline) : Prop where
  pool : ∃ workers, p'.pool = { p.pool with workers }
  length : p'.pool.workers.length = p.pool.workers.length
  stopped : ∀ {i : Nat}, p'.pool.workers[i]? = some Worker.stopped →
    p.pool.workers[i]? = some Worker.stopped ∨
      p'.world.queue.items = [] ∧ p'.world.queue.hasSenders = false
  events : p'.world.events = p.world.events
  faults : p'.world.faults = p.world.faults
  streams : p'.world.streams = p.world.streams
  timer : ∀ n, p'.world.timerOf? (.client n) = p.world.timerOf? (.client n)
  isOpen : p'.world.queue.isOpen = p.world.queue.isOpen
  hasSenders : p'.world.queue.hasSenders = p.world.queue.hasSenders
  items : ∀ e ∈ p'.world.queue.items, e ∈ p.world.queue.items

/-- What becomes of an envelope that was put on the queue: it is still there, in the hands of a
worker, or visible if it is valid. -/
inductive Accounts (p : Pipeline) (e : Envelope) : Prop where
  | queued (items : e ∈ p.world.queue.items)
  | inHand {index : Nat} {rest : Program (Except (Halt ProjectionError) DispatchOutcome)}
      (worker : p.pool.workers[index]?.bind Worker.inHand? = some (e, rest))
  | settled (stale : e.isValid = true → p.world.models.committed.Stale e)

variable {p p' : Pipeline} {index : Nat} {worker : Worker} {world : World} {e : Envelope}

theorem Accounts.same (h : p.Accounts e) (hw : p'.pool.workers = p.pool.workers)
    (hd : p.world.models.committed.Since p'.world.models.committed)
    (hq : e ∈ p.world.queue.items → e ∈ p'.world.queue.items) : p'.Accounts e := by
  cases h with
  | queued hi => exact .queued (hq hi)
  | inHand hr => exact .inHand (hw ▸ hr)
  | settled hs => exact .settled fun hv => hd.stale (hs hv)

theorem Accounts.set (h : p.Accounts e)
    (hd : p.world.models.committed.Since world.models.committed)
    (hq : e ∈ p.world.queue.items → Accounts { world, pool := p.pool.setWorker index worker } e)
    (hi : ∀ rest, p.pool.workers[index]?.bind Worker.inHand? = some (e, rest) →
      Accounts { world, pool := p.pool.setWorker index worker } e) :
    Accounts { world, pool := p.pool.setWorker index worker } e := by
  cases h with
  | queued hm => exact hq hm
  | @inHand i rest hw =>
    by_cases hne : index = i
    · subst hne
      exact hi rest hw
    · refine @inHand _ _ i rest ?_
      change (p.pool.workers.set index worker)[i]?.bind _ = _
      rw [List.getElem?_set_ne hne]
      exact hw
  | settled hs => exact .settled fun hv => hd.stale (hs hv)

theorem getElem?_of_set {workers : List Worker} {worker' : Worker} {i : Nat}
    (h : (workers.set index worker)[i]? = some worker') :
    workers[i]? = some worker' ∨ worker = worker' := by
  by_cases hne : index = i
  · subst hne
    rw [List.getElem?_set_self'] at h
    cases hi : workers[index]? with
    | none =>
      rw [hi] at h
      cases h
    | some old =>
      rw [hi] at h
      exact .inr (Option.some.inj h)
  · rw [List.getElem?_set_ne hne] at h
    exact .inl h

/-- A worker has gone on, or waits, with what it has in hand. -/
theorem worked_of_spares (hw : World.Spares (.worker index) p.world world) {workers : List Worker}
    (hl : workers.length = p.pool.workers.length)
    (hs : ∀ {i : Nat}, workers[i]? = some Worker.stopped →
      p.pool.workers[i]? = some Worker.stopped) :
    p.Worked { world, pool := { p.pool with workers } } where
  pool := ⟨_, rfl⟩
  length := hl
  stopped h := .inl (hs h)
  events := hw.events
  faults := hw.faults
  streams := hw.streams
  timer n := hw.timer (.client n) (fun h => by cases h)
  isOpen := congrArg _ hw.queue
  hasSenders := congrArg _ hw.queue
  items e he := by
    rw [← hw.queue]
    exact he

theorem worked_set (hw : World.Spares (.worker index) p.world world) (hn : worker ≠ .stopped) :
    p.Worked { world, pool := p.pool.setWorker index worker } :=
  worked_of_spares hw List.length_set fun h => (getElem?_of_set h).resolve_right hn

theorem worked_of_looked (h : p.Looked index p') : p.Worked p' := by
  cases h with
  | waits idle woken =>
    exact ⟨⟨_, rfl⟩, rfl, .inl, rfl, rfl, rfl, fun _ => rfl, rfl, rfl, fun _ => id⟩
  | takes took idle woken =>
    obtain ⟨hi, ho, hs⟩ := Ingress.take_eq_some took
    refine ⟨⟨_, rfl⟩, List.length_set, fun h => ?_, rfl, rfl, rfl, fun _ => rfl, ho, hs,
      fun e he => ?_⟩
    · exact (getElem?_of_set h).imp_right fun he => by cases he
    · rw [hi]
      exact List.mem_cons_of_mem _ he
  | stops empty senders idle woken =>
    exact ⟨⟨_, rfl⟩, List.length_set,
      fun h => (getElem?_of_set h).imp_right fun _ => ⟨empty, senders⟩,
      rfl, rfl, rfl, fun _ => rfl, rfl, rfl, fun _ => id⟩

theorem Accounts.looked (h : p.Accounts e) (hn : p.pool.workers[index]? = some .idle)
    (hl : p.Looked index p') : p'.Accounts e := by
  have hhand : p.pool.workers[index]?.bind Worker.inHand? = none := by
    rw [hn]
    rfl
  cases hl with
  | waits idle woken => exact h.same rfl (.refl _) id
  | @takes taken queue took idle woken =>
    obtain ⟨hi, -, -⟩ := Ingress.take_eq_some took
    refine h.set (.refl _) (fun hm => ?_) fun rest hr => ?_
    · rw [hi] at hm
      rcases List.mem_cons.1 hm with rfl | hm
      · refine @inHand _ _ index (p.pool.executor.dispatch e).run ?_
        change (p.pool.workers.set index _)[index]?.bind _ = _
        rw [List.getElem?_set_self', hn]
        rfl
      · exact .queued hm
    · rw [hhand] at hr
      cases hr
  | stops empty senders idle woken =>
    refine h.set (.refl _) (fun hm => .queued hm) fun rest hr => ?_
    rw [hhand] at hr
    cases hr

end Pipeline

/-- A crew whose members do what the workers of a pool do. -/
structure Crew.Mirrors (c : Crew) (p : Pipeline) : Prop where
  world : c.world = p.world
  errand : ∀ i : Nat, (c.errand (.worker i)).map (fun a => (a.envelope, a.rest)) =
    p.pool.workers[i]?.bind Worker.inHand?
  others : ∀ {task}, (∀ i : Nat, task ≠ .worker i) → c.errand task = none

/-- The pool has gone on by one step of a worker, and a crew that keeps to its charter with it. -/
structure Pipeline.Mirrored (K : Charter) (p : Pipeline) (c : Crew) (p' : Pipeline) : Prop where
  crew : ∃ c', c'.Mirrors p' ∧ c'.Sound K ∧ c.Did K c'
  worked : p.Worked p'
  accounts : ∀ {e}, p.Accounts e → p'.Accounts e

namespace Crew.Mirrors

variable {c : Crew} {p p' : Pipeline} {index : Nat} {worker : Worker} {world : World}

theorem committed (h : c.Mirrors p) : c.committed = p.world.models.committed :=
  congrArg (·.models.committed) h.world

theorem errand_eq_none (h : c.Mirrors p) (hw : p.pool.workers[index]?.bind Worker.inHand? = none) :
    c.errand (.worker index) = none :=
  Option.map_eq_none_iff.1 ((h.errand index).trans hw)

theorem errand_of_busy (h : c.Mirrors p) {e : Envelope}
    {rest : Program (Except (Halt ProjectionError) DispatchOutcome)}
    (hn : p.pool.workers[index]? = some (.busy e rest)) :
    ∃ errand, c.errand (.worker index) = some errand ∧ errand.envelope = e ∧
      errand.rest = rest := by
  have herr := h.errand index
  rw [hn] at herr
  obtain ⟨errand, hb, he⟩ := Option.map_eq_some_iff.1 herr
  exact ⟨errand, hb, (Prod.mk.inj he).1, (Prod.mk.inj he).2⟩

theorem idle (h : c.Mirrors p)
    (hw : ∀ i : Nat, p.pool.workers[i]?.bind Worker.inHand? = none) (task : TaskId) :
    c.errand task = none := by
  by_cases ht : ∃ i : Nat, task = .worker i
  · obtain ⟨i, rfl⟩ := ht
    exact h.errand_eq_none (hw i)
  · exact h.others fun i hi => ht ⟨i, hi⟩

theorem same (h : c.Mirrors p) (world : World) : Mirrors { c with world } { p with world } :=
  ⟨rfl, h.errand, h.others⟩

theorem set (h : c.Mirrors p) {errand : Option Errand} {history : List Deed}
    (hi : index < p.pool.workers.length)
    (he : errand.map (fun a => (a.envelope, a.rest)) = worker.inHand?) :
    Mirrors { c.assign (.worker index) errand with world, history }
      { world, pool := p.pool.setWorker index worker } where
  world := rfl
  errand i := by
    change ((c.assign (.worker index) errand).errand (.worker i)).map _ =
      (p.pool.workers.set index worker)[i]?.bind _
    by_cases hne : i = index
    · subst hne
      rw [assign_self, List.getElem?_set_self hi]
      exact he
    · rw [assign_ne (by simpa using hne), List.getElem?_set_ne (Ne.symm hne)]
      exact h.errand i
  others ht := (assign_ne (ht index) errand).trans (h.others ht)

variable {keep : Envelope → Prop}

/-- Whoever looks for an envelope does so on its own, and takes it on the charter's terms. -/
theorem looked (h : c.Mirrors p) (hx : Registry.standard = .ok p.pool.executor.registry)
    (hs : c.Sound (.standard p.pool.executor False keep))
    (hq : ∀ e ∈ p.world.queue.items, keep e) (hn : p.pool.workers[index]? = some .idle)
    (hl : p.Looked index p') : p.Mirrored (.standard p.pool.executor False keep) c p' := by
  refine ⟨?_, Pipeline.worked_of_looked hl, fun ha => ha.looked hn hl⟩
  have hi := (List.getElem?_eq_some_iff.1 hn).1
  have hnone : c.errand (.worker index) = none := h.errand_eq_none (by rw [hn]; rfl)
  have hm := congrArg World.models h.world
  cases hl with
  | waits idle woken =>
    exact ⟨_, h.same _, hs.same (congrArg _ hm.symm) (congrArg _ hm.symm),
      .nothing h.committed.symm rfl⟩
  | @takes e queue took idle woken =>
    have hk : keep e := hq e ((Ingress.take_eq_some took).1 ▸ List.mem_cons_self)
    have ht := sound_take hs (Charter.standard_upheld hx hk) hnone
    exact ⟨_, h.set hi rfl, ht.same (congrArg _ hm.symm) (congrArg _ hm.symm),
      .nothing h.committed.symm rfl⟩
  | stops empty senders idle woken =>
    have hset : Mirrors { c.assign (.worker index) none with world := { p.world with idle, woken } }
        { world := { p.world with idle, woken }, pool := p.pool.setWorker index .stopped } :=
      h.set hi rfl
    rw [assign_same hnone] at hset
    exact ⟨_, hset, hs.same (congrArg _ hm.symm) (congrArg _ hm.symm),
      .nothing h.committed.symm rfl⟩

theorem finished (h : c.Mirrors p) (hs : c.Sound (.standard p.pool.executor False keep))
    {e : Envelope} {result : Except (Halt ProjectionError) DispatchOutcome}
    (hn : p.pool.workers[index]? = some (.busy e (.done result))) :
    p.Mirrored (.standard p.pool.executor False keep) c (p.finishEnvelope index e result) := by
  have hi := (List.getElem?_eq_some_iff.1 hn).1
  obtain ⟨errand, hb, rfl, hrest⟩ := h.errand_of_busy hn
  obtain ⟨world, hw, hworld, hspare⟩ : ∃ world : World, world.models = c.world.models ∧
      p.finishEnvelope index errand.envelope result =
        { world, pool := p.pool.setWorker index .idle } ∧
      World.Spares (.worker index) p.world world := by
    rw [h.world]
    cases result with
    | ok outcome => exact ⟨p.world, rfl, rfl, .refl _ _⟩
    | error halt =>
      exact ⟨p.world.withJournal _, rfl, rfl, rfl, rfl, rfl, rfl, fun _ _ => rfl⟩
  rw [hworld]
  have hc : p.world.models.committed = world.models.committed := by rw [hw, h.world]
  refine ⟨?_, Pipeline.worked_set hspare (fun h => by cases h), fun ha => ?_⟩
  · have hf := sound_finish hs hb (by rw [hrest]; rfl)
    exact ⟨_, h.set hi rfl, hf.same (congrArg _ hw) (congrArg _ hw),
      .nothing (congrArg ModelStore.committed hw) rfl⟩
  refine ha.set (hc ▸ .refl _) (fun hq => .queued (hspare.queue ▸ hq)) fun rest hr => ?_
  rw [hn] at hr
  obtain ⟨rfl, -⟩ := Prod.mk.inj (Option.some.inj hr)
  obtain ⟨σ, hkept⟩ := hs.busy hb
  have hend := hkept.meets
  rw [hrest] at hend
  refine .settled fun hv => ?_
  obtain ⟨w, hw'⟩ := Envelope.isValid_iff.1 hv
  have hdrift := (hkept.fits.outside hend.1).2
  rw [← hw] at hdrift
  exact ReadModels.Since.stale hdrift (hend.2.resolve_left (·.1) w hw')

/-- A call of a worker is a call of the member who mirrors it. -/
theorem called (h : c.Mirrors p) (hs : c.Sound (.standard p.pool.executor False keep))
    (hf : p.world.faults = .none) {e : Envelope} {k : Call}
    {next : k.Reply → Program (Except (Halt ProjectionError) DispatchOutcome)}
    (hn : p.pool.workers[index]? = some (.busy e (.call k next))) :
    p.Mirrored (.standard p.pool.executor False keep) c (p.work index) := by
  have hi := (List.getElem?_eq_some_iff.1 hn).1
  obtain ⟨errand, hb, rfl, hrest⟩ := h.errand_of_busy hn
  obtain ⟨σ, hkept⟩ := hs.busy hb
  have hmeets := hkept.meets
  rw [hrest] at hmeets
  have hspare : World.Spares (.worker index) p.world _ := World.spares_answer hmeets.1.1 hf
  obtain ⟨hs', hd⟩ := sound_call (fun hne => hne (by rw [h.world, hf])) hs hb
  have hsince := drift_of_did hd
  rw [h.committed] at hsince
  unfold Pipeline.work
  rw [hn]
  unfold call at hs' hd hsince
  rw [hrest, h.world] at hs' hd hsince
  dsimp only at hs' hd hsince ⊢
  cases ha : p.world.answer (.worker index) k with
  | reply reply world =>
    rw [ha] at hspare hs' hd hsince
    refine ⟨⟨_, h.set hi rfl, hs', hd⟩, Pipeline.worked_set hspare (fun h => by cases h),
      fun hacc => hacc.set hsince (fun hq => .queued (hspare.queue ▸ hq)) fun rest hr => ?_⟩
    rw [hn] at hr
    obtain ⟨rfl, -⟩ := Prod.mk.inj (Option.some.inj hr)
    refine @Pipeline.Accounts.inHand _ _ index (next reply) ?_
    change (p.pool.workers.set index _)[index]?.bind _ = _
    rw [List.getElem?_set_self hi]
    rfl
  | wait world =>
    rw [ha] at hspare hs' hd hsince
    exact ⟨⟨_, h.same world, hs', hd⟩, Pipeline.worked_of_spares hspare rfl id,
      fun hacc => hacc.same rfl hsince (hspare.queue ▸ id)⟩

/-- Every step of a worker is one that a member of the crew can make. -/
theorem work (h : c.Mirrors p) (hx : Registry.standard = .ok p.pool.executor.registry)
    (hs : c.Sound (.standard p.pool.executor False keep)) (hf : p.world.faults = .none)
    (hc : p.pool.cancelled = false) (hq : ∀ e ∈ p.world.queue.items, keep e) (index : Nat) :
    p.Mirrored (.standard p.pool.executor False keep) c (p.work index) := by
  have hstill : p.Mirrored (.standard p.pool.executor False keep) c p :=
    ⟨⟨c, h, hs, .nothing rfl rfl⟩, Pipeline.worked_of_spares (.refl (.worker index) _) rfl id, id⟩
  cases hn : p.pool.workers[index]? with
  | none =>
    rw [show p.work index = p by unfold Pipeline.work; rw [hn]]
    exact hstill
  | some worker =>
    cases worker with
    | stopped =>
      rw [show p.work index = p by unfold Pipeline.work; rw [hn]]
      exact hstill
    | idle =>
      rw [show p.work index = p.takeEnvelope index by unfold Pipeline.work; rw [hn]]
      exact h.looked hx hs hq hn (Pipeline.looked_takeEnvelope hc index)
    | busy e rest =>
      cases rest with
      | done result =>
        rw [show p.work index = p.finishEnvelope index e result by
          unfold Pipeline.work; rw [hn]]
        exact h.finished hs hn
      | call k next => exact h.called hs hf hn

end Crew.Mirrors

end AgentFacts
