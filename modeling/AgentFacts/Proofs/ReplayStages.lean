import AgentFacts.Proofs.Bystanders
import AgentFacts.Replay

namespace AgentFacts

/-- What shows of a replay: what has come of opening its stream, the items that the stream has
yielded, and the envelopes that have been put on the queue. -/
structure Course where
  opened : Option (Except (Halt EventLogError) (List Envelope))
  yielded : List (Except (Halt EventLogError) Envelope)
  queued : List Envelope

namespace Course

def held (φ : Course) : List Envelope :=
  match φ.opened with
  | some (.ok held) => held
  | _ => []

/-- What is new at the end of the queue has been put there. -/
def grow (φ : Course) (before later : World) : Course :=
  { φ with
    queued := φ.queued ++ later.queue.items.drop before.queue.items.length }

/-- A call has been answered. A stream is for the envelopes with a greater id that the log holds at
the time. -/
def note (after : Option EnvelopeId) (φ : Course) (before : World) :
    (c : Call) → c.Reply → Course
  | .openStream _, .error halt => { φ with opened := some (.error halt) }
  | .openStream _, .ok _ =>
    { φ with
      opened := some (.ok (before.events.envelopes.filter fun e => ∀ id ∈ after, id < e.id)) }
  | .nextItem, some item => { φ with yielded := φ.yielded ++ [item] }
  | _, _ => φ

theorem grow_eq {φ : Course} {before later : World} {queued : List Envelope}
    (h : before.queue.Grows later.queue queued) :
    φ.grow before later = { φ with queued := φ.queued ++ queued } := by
  unfold grow
  rw [h.items, List.drop_left]

theorem queued_note (φ : Course) (after : Option EnvelopeId) (before : World) (c : Call)
    (reply : c.Reply) : (φ.note after before c reply).queued = φ.queued := by
  unfold note
  split <;> rfl

end Course

theorem EventLog.after_eq (log : EventLog) (after : Option EnvelopeId) :
    log.after after = log.envelopes.filter fun e => ∀ id ∈ after, id < e.id := by
  refine List.filter_congr fun e _ => ?_
  cases after with
  | none => simp
  | some bound => simp

namespace World

/-- What comes of sending without a limit of time. -/
inductive Sends (client : Nat) (w : World) (e : Envelope) : Reaction SendResult → Prop where
  | accepted {w' : World} (leaves : Leaves client w w') (grows : w.queue.Grows w'.queue [e]) :
      Sends client w e (.reply .accepted w')
  | closed {w' : World} (leaves : Leaves client w w') (grows : w.queue.Grows w'.queue [])
      (closed : w.queue.isOpen = false) : Sends client w e (.reply .closed w')
  | waits {w' : World} (leaves : Leaves client w w') (grows : w.queue.Grows w'.queue [])
      (opened : w.queue.isOpen = true) : Sends client w e (.wait w')

variable {client : Nat} {w : World}

theorem leaves_clearTimer_self (h : w.timerOf? (.client client) = none) :
    Leaves client w (w.clearTimer (.client client)) :=
  ⟨rfl, (timerOf?_clearTimer_self w _).trans h.symm, id, id⟩

/-- Who does not wait for a time is accepted, turned away for good or waits for room. -/
theorem sends_waiting (h : w.timerOf? (.client client) = none) (e : Envelope) :
    Sends client w e (w.send (.client client) e none) := by
  have hoffer := w.queue.offer_grows (.client client) e
  unfold send
  split
  next hq =>
    rw [hq] at hoffer
    have hforget := w.queue.grows_forget (.client client)
    have hw := leaves_queue hforget client
    exact .closed (hw.trans (leaves_clearTimer_self h)) hforget hoffer
  next queue hq =>
    rw [hq] at hoffer
    have hw := (leaves_queue hoffer client).trans (leaves_clearTimer_self h)
    obtain ⟨woken, hwoken⟩ := wakeIdle_eq ({ w with queue }.clearTimer (.client client))
    rw [hwoken]
    exact .accepted (hw.trans (leaves_of_same client rfl rfl rfl rfl)) hoffer
  next queue hq =>
    rw [hq] at hoffer
    have hexpired : isExpired { w with queue } (.client client) = false := by
      change Option.any _ (w.timerOf? (.client client)) = false
      rw [h]
      rfl
    have hopen : w.queue.isOpen = true := by
      cases ho : w.queue.isOpen with
      | true => rfl
      | false =>
        unfold Ingress.offer at hq
        rw [ho] at hq
        cases hq
    change Sends client w e (if isExpired { w with queue } (.client client) = true then _ else _)
    rw [if_neg (Bool.eq_false_iff.1 hexpired)]
    exact .waits (leaves_queue hoffer client) hoffer hopen

end World

namespace Replay

def statsOf (queued : List Envelope) : ReplayStats :=
  ⟨queued.length, (queued.map (·.id)).getLast?⟩

/-- Where a replay stands, with what it has queued and what is left of the stream. In `counting`
the last one queued has not been counted yet; in `broken` the stream has yielded an error, in
the place of an envelope or of its end; in `telling` it has come to its end, and that has not
been told yet. -/
inductive Stage where
  | opening
  | asking (queued rest : List Envelope)
  | sending (queued : List Envelope) (next : Envelope) (rest : List Envelope)
  | counting (queued rest : List Envelope)
  | unopened (halt : Halt EventLogError)
  | broken (queued rest : List Envelope) (halt : Halt EventLogError)
  | telling (queued : List Envelope)
  | refused (queued : List Envelope) (next : Envelope) (rest : List Envelope)
  | complete (queued : List Envelope)

namespace Stage

def course : Stage → Course
  | .opening => ⟨none, [], []⟩
  | .asking queued rest => ⟨some (.ok (queued ++ rest)), queued.map .ok, queued⟩
  | .sending queued next rest =>
    ⟨some (.ok (queued ++ next :: rest)), (queued ++ [next]).map .ok, queued⟩
  | .counting queued rest => ⟨some (.ok (queued ++ rest)), queued.map .ok, queued⟩
  | .unopened halt => ⟨some (.error halt), [], []⟩
  | .broken queued rest halt =>
    ⟨some (.ok (queued ++ rest)), queued.map .ok ++ [.error halt], queued⟩
  | .telling queued => ⟨some (.ok queued), queued.map .ok, queued⟩
  | .refused queued next rest =>
    ⟨some (.ok (queued ++ next :: rest)), (queued ++ [next]).map .ok, queued⟩
  | .complete queued => ⟨some (.ok queued), queued.map .ok, queued⟩

def result? : Stage → Option (Except (Halt PipelineError) ReplayStats)
  | .unopened halt => some (.error (ofEventLog halt))
  | .broken _ _ halt => some (.error (ofEventLog halt))
  | .refused _ _ _ => some (.error (.error (.enqueue .closed)))
  | .complete queued => some (.ok (statsOf queued))
  | _ => none

def calls : Stage → Nat
  | .opening => 3
  | .asking _ _ => 2
  | .sending _ _ _ => 1
  | .counting _ _ => 3
  | .telling _ => 1
  | _ => 0

/-- The calls that a replay makes. -/
inductive Permits (after : Option EnvelopeId) : Stage → Call → Prop where
  | opening : Permits after .opening (.openStream after)
  | asking (queued rest : List Envelope) : Permits after (.asking queued rest) .nextItem
  | sending (queued : List Envelope) (e : Envelope) (rest : List Envelope) :
      Permits after (.sending queued e rest) (.send e none)
  | counting (queued rest : List Envelope) (counter : Counter) :
      Permits after (.counting queued rest) (.count counter)
  | telling (queued : List Envelope) (event : LogEvent) :
      Permits after (.telling queued) (.log event)

/-- How a replay goes on with a reply. -/
inductive Goes : Stage → (c : Call) → c.Reply → Stage → Prop where
  | opens (after : Option EnvelopeId) (held : List Envelope) :
      Goes .opening (.openStream after) (.ok (held.length + 1)) (.asking [] held)
  | fails (after : Option EnvelopeId) (halt : Halt EventLogError) :
      Goes .opening (.openStream after) (.error halt) (.unopened halt)
  | yields (queued : List Envelope) (e : Envelope) (rest : List Envelope) :
      Goes (.asking queued (e :: rest)) .nextItem (some (.ok e)) (.sending queued e rest)
  | ends (queued : List Envelope) : Goes (.asking queued []) .nextItem none (.telling queued)
  | breaks (queued rest : List Envelope) (halt : Halt EventLogError) :
      Goes (.asking queued rest) .nextItem (some (.error halt)) (.broken queued rest halt)
  | accepted (queued : List Envelope) (e : Envelope) (rest : List Envelope) :
      Goes (.sending queued e rest) (.send e none) SendResult.accepted
        (.counting (queued ++ [e]) rest)
  | refused (queued : List Envelope) (e : Envelope) (rest : List Envelope) :
      Goes (.sending queued e rest) (.send e none) SendResult.closed (.refused queued e rest)
  | counted (queued rest : List Envelope) (counter : Counter) :
      Goes (.counting queued rest) (.count counter) () (.asking queued rest)
  | told (queued : List Envelope) (event : LogEvent) :
      Goes (.telling queued) (.log event) () (.complete queued)

end Stage

theorem statsOf_snoc (queued : List Envelope) (e : Envelope) :
    statsOf (queued ++ [e]) = ⟨(statsOf queued).enqueued + 1, some e.id⟩ := by
  simp [statsOf]

variable {after : Option EnvelopeId}

/-- What is left of the stream is queued, envelope by envelope, up to where the replay stops. -/
theorem stages_feed (queued rest : List Envelope) :
    (feed (statsOf queued) (rest.length + 1)).run.Keeps (Stage.Permits after) Stage.Goes
      (fun σ result => match result with
        | .ok stats => σ = .telling (queued ++ rest) ∧ stats = statsOf (queued ++ rest)
        | .error halt => σ.result? = some (.error halt)) (.asking queued rest) := by
  induction rest generalizing queued with
  | nil =>
    refine ⟨.asking queued [], ?_⟩
    intro item σ hitem
    cases hitem with
    | breaks => rfl
    | ends => exact ⟨by rw [List.append_nil], by rw [List.append_nil]⟩
  | cons e rest ih =>
    refine ⟨.asking queued (e :: rest), ?_⟩
    intro item σ hitem
    cases hitem with
    | breaks => rfl
    | yields =>
      refine ⟨.sending queued e rest, ?_⟩
      intro result σ hresult
      cases hresult with
      | refused => rfl
      | accepted =>
        refine ⟨.counting _ rest .replayed, ?_⟩
        intro reply σ hreply
        cases hreply with
        | counted =>
          have hnext := ih (queued ++ [e])
          rw [statsOf_snoc, List.append_assoc] at hnext
          exact hnext

/-- A replay goes through its stages, and returns as its last one has it. -/
theorem stages_run (after : Option EnvelopeId) :
    (run after).run.Keeps (Stage.Permits after) Stage.Goes
      (fun σ result => σ.result? = some result) .opening := by
  refine ⟨.opening, ?_⟩
  intro reply σ hreply
  cases hreply with
  | fails _ halt => rfl
  | opens _ held =>
    change (feed (statsOf []) (held.length + 1) >>= fun stats => do
      Program.log .info "replay complete"
        [("enqueued", .nat stats.enqueued),
          ("last_envelope_id", .text (lastText stats.lastEnvelope))]
      return stats).run.Keeps _ _ _ _
    rw [ExceptT.run_bind, Program.keeps_bind]
    refine (stages_feed [] held).mono fun σ result h => ?_
    cases result with
    | error halt => exact h
    | ok stats =>
      obtain ⟨rfl, rfl⟩ := h
      refine ⟨.telling _ _, ?_⟩
      intro reply σ hreply
      cases hreply with
      | told => rfl

namespace Stage

def left? : Stage → Option (List Envelope)
  | .asking _ rest => some rest
  | .sending _ _ rest => some rest
  | .counting _ rest => some rest
  | _ => none

/-- The world has for a replay what it needs where it stands. -/
structure Fits (client : Nat) (σ : Stage) (w : World) : Prop where
  stream : ∀ {rest}, σ.left? = some rest → (w.streams.lookup (.client client)).getD [] = rest
  timer : w.timerOf? (.client client) = none
  refused : ∀ {queued e rest}, σ = .refused queued e rest → w.queue.isOpen = false
  ascending : w.events.Ascending
  held : σ.course.held.Pairwise (·.id < ·.id)

variable {client : Nat} {σ σ' : Stage} {w w' : World}

theorem Fits.leaves (h : σ.Fits client w) (hl : World.Leaves client w w') : σ.Fits client w' where
  stream hr := (congrArg (·.getD []) hl.stream).trans (h.stream hr)
  timer := hl.timer.trans h.timer
  refused he := hl.closed (h.refused he)
  ascending := hl.ascending h.ascending
  held := h.held

/-- The next stage is about the same envelopes and what is left of the same stream. -/
theorem Fits.turn (h : σ.Fits client w)
    (hs : ∀ {rest}, σ'.left? = some rest → σ.left? = some rest)
    (hr : ∀ {queued e rest}, σ' = .refused queued e rest → w.queue.isOpen = false)
    (hh : σ'.course.held = σ.course.held) : σ'.Fits client w where
  stream hl := h.stream (hs hl)
  timer := h.timer
  refused := hr
  ascending := h.ascending
  held := hh ▸ h.held

/-- A call of a replay has been answered: it has gone on to its next stage, as has been noted. -/
structure Answers (client : Nat) (after : Option EnvelopeId) (σ : Stage) (w : World) (c : Call)
    (reply : c.Reply) (w' : World) (σ' : Stage) : Prop where
  goes : σ.Goes c reply σ'
  fits : σ'.Fits client w'
  noted : (σ.course.note after w c reply).grow w w' = σ'.course
  closed : w.queue.isOpen = false →
    w'.queue.isOpen = false ∧ σ'.course.queued = σ.course.queued

theorem answers_of_grows {after : Option EnvelopeId} {c : Call} {reply : c.Reply}
    {queued : List Envelope} (hg : σ.Goes c reply σ') (hf : σ'.Fits client w')
    (hq : w.queue.Grows w'.queue queued)
    (hn : { σ.course.note after w c reply with
      queued := (σ.course.note after w c reply).queued ++ queued } = σ'.course) :
    σ.Answers client after w c reply w' σ' where
  goes := hg
  fits := hf
  noted := (Course.grow_eq hq).trans hn
  closed ho := by
    refine ⟨hq.isOpen.trans ho, ?_⟩
    rw [← hn, hq.opened ho]
    exact (List.append_nil _).trans (Course.queued_note _ after w c reply)

theorem answers_openStream {after : Option EnvelopeId} {reply : Except (Halt EventLogError) Nat}
    (h : Stage.opening.Fits client w)
    (ha : w.openStream (.client client) after = .reply reply w') :
    ∃ σ', Stage.opening.Answers client after w (.openStream after) reply w' σ' := by
  unfold World.openStream at ha
  split at ha
  next halt faults _ =>
    cases ha
    have hw : World.Leaves client w { w with faults } :=
      World.leaves_of_same client rfl rfl rfl rfl
    refine ⟨.unopened halt, answers_of_grows (.fails after halt) ?_ (.refl _) rfl⟩
    exact (h.leaves hw).turn (fun hs => by cases hs) (fun hr => by cases hr) rfl
  next faults _ =>
    cases ha
    refine ⟨.asking [] (w.events.after after),
      answers_of_grows (.opens after _) ⟨?_, h.timer, ?_, h.ascending, ?_⟩ (.refl _) ?_⟩
    · intro rest hs
      cases hs
      simp
    · intro queued e rest hr
      cases hr
    · exact h.ascending.ids.sublist List.filter_sublist
    · change Course.mk (some (.ok _)) [] [] = Course.mk (some (.ok ([] ++ _))) [] []
      rw [List.nil_append, EventLog.after_eq]

theorem answers_broken {after : Option EnvelopeId} {queued rest : List Envelope}
    (h : (Stage.asking queued rest).Fits client w) (halt : Halt EventLogError)
    (faults : FaultPlan) (streams : List (TaskId × List Envelope)) :
    (Stage.asking queued rest).Answers client after w .nextItem (some (.error halt))
      { w with faults, streams } (.broken queued rest halt) := by
  refine answers_of_grows (.breaks _ _ _) ⟨?_, h.timer, ?_, h.ascending, h.held⟩ (.refl _) ?_
  · intro left hs
    cases hs
  · intro queued e rest hr
    cases hr
  · exact congrArg (Course.mk _ _) (List.append_nil queued)

theorem answers_nextItem {after : Option EnvelopeId} {queued rest : List Envelope}
    {reply : Option (Except (Halt EventLogError) Envelope)}
    (h : (Stage.asking queued rest).Fits client w)
    (ha : w.nextItem (.client client) = .reply reply w') :
    ∃ σ', (Stage.asking queued rest).Answers client after w .nextItem reply w' σ' := by
  unfold World.nextItem at ha
  rw [h.stream rfl] at ha
  cases rest with
  | nil =>
    dsimp only at ha
    cases hf : w.faults.nextLog .streamEnd with
    | mk fault faults =>
      rw [hf] at ha
      cases ha
      cases fault with
      | some halt => exact ⟨_, answers_broken h halt faults w.streams⟩
      | none =>
        refine ⟨.telling queued,
          answers_of_grows (.ends queued) ⟨?_, h.timer, ?_, h.ascending, ?_⟩ (.refl _) ?_⟩
        · intro left hs
          cases hs
        · intro queued e rest hr
          cases hr
        · exact (List.append_nil queued) ▸ h.held
        · change Course.mk (some (.ok (queued ++ []))) _ (queued ++ []) = Course.mk _ _ _
          rw [List.append_nil]
          rfl
  | cons e rest =>
    dsimp only at ha
    split at ha
    next halt faults _ =>
      cases ha
      exact ⟨_, answers_broken h halt faults _⟩
    next faults _ =>
      cases ha
      refine ⟨.sending queued e rest,
        answers_of_grows (.yields _ _ _) ⟨?_, h.timer, ?_, h.ascending, h.held⟩ (.refl _) ?_⟩
      · intro left hs
        cases hs
        simp
      · intro queued e rest hr
        cases hr
      · change Course.mk _ (queued.map .ok ++ [.ok e]) (queued ++ []) = Course.mk _ _ _
        rw [List.append_nil, List.map_append]
        rfl

theorem answers_send {after : Option EnvelopeId} {queued rest : List Envelope} {e : Envelope}
    {reply : SendResult} (h : (Stage.sending queued e rest).Fits client w)
    (ha : w.send (.client client) e none = .reply reply w') :
    ∃ σ', (Stage.sending queued e rest).Answers client after w (.send e none) reply w' σ' := by
  have hsends := w.sends_waiting h.timer e
  rw [ha] at hsends
  cases hsends with
  | accepted hw hq =>
    refine ⟨.counting (queued ++ [e]) rest,
      answers_of_grows (.accepted queued e rest) ?_ hq ?_⟩
    · refine (h.leaves hw).turn id (fun hr => by cases hr) ?_
      exact List.append_assoc queued [e] rest
    · change Course.mk (some (.ok (queued ++ e :: rest))) _ _ = Course.mk (some (.ok _)) _ _
      rw [List.append_assoc queued [e] rest, List.singleton_append]
      rfl
  | closed hw hq hc =>
    refine ⟨.refused queued e rest, answers_of_grows (.refused queued e rest) ?_ hq ?_⟩
    · exact (h.leaves hw).turn (fun hs => by cases hs) (fun _ => hw.closed hc) rfl
    · exact congrArg (Course.mk _ _) (List.append_nil queued)

/-- A call of a replay is answered in a way that the replay has to count on. -/
theorem answers {after : Option EnvelopeId} {c : Call} {reply : c.Reply} (h : σ.Fits client w)
    (hp : σ.Permits after c) (ha : w.answer (.client client) c = .reply reply w') :
    ∃ σ', σ.Answers client after w c reply w' σ' := by
  cases hp with
  | opening => exact answers_openStream h ha
  | asking queued rest => exact answers_nextItem h ha
  | sending queued e rest => exact answers_send h ha
  | counting queued rest counter =>
    cases ha
    have hw : World.Leaves client w (w.withJournal (·.count counter)) :=
      World.leaves_of_same client rfl rfl rfl rfl
    refine ⟨.asking queued rest,
      answers_of_grows (.counted queued rest counter) ?_ (.refl _) ?_⟩
    · exact (h.leaves hw).turn id (fun hr => by cases hr) rfl
    · exact congrArg (Course.mk _ _) (List.append_nil queued)
  | telling queued event =>
    cases ha
    have hw : World.Leaves client w (w.withJournal (·.log event)) :=
      World.leaves_of_same client rfl rfl rfl rfl
    refine ⟨.complete queued, answers_of_grows (.told queued event) ?_ (.refl _) ?_⟩
    · exact (h.leaves hw).turn (fun hs => by cases hs) (fun hr => by cases hr) rfl
    · exact congrArg (Course.mk _ _) (List.append_nil queued)

/-- A replay has to wait only for room, and only as long as the queue is open. -/
theorem waits {after : Option EnvelopeId} {c : Call} (h : σ.Fits client w)
    (hp : σ.Permits after c) (ha : w.answer (.client client) c = .wait w') :
    World.Leaves client w w' ∧ w.queue.Grows w'.queue [] ∧ w.queue.isOpen = true := by
  cases hp with
  | sending queued e rest =>
    have hsends := w.sends_waiting h.timer e
    rw [show w.send (.client client) e none = .wait w' from ha] at hsends
    cases hsends with
    | waits hw hq ho => exact ⟨hw, hq, ho⟩
  | opening =>
    simp only [World.answer, World.openStream] at ha
    split at ha <;> cases ha
  | asking queued rest =>
    simp only [World.answer, World.nextItem] at ha
    split at ha
    · cases ha
    · split at ha <;> cases ha
  | counting => cases ha
  | telling => cases ha

theorem result?_of_permits {after : Option EnvelopeId} {c : Call} (hp : σ.Permits after c) :
    σ.result? = none := by
  cases hp <;> rfl

theorem calls_le (σ : Stage) : σ.calls ≤ 3 := by
  cases σ <;> simp [calls]

theorem calls_eq_zero_iff : σ.calls = 0 ↔ ∃ result, σ.result? = some result := by
  cases σ <;> simp [calls, result?]

/-- Each call brings a replay nearer to its end, unless something is put on the queue. -/
theorem Goes.calls_lt {c : Call} {reply : c.Reply} (h : σ.Goes c reply σ')
    (hq : σ'.course.queued = σ.course.queued) : σ'.calls < σ.calls := by
  cases h with
  | accepted queued e rest => simp [course] at hq
  | opens => simp [calls]
  | fails => simp [calls]
  | yields => simp [calls]
  | ends => simp [calls]
  | breaks => simp [calls]
  | refused => simp [calls]
  | counted => simp [calls]
  | told => simp [calls]

end Stage

end Replay

end AgentFacts
