import AgentFacts.Proofs.WorkerStep
import AgentFacts.Replay

namespace AgentFacts

/-- How far a replay is: what is left of its stream, and what it has put on the queue. -/
structure Feed where
  rest : List Envelope
  handed : List Envelope

namespace Feed

/-- The calls of a replay of a log. -/
def Permits (log : EventLog) (_ : Feed) : Call → Prop
  | .openStream _ => True
  | .nextItem => True
  | .send e none => e ∈ log.envelopes
  | .count _ => True
  | .log _ => True
  | _ => False

/-- The replies while no call fails and the queue is open. -/
def Reacts (log : EventLog) (φ : Feed) : (c : Call) → c.Reply → Feed → Prop
  | .openStream after => fun reply φ' =>
    reply = .ok ((log.after after).length + 1) ∧ φ' = { φ with rest := log.after after }
  | .nextItem => fun reply φ' =>
    reply = φ.rest.head?.map .ok ∧ φ' = { φ with rest := φ.rest.tail }
  | .send e _ => fun reply φ' => reply = .accepted ∧ φ' = { φ with handed := φ.handed ++ [e] }
  | _ => fun _ φ' => φ' = φ

def Complete (log : EventLog) (φ : Feed) : Except (Halt PipelineError) ReplayStats → Prop
  | .ok _ => φ.handed = log.envelopes
  | .error _ => False

end Feed

/-- A program feeds the queue with a log, and does not end before all of it has been handed on. -/
def Program.Feeds (log : EventLog) (p : Program (Except (Halt PipelineError) ReplayStats))
    (φ : Feed) : Prop :=
  p.Keeps (Feed.Permits log) (Feed.Reacts log) (Feed.Complete log) φ

theorem Program.Feeds.complete {log : EventLog} {φ : Feed}
    {p : Program (Except (Halt PipelineError) ReplayStats)} (h : p.Feeds log φ)
    (hd : Pipeline.isDone p = true) : φ.handed = log.envelopes := by
  cases p with
  | call c next => cases hd
  | done result =>
    cases result with
    | error halt => exact h.elim
    | ok stats => exact h

namespace Replay

variable {log : EventLog} {φ : Feed}

/-- What is left of the stream is handed on, envelope by envelope. -/
theorem keeps_feed {stats : ReplayStats} {left : Nat} (hl : φ.rest.length < left)
    (hall : φ.handed ++ φ.rest = log.envelopes) :
    (feed stats left).run.Keeps (Feed.Permits log) (Feed.Reacts log) (Feed.Complete log) φ := by
  induction left generalizing stats φ with
  | zero => cases hl
  | succ left ih =>
    refine ⟨trivial, ?_⟩
    intro reply φ' hφ
    obtain ⟨rfl, rfl⟩ := hφ
    cases hr : φ.rest with
    | nil =>
      rw [hr, List.append_nil] at hall
      exact hall
    | cons e rest =>
      rw [hr] at hl hall
      have hm : e ∈ log.envelopes := hall ▸ List.mem_append_right _ List.mem_cons_self
      refine ⟨hm, ?_⟩
      intro reply φ' hφ
      obtain ⟨rfl, rfl⟩ := hφ
      refine ⟨trivial, ?_⟩
      intro reply φ' hφ
      subst hφ
      refine ih ?_ ?_
      · exact Nat.lt_of_succ_lt_succ hl
      · rw [List.append_assoc]
        exact hall

/-- A replay from the start hands on the whole log, whatever is left of an earlier stream. -/
theorem feeds_run (log : EventLog) (rest : List Envelope) :
    (run none).run.Feeds log ⟨rest, []⟩ := by
  have hafter : log.after none = log.envelopes := List.filter_eq_self.2 fun _ _ => rfl
  refine ⟨trivial, ?_⟩
  intro reply φ' hφ
  obtain ⟨rfl, rfl⟩ := hφ
  have hfeed : (feed ⟨0, none⟩ ((log.after none).length + 1)).run.Keeps (Feed.Permits log)
      (Feed.Reacts log) (Feed.Complete log) ⟨log.after none, []⟩ :=
    keeps_feed (Nat.lt_succ_self _) hafter
  change (feed ⟨0, none⟩ ((log.after none).length + 1) >>= fun stats => do
    Program.log .info "replay complete"
      [("enqueued", .nat stats.enqueued), ("last_envelope_id", .text (lastText stats.lastEnvelope))]
    return stats).run.Keeps _ _ _ _
  rw [ExceptT.run_bind, Program.keeps_bind]
  refine hfeed.mono fun φ result h => ?_
  cases result with
  | error halt => exact h.elim
  | ok stats =>
    refine ⟨trivial, ?_⟩
    intro reply φ' hφ
    subst hφ
    exact h

end Replay

/-- Who sends to an open queue is taken in, or has to wait. -/
theorem Ingress.offer_open {q : Ingress} (ho : q.isOpen = true) (sender : TaskId) (e : Envelope) :
    (∃ promised, q.offer sender e = .accepted { q with items := q.items ++ [e], promised }) ∨
      ∃ line, q.offer sender e = .mustWait { q with line } := by
  unfold offer
  rw [if_neg (by rw [ho]; decide)]
  split
  · exact .inl ⟨_, rfl⟩
  split
  · exact .inr ⟨q.line, rfl⟩
  split
  · exact .inl ⟨q.promised, rfl⟩
  · exact .inr ⟨_, rfl⟩

structure Feed.Fits (log : EventLog) (client : Nat) (φ : Feed) (w : World) : Prop where
  events : w.events = log
  faults : w.faults = .none
  stream : (w.streams.lookup (.client client)).getD [] = φ.rest
  timer : w.timerOf? (.client client) = none

/-- What all can count on when the one who feeds the queue goes on, and has sent something. -/
structure World.Fed (log : EventLog) (sent : List Envelope) (w w' : World) : Prop where
  models : w'.models = w.models
  isOpen : w'.queue.isOpen = w.queue.isOpen
  hasSenders : w'.queue.hasSenders = w.queue.hasSenders
  items : w'.queue.items = w.queue.items ++ sent
  logged : ∀ e ∈ sent, e ∈ log.envelopes

namespace World

variable {log : EventLog} {client : Nat} {φ : Feed} {w w' : World}

theorem Fed.of_queue (hm : w'.models = w.models) (hq : w'.queue = w.queue) :
    Fed log [] w w' where
  models := hm
  isOpen := congrArg _ hq
  hasSenders := congrArg _ hq
  items := by rw [hq, List.append_nil]
  logged e he := by cases he

/-- The feeder is answered as it has to count on, and what it sends is at the end of the queue. -/
def Serves (log : EventLog) (client : Nat) (φ : Feed) (w : World) (c : Call) : Prop :=
  ∃ reply w' φ' sent, w.answer (.client client) c = .reply reply w' ∧ Fed log sent w w' ∧
    Feed.Reacts log φ c reply φ' ∧ φ'.Fits log client w' ∧ φ'.handed = φ.handed ++ sent

theorem serves_openStream (hφ : φ.Fits log client w) (after : Option EnvelopeId) :
    Serves log client φ w (.openStream after) := by
  unfold Serves
  simp only [answer, openStream]
  rw [hφ.faults, hφ.events]
  refine ⟨_, _, _, [], rfl, .of_queue rfl rfl, ⟨rfl, rfl⟩, ⟨rfl, rfl, ?_, hφ.timer⟩,
    (List.append_nil _).symm⟩
  simp

theorem serves_nextItem (hφ : φ.Fits log client w) : Serves log client φ w .nextItem := by
  unfold Serves
  simp only [answer, nextItem]
  rw [hφ.stream, hφ.faults]
  cases hr : φ.rest with
  | nil =>
    refine ⟨_, _, _, [], rfl, .of_queue rfl rfl, ⟨by rw [hr]; rfl, rfl⟩,
      ⟨hφ.events, rfl, ?_, hφ.timer⟩, (List.append_nil _).symm⟩
    exact hφ.stream.trans (by rw [hr]; rfl)
  | cons e rest =>
    refine ⟨_, _, _, [], rfl, .of_queue rfl rfl, ⟨by rw [hr]; rfl, rfl⟩,
      ⟨hφ.events, rfl, ?_, hφ.timer⟩, (List.append_nil _).symm⟩
    simp [hr]

theorem timerOf?_clearTimer_self (w : World) (task : TaskId) :
    (w.clearTimer task).timerOf? task = none := by
  unfold timerOf? clearTimer
  rw [List.find?_filter, Option.map_eq_none_iff, List.find?_eq_none]
  intro timer _
  simp

theorem send_open (hφ : φ.Fits log client w) (ho : w.queue.isOpen = true) {e : Envelope}
    (he : e ∈ log.envelopes) :
    Serves log client φ w (.send e none) ∨
      ∃ w', w.answer (.client client) (.send e none) = .wait w' ∧ Fed log [] w w' ∧
        φ.Fits log client w' := by
  unfold Serves
  simp only [answer, send]
  rcases Ingress.offer_open ho (.client client) e with ⟨promised, hq⟩ | ⟨line, hq⟩
  · rw [hq]
    dsimp only
    obtain ⟨woken, hw⟩ := wakeIdle_eq (clearTimer
      { w with queue := { w.queue with items := w.queue.items ++ [e], promised } }
      (.client client))
    rw [hw]
    refine .inl ⟨_, _, _, [e], rfl, ⟨rfl, rfl, rfl, rfl, fun e' he' => ?_⟩, ⟨rfl, rfl⟩,
      ⟨hφ.events, hφ.faults, hφ.stream, timerOf?_clearTimer_self w _⟩, rfl⟩
    rw [List.mem_singleton.1 he']
    exact he
  · have hexp : isExpired { w with queue := { w.queue with line } } (.client client) = false := by
      change Option.any _ (w.timerOf? (.client client)) = false
      rw [hφ.timer]
      rfl
    rw [hq]
    exact .inr ⟨_, if_neg (Bool.eq_false_iff.1 hexp),
      ⟨rfl, rfl, rfl, (List.append_nil _).symm, fun _ he => by cases he⟩,
      ⟨hφ.events, hφ.faults, hφ.stream, hφ.timer⟩⟩

/-- Each call of the feeder is answered as it has to count on, or it has to wait. -/
theorem answer_feed (hφ : φ.Fits log client w) (ho : w.queue.isOpen = true) {c : Call}
    (hp : Feed.Permits log φ c) :
    Serves log client φ w c ∨
      ∃ w', w.answer (.client client) c = .wait w' ∧ Fed log [] w w' ∧ φ.Fits log client w' := by
  cases c with
  | openStream after => exact .inl (serves_openStream hφ after)
  | nextItem => exact .inl (serves_nextItem hφ)
  | send e limit =>
    cases limit with
    | none => exact send_open hφ ho hp
    | some span => exact hp.elim
  | count c =>
    exact .inl ⟨(), _, _, [], rfl, .of_queue rfl rfl, rfl,
      ⟨hφ.events, hφ.faults, hφ.stream, hφ.timer⟩, (List.append_nil _).symm⟩
  | log event =>
    exact .inl ⟨(), _, _, [], rfl, .of_queue rfl rfl, rfl,
      ⟨hφ.events, hφ.faults, hφ.stream, hφ.timer⟩, (List.append_nil _).symm⟩
  | _ => exact hp.elim

end World

end AgentFacts
