import AgentFacts.Envelope
import AgentFacts.Task

namespace AgentFacts

/-- Envelopes on their way to the workers, first in, first out. A sender who finds no room waits in
line; a place that becomes free is promised to the first in line. -/
structure Ingress where
  capacity : Nat
  items : List Envelope
  line : List TaskId
  promised : List TaskId
  hasSenders : Bool
  isOpen : Bool

namespace Ingress

def new (capacity : Nat) : Ingress where
  capacity := max capacity 1
  items := []
  line := []
  promised := []
  hasSenders := true
  isOpen := true

/-- The places that are neither taken nor promised. -/
def free (q : Ingress) : Nat :=
  q.capacity - q.items.length - q.promised.length

inductive Offer where
  | accepted (queue : Ingress)
  | mustWait (queue : Ingress)
  | closed

def offer (q : Ingress) (sender : TaskId) (e : Envelope) : Offer :=
  if !q.isOpen then .closed
  else if q.promised.contains sender then
    .accepted { q with items := q.items ++ [e], promised := q.promised.erase sender }
  else if q.line.contains sender then .mustWait q
  else if 0 < q.free then .accepted { q with items := q.items ++ [e] }
  else .mustWait { q with line := q.line ++ [sender] }

/-- Promises a free place to the first in line. -/
def promise (q : Ingress) : Ingress :=
  match q.line with
  | [] => q
  | next :: rest =>
    if 0 < q.free then { q with line := rest, promised := q.promised ++ [next] } else q

def take (q : Ingress) : Option (Envelope × Ingress) :=
  match q.items with
  | [] => none
  | e :: rest => some (e, { q with items := rest }.promise)

def forget (q : Ingress) (sender : TaskId) : Ingress :=
  { q with
    line := q.line.filter (· != sender)
    promised := q.promised.filter (· != sender) }.promise

/-- Nobody takes from the queue any more: what is on it is lost. -/
def close (q : Ingress) : Ingress :=
  { q with items := [], line := [], promised := [], isOpen := false }

end Ingress

end AgentFacts
