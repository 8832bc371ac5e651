import AgentFacts.Json.Decode
import AgentFacts.Text.Blank

namespace AgentFacts

/-- The agent, or other source, that reported a fact. -/
structure AgentId where
  text : String
deriving DecidableEq, Inhabited, Repr

namespace AgentId

instance : Ord AgentId where
  compare a b := compare a.text b.text

instance : Std.TransOrd AgentId :=
  inferInstanceAs (Std.TransCmp (compareOn AgentId.text))

instance : Std.LawfulEqOrd AgentId where
  eq_of_compare {a b} same := by
    have texts : a.text = b.text :=
      Std.LawfulEqOrd.eq_of_compare (show compare a.text b.text = .eq from same)
    cases a
    cases b
    exact congrArg _ texts

instance : ToString AgentId where
  toString a := a.text

/-- Empty, or nothing but blanks. -/
def isBlank (a : AgentId) : Bool :=
  Text.allBlank a.text

def decode (json : Json) : Decoded AgentId :=
  AgentId.mk <$> Decode.text json

def encode (a : AgentId) : Json :=
  .text a.text

instance : JsonFormat AgentId := ⟨decode, encode⟩

end AgentId

/-- The kind of fact that an envelope carries, such as `host.discovered`. -/
structure EventType where
  text : String
deriving DecidableEq, Inhabited, Repr

namespace EventType

instance : Ord EventType where
  compare a b := compare a.text b.text

instance : Std.TransOrd EventType :=
  inferInstanceAs (Std.TransCmp (compareOn EventType.text))

instance : Std.LawfulEqOrd EventType where
  eq_of_compare {a b} same := by
    have texts : a.text = b.text :=
      Std.LawfulEqOrd.eq_of_compare (show compare a.text b.text = .eq from same)
    cases a
    cases b
    exact congrArg _ texts

instance : ToString EventType where
  toString t := t.text

def isBlank (t : EventType) : Bool :=
  Text.allBlank t.text

def decode (json : Json) : Decoded EventType :=
  EventType.mk <$> Decode.text json

def encode (t : EventType) : Json :=
  .text t.text

instance : JsonFormat EventType := ⟨decode, encode⟩

def hostDiscovered : EventType := ⟨"host.discovered"⟩
def hostDeregistered : EventType := ⟨"host.deregistered"⟩
def hostHeartbeat : EventType := ⟨"host.heartbeat"⟩
def clusterDiscovered : EventType := ⟨"cluster.discovered"⟩
def sapSystemDiscovered : EventType := ⟨"sap_system.discovered"⟩
def subscriptionDiscovered : EventType := ⟨"subscription.discovered"⟩
def checksResultReported : EventType := ⟨"checks_result.reported"⟩

/-- Every kind of fact that has a projector. -/
def known : List EventType :=
  [hostDiscovered, hostDeregistered, hostHeartbeat, clusterDiscovered, sapSystemDiscovered,
    subscriptionDiscovered, checksResultReported]

end EventType

end AgentFacts
