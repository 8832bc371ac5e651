import AgentFacts.Identifier
import AgentFacts.ValidationError

namespace AgentFacts

/-- The kind of SAP system that an instance belongs to. -/
inductive SapSystemType where
  | application
  | database
deriving DecidableEq, Inhabited, Repr

namespace SapSystemType

def text : SapSystemType → String
  | .application => "application"
  | .database => "database"

def all : List SapSystemType := [.application, .database]

def parse (s : String) : Except ValidationError SapSystemType :=
  match all.find? (·.text == s) with
  | some t => .ok t
  | none => .error (.unknownVariant "SAP system type" s)

def decode : Json → Decoded SapSystemType :=
  Decode.variant (all.map fun t => (t.text, t))

def encode (t : SapSystemType) : Json :=
  .text t.text

instance : JsonFormat SapSystemType := ⟨decode, encode⟩

end SapSystemType

/-- Refuses all but three bytes, of which the first is a capital letter and the others are capital
letters or digits. -/
def checkSid (sid : String) : Except ValidationError Unit :=
  let chars := sid.toList
  if sid.utf8ByteSize == 3 && chars.head?.any Char.isUpper &&
      chars.tail.all fun c => c.isUpper || c.isDigit then .ok ()
  else .error (.invalidSid sid)

/-- Refuses all but two digits. -/
def checkInstanceNumber (number : String) : Except ValidationError Unit :=
  if number.utf8ByteSize == 2 && number.toList.all Char.isDigit then .ok ()
  else .error (.invalidInstanceNumber number)

/-- What an agent tells about one instance. -/
structure SapInstanceReport where
  sid : String
  instanceNumber : String
  systemType : SapSystemType
  features : String
  sapHostname : String
  systemReplication : Option String
deriving DecidableEq

/-- Every instance that runs on the host. -/
structure SapSystemReport where
  instances : List SapInstanceReport
deriving DecidableEq

/-- A SAP system instance, one of its agent's set. -/
structure SapSystemInstance where
  agent : AgentId
  sid : String
  instanceNumber : String
  systemType : SapSystemType
  features : String
  sapHostname : String
  systemReplication : Option String
  updatedAt : Instant
deriving DecidableEq, Inhabited

namespace SapInstanceReport

def form : RecordForm where
  name := "SapInstanceReport"
  fields := ["sid", "instance_number", "system_type", "features", "sap_hostname",
    "system_replication"]

def decode : Json → Decoded SapInstanceReport :=
  form.decode fun source =>
    SapInstanceReport.mk <$> form.field source "sid" .refuse Decode.text
      <*> form.field source "instance_number" .refuse Decode.text
      <*> form.field source "system_type" .refuse SapSystemType.decode
      <*> form.field source "features" (.always "") Decode.text
      <*> form.field source "sap_hostname" (.always "") Decode.text
      <*> form.field source "system_replication" (.always none) (Decode.option Decode.text)

def encode (r : SapInstanceReport) : Json :=
  .ofMembers [
    ("sid", .text r.sid),
    ("instance_number", .text r.instanceNumber),
    ("system_type", r.systemType.encode),
    ("features", .text r.features),
    ("sap_hostname", .text r.sapHostname),
    ("system_replication", .ofOption (r.systemReplication.map .text))]

instance : JsonFormat SapInstanceReport := ⟨decode, encode⟩

end SapInstanceReport

namespace SapSystemReport

def form : RecordForm where
  name := "SapSystemDiscovered"
  fields := ["instances"]

def decode : Json → Decoded SapSystemReport :=
  form.decode fun source =>
    SapSystemReport.mk <$>
      form.field source "instances" (.always []) (Decode.list SapInstanceReport.decode)

def encode (r : SapSystemReport) : Json :=
  .ofMembers [("instances", .list (r.instances.map SapInstanceReport.encode))]

instance : JsonFormat SapSystemReport := ⟨decode, encode⟩

end SapSystemReport

namespace SapSystemInstance

def form : RecordForm where
  name := "SapSystemInstance"
  fields := ["agent_id", "sid", "instance_number", "system_type", "features", "sap_hostname",
    "system_replication", "updated_at"]

def decode : Json → Decoded SapSystemInstance :=
  form.decode fun source =>
    SapSystemInstance.mk <$> form.field source "agent_id" .refuse AgentId.decode
      <*> form.field source "sid" .refuse Decode.text
      <*> form.field source "instance_number" .refuse Decode.text
      <*> form.field source "system_type" .refuse SapSystemType.decode
      <*> form.field source "features" .refuse Decode.text
      <*> form.field source "sap_hostname" .refuse Decode.text
      <*> form.field source "system_replication" (.inObjects none) (Decode.option Decode.text)
      <*> form.field source "updated_at" .refuse Decode.instant

def encode (i : SapSystemInstance) : Json :=
  .ofMembers [
    ("agent_id", i.agent.encode),
    ("sid", .text i.sid),
    ("instance_number", .text i.instanceNumber),
    ("system_type", i.systemType.encode),
    ("features", .text i.features),
    ("sap_hostname", .text i.sapHostname),
    ("system_replication", .ofOption (i.systemReplication.map .text)),
    ("updated_at", .text i.updatedAt.text)]

instance : JsonFormat SapSystemInstance := ⟨decode, encode⟩

def ofInstanceReport (agent : AgentId) (updatedAt : Instant) (report : SapInstanceReport) :
    SapSystemInstance where
  agent
  sid := report.sid
  instanceNumber := report.instanceNumber
  systemType := report.systemType
  features := report.features
  sapHostname := report.sapHostname
  systemReplication := report.systemReplication
  updatedAt

/-- Checks one report against those before it. -/
def checkReport (earlier : List SapInstanceReport) (report : SapInstanceReport) :
    Except ValidationError Unit := do
  checkSid report.sid
  checkInstanceNumber report.instanceNumber
  if earlier.any fun r => r.sid == report.sid && r.instanceNumber == report.instanceNumber then
    .error (.duplicate "SAP instance" (report.sid ++ "/" ++ report.instanceNumber))

/-- The instances that the reports describe, in their order; `earlier` holds the reports before
them. The first invalid or repeated one fails all. -/
def ofReports (agent : AgentId) (updatedAt : Instant) (earlier : List SapInstanceReport) :
    List SapInstanceReport → Except ValidationError (List SapSystemInstance)
  | [] => .ok []
  | report :: rest => do
    checkReport earlier report
    let others ← ofReports agent updatedAt (report :: earlier) rest
    return ofInstanceReport agent updatedAt report :: others

def ofReport (agent : AgentId) (report : SapSystemReport) (updatedAt : Instant) :
    Except ValidationError (List SapSystemInstance) :=
  ofReports agent updatedAt [] report.instances

end SapSystemInstance

end AgentFacts
