import AgentFacts.SapSystem

namespace AgentFacts

inductive ClusterType where
  | hanaScaleUp
  | hanaScaleOut
  | unknown
deriving DecidableEq, Inhabited, Repr

namespace ClusterType

def text : ClusterType → String
  | .hanaScaleUp => "hana_scale_up"
  | .hanaScaleOut => "hana_scale_out"
  | .unknown => "unknown"

def all : List ClusterType := [.hanaScaleUp, .hanaScaleOut, .unknown]

/-- The type of a cluster whose report names none. -/
def standard : ClusterType := .unknown

def parse (s : String) : Except ValidationError ClusterType :=
  match all.find? (·.text == s) with
  | some t => .ok t
  | none => .error (.unknownVariant "cluster type" s)

def decode : Json → Decoded ClusterType :=
  Decode.variant (all.map fun t => (t.text, t))

def encode (t : ClusterType) : Json :=
  .text t.text

instance : JsonFormat ClusterType := ⟨decode, encode⟩

end ClusterType

/-- What an agent tells about a cluster. -/
structure ClusterReport where
  id : String
  name : String
  clusterType : ClusterType
  sid : Option String
  nodes : List String
  resourcesNumber : UInt32
  hostsNumber : UInt32
deriving DecidableEq

/-- A cluster, kept under its own id. Every node of it reports it; the agent that did so last is
named. -/
structure Cluster where
  id : String
  name : String
  clusterType : ClusterType
  sid : Option String
  nodes : List String
  resourcesNumber : UInt32
  hostsNumber : UInt32
  reportedBy : AgentId
  updatedAt : Instant
deriving DecidableEq, Inhabited

namespace ClusterReport

def form : RecordForm where
  name := "ClusterDiscovered"
  fields := ["id", "name", "cluster_type", "sid", "nodes", "resources_number", "hosts_number"]

def decode : Json → Decoded ClusterReport :=
  form.decode fun source =>
    ClusterReport.mk <$> form.field source "id" .refuse Decode.text
      <*> form.field source "name" (.always "") Decode.text
      <*> form.field source "cluster_type" (.always .standard) ClusterType.decode
      <*> form.field source "sid" (.always none) (Decode.option Decode.text)
      <*> form.field source "nodes" (.always []) (Decode.list Decode.text)
      <*> form.field source "resources_number" (.always 0) Decode.uint32
      <*> form.field source "hosts_number" (.always 0) Decode.uint32

def encode (r : ClusterReport) : Json :=
  .ofMembers [
    ("id", .text r.id),
    ("name", .text r.name),
    ("cluster_type", r.clusterType.encode),
    ("sid", .ofOption (r.sid.map .text)),
    ("nodes", .list (r.nodes.map .text)),
    ("resources_number", .nat r.resourcesNumber.toNat),
    ("hosts_number", .nat r.hostsNumber.toNat)]

instance : JsonFormat ClusterReport := ⟨decode, encode⟩

end ClusterReport

namespace Cluster

def form : RecordForm where
  name := "Cluster"
  fields := ["id", "name", "cluster_type", "sid", "nodes", "resources_number", "hosts_number",
    "reported_by", "updated_at"]

def decode : Json → Decoded Cluster :=
  form.decode fun source =>
    Cluster.mk <$> form.field source "id" .refuse Decode.text
      <*> form.field source "name" .refuse Decode.text
      <*> form.field source "cluster_type" .refuse ClusterType.decode
      <*> form.field source "sid" (.inObjects none) (Decode.option Decode.text)
      <*> form.field source "nodes" .refuse (Decode.list Decode.text)
      <*> form.field source "resources_number" .refuse Decode.uint32
      <*> form.field source "hosts_number" .refuse Decode.uint32
      <*> form.field source "reported_by" .refuse AgentId.decode
      <*> form.field source "updated_at" .refuse Decode.instant

def encode (c : Cluster) : Json :=
  .ofMembers [
    ("id", .text c.id),
    ("name", .text c.name),
    ("cluster_type", c.clusterType.encode),
    ("sid", .ofOption (c.sid.map .text)),
    ("nodes", .list (c.nodes.map .text)),
    ("resources_number", .nat c.resourcesNumber.toNat),
    ("hosts_number", .nat c.hostsNumber.toNat),
    ("reported_by", c.reportedBy.encode),
    ("updated_at", .text c.updatedAt.text)]

instance : JsonFormat Cluster := ⟨decode, encode⟩

def ofReport (reportedBy : AgentId) (report : ClusterReport) (updatedAt : Instant) :
    Except ValidationError Cluster := do
  require "id" report.id
  if let some sid := report.sid then
    checkSid sid
  return {
    id := report.id
    name := report.name
    clusterType := report.clusterType
    sid := report.sid
    nodes := report.nodes
    resourcesNumber := report.resourcesNumber
    hostsNumber := report.hostsNumber
    reportedBy
    updatedAt }

end Cluster

end AgentFacts
