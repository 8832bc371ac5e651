import AgentFacts.Identifier
import AgentFacts.ValidationError

namespace AgentFacts

/-- The outcome of a check, from best to worst. -/
inductive CheckHealth where
  | skipped
  | passing
  | warning
  | critical
deriving DecidableEq, Inhabited, Repr

namespace CheckHealth

def text : CheckHealth → String
  | .skipped => "skipped"
  | .passing => "passing"
  | .warning => "warning"
  | .critical => "critical"

def all : List CheckHealth := [.skipped, .passing, .warning, .critical]

def severity : CheckHealth → Nat
  | .skipped => 0
  | .passing => 1
  | .warning => 2
  | .critical => 3

instance : Ord CheckHealth where
  compare a b := compare a.severity b.severity

instance : LE CheckHealth where
  le a b := a.severity ≤ b.severity

instance (a b : CheckHealth) : Decidable (a ≤ b) :=
  inferInstanceAs (Decidable (a.severity ≤ b.severity))

def worse (a b : CheckHealth) : CheckHealth :=
  if a ≤ b then b else a

def parse (s : String) : Except ValidationError CheckHealth :=
  match all.find? (·.text == s) with
  | some h => .ok h
  | none => .error (.unknownVariant "check health" s)

def decode : Json → Decoded CheckHealth :=
  Decode.variant (all.map fun h => (h.text, h))

def encode (h : CheckHealth) : Json :=
  .text h.text

instance : JsonFormat CheckHealth := ⟨decode, encode⟩

end CheckHealth

/-- The outcome of one check on one host. -/
structure CheckResultEntry where
  checkId : String
  agent : AgentId
  result : CheckHealth
deriving DecidableEq, Inhabited

/-- What an agent tells about an execution of checks. -/
structure ChecksReport where
  groupId : String
  results : List CheckResultEntry
deriving DecidableEq

/-- The latest execution of checks on a group, kept under the id of the group. -/
structure ChecksResult where
  groupId : String
  health : CheckHealth
  results : List CheckResultEntry
  reportedBy : AgentId
  updatedAt : Instant
deriving DecidableEq, Inhabited

namespace CheckResultEntry

def form : RecordForm where
  name := "CheckResultEntry"
  fields := ["check_id", "agent_id", "result"]

def decode : Json → Decoded CheckResultEntry :=
  form.decode fun source =>
    CheckResultEntry.mk <$> form.field source "check_id" .refuse Decode.text
      <*> form.field source "agent_id" .refuse AgentId.decode
      <*> form.field source "result" .refuse CheckHealth.decode

def encode (e : CheckResultEntry) : Json :=
  .ofMembers [
    ("check_id", .text e.checkId),
    ("agent_id", e.agent.encode),
    ("result", e.result.encode)]

instance : JsonFormat CheckResultEntry := ⟨decode, encode⟩

end CheckResultEntry

namespace ChecksReport

def form : RecordForm where
  name := "ChecksResultReported"
  fields := ["group_id", "results"]

def decode : Json → Decoded ChecksReport :=
  form.decode fun source =>
    ChecksReport.mk <$> form.field source "group_id" .refuse Decode.text
      <*> form.field source "results" (.always []) (Decode.list CheckResultEntry.decode)

def encode (r : ChecksReport) : Json :=
  .ofMembers [
    ("group_id", .text r.groupId),
    ("results", .list (r.results.map CheckResultEntry.encode))]

instance : JsonFormat ChecksReport := ⟨decode, encode⟩

end ChecksReport

namespace ChecksResult

def form : RecordForm where
  name := "ChecksResult"
  fields := ["group_id", "health", "results", "reported_by", "updated_at"]

def decode : Json → Decoded ChecksResult :=
  form.decode fun source =>
    ChecksResult.mk <$> form.field source "group_id" .refuse Decode.text
      <*> form.field source "health" .refuse CheckHealth.decode
      <*> form.field source "results" .refuse (Decode.list CheckResultEntry.decode)
      <*> form.field source "reported_by" .refuse AgentId.decode
      <*> form.field source "updated_at" .refuse Decode.instant

def encode (c : ChecksResult) : Json :=
  .ofMembers [
    ("group_id", .text c.groupId),
    ("health", c.health.encode),
    ("results", .list (c.results.map CheckResultEntry.encode)),
    ("reported_by", c.reportedBy.encode),
    ("updated_at", .text c.updatedAt.text)]

instance : JsonFormat ChecksResult := ⟨decode, encode⟩

/-- The worst of some results, if there are any. -/
def worst? : List CheckResultEntry → Option CheckHealth
  | [] => none
  | entry :: rest => some ((rest.map (·.result)).foldl CheckHealth.worse entry.result)

/-- The checks result that a report describes, with the health that follows from it. -/
def ofReport (reportedBy : AgentId) (report : ChecksReport) (updatedAt : Instant) :
    Except ValidationError ChecksResult := do
  require "group_id" report.groupId
  report.results.forM fun entry => require "check_id" entry.checkId
  match worst? report.results with
  | none => .error (.noResults report.groupId)
  | some health =>
    return { groupId := report.groupId, health, results := report.results, reportedBy, updatedAt }

end ChecksResult

end AgentFacts
