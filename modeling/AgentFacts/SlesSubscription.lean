import AgentFacts.Identifier
import AgentFacts.ValidationError

namespace AgentFacts

/-- What an agent tells about one subscription. -/
structure SlesSubscriptionReport where
  identifier : String
  version : String
  arch : String
  status : String
  expiresAt : Option Instant
deriving DecidableEq

/-- Every subscription on the host. -/
structure SlesReport where
  subscriptions : List SlesSubscriptionReport
deriving DecidableEq

/-- A subscription, one of its agent's set. -/
structure SlesSubscription where
  agent : AgentId
  identifier : String
  version : String
  arch : String
  status : String
  expiresAt : Option Instant
  updatedAt : Instant
deriving DecidableEq, Inhabited

namespace SlesSubscriptionReport

def form : RecordForm where
  name := "SlesSubscriptionReport"
  fields := ["identifier", "version", "arch", "status", "expires_at"]

def decode : Json → Decoded SlesSubscriptionReport :=
  form.decode fun source =>
    SlesSubscriptionReport.mk <$> form.field source "identifier" .refuse Decode.text
      <*> form.field source "version" (.always "") Decode.text
      <*> form.field source "arch" (.always "") Decode.text
      <*> form.field source "status" (.always "") Decode.text
      <*> form.field source "expires_at" (.always none) (Decode.option Decode.instant)

def encode (r : SlesSubscriptionReport) : Json :=
  .ofMembers [
    ("identifier", .text r.identifier),
    ("version", .text r.version),
    ("arch", .text r.arch),
    ("status", .text r.status),
    ("expires_at", .ofOption (r.expiresAt.map fun i => .text i.text))]

instance : JsonFormat SlesSubscriptionReport := ⟨decode, encode⟩

end SlesSubscriptionReport

namespace SlesReport

def form : RecordForm where
  name := "SubscriptionDiscovered"
  fields := ["subscriptions"]

def decode : Json → Decoded SlesReport :=
  form.decode fun source =>
    SlesReport.mk <$>
      form.field source "subscriptions" (.always []) (Decode.list SlesSubscriptionReport.decode)

def encode (r : SlesReport) : Json :=
  .ofMembers [("subscriptions", .list (r.subscriptions.map SlesSubscriptionReport.encode))]

instance : JsonFormat SlesReport := ⟨decode, encode⟩

end SlesReport

namespace SlesSubscription

def form : RecordForm where
  name := "SlesSubscription"
  fields := ["agent_id", "identifier", "version", "arch", "status", "expires_at", "updated_at"]

def decode : Json → Decoded SlesSubscription :=
  form.decode fun source =>
    SlesSubscription.mk <$> form.field source "agent_id" .refuse AgentId.decode
      <*> form.field source "identifier" .refuse Decode.text
      <*> form.field source "version" .refuse Decode.text
      <*> form.field source "arch" .refuse Decode.text
      <*> form.field source "status" .refuse Decode.text
      <*> form.field source "expires_at" (.inObjects none) (Decode.option Decode.instant)
      <*> form.field source "updated_at" .refuse Decode.instant

def encode (s : SlesSubscription) : Json :=
  .ofMembers [
    ("agent_id", s.agent.encode),
    ("identifier", .text s.identifier),
    ("version", .text s.version),
    ("arch", .text s.arch),
    ("status", .text s.status),
    ("expires_at", .ofOption (s.expiresAt.map fun i => .text i.text)),
    ("updated_at", .text s.updatedAt.text)]

instance : JsonFormat SlesSubscription := ⟨decode, encode⟩

def ofSubscriptionReport (agent : AgentId) (updatedAt : Instant)
    (report : SlesSubscriptionReport) : SlesSubscription where
  agent
  identifier := report.identifier
  version := report.version
  arch := report.arch
  status := report.status
  expiresAt := report.expiresAt
  updatedAt

/-- Checks one report against those before it. -/
def checkReport (earlier : List SlesSubscriptionReport) (report : SlesSubscriptionReport) :
    Except ValidationError Unit := do
  require "identifier" report.identifier
  if earlier.any fun r => r.identifier == report.identifier then
    .error (.duplicate "subscription" report.identifier)

/-- The subscriptions that the reports describe, in their order; `earlier` holds the reports before
them. The first invalid or repeated one fails all. -/
def ofReports (agent : AgentId) (updatedAt : Instant) (earlier : List SlesSubscriptionReport) :
    List SlesSubscriptionReport → Except ValidationError (List SlesSubscription)
  | [] => .ok []
  | report :: rest => do
    checkReport earlier report
    let others ← ofReports agent updatedAt (report :: earlier) rest
    return ofSubscriptionReport agent updatedAt report :: others

def ofReport (agent : AgentId) (report : SlesReport) (updatedAt : Instant) :
    Except ValidationError (List SlesSubscription) :=
  ofReports agent updatedAt [] report.subscriptions

/-- Registered, in whatever case that is written, and not expired at `now`. -/
def isActive (s : SlesSubscription) (now : Instant) : Bool :=
  s.status.toList.map Char.toLower == "registered".toList &&
    match s.expiresAt with
    | none => true
    | some expiry => now < expiry

end SlesSubscription

end AgentFacts
