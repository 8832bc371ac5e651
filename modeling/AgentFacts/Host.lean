import AgentFacts.Identifier
import AgentFacts.ValidationError

namespace AgentFacts

/-- What an agent tells about its host. -/
structure HostReport where
  hostname : String
  ipAddresses : List String
  osVersion : String
  agentVersion : String
  cpuCount : UInt32
  socketCount : UInt32
  totalMemoryMb : UInt64
deriving DecidableEq

/-- A host that is gone, perhaps with a reason. -/
structure HostDeregistration where
  reason : Option String
deriving DecidableEq

/-- A sign of life. When it came is all that it says. -/
structure HostHeartbeat where
deriving DecidableEq

/-- A host, kept under the id of its agent. A new report leaves the latest sign of life as it is. -/
structure Host where
  agent : AgentId
  hostname : String
  ipAddresses : List String
  osVersion : String
  agentVersion : String
  cpuCount : UInt32
  socketCount : UInt32
  totalMemoryMb : UInt64
  updatedAt : Instant
  lastHeartbeatAt : Option Instant
deriving DecidableEq, Inhabited

namespace HostReport

def form : RecordForm where
  name := "HostDiscovered"
  fields := ["hostname", "ip_addresses", "os_version", "agent_version", "cpu_count",
    "socket_count", "total_memory_mb"]

def decode : Json → Decoded HostReport :=
  form.decode fun source =>
    HostReport.mk <$> form.field source "hostname" .refuse Decode.text
      <*> form.field source "ip_addresses" (.always []) (Decode.list Decode.text)
      <*> form.field source "os_version" (.always "") Decode.text
      <*> form.field source "agent_version" (.always "") Decode.text
      <*> form.field source "cpu_count" (.always 0) Decode.uint32
      <*> form.field source "socket_count" (.always 0) Decode.uint32
      <*> form.field source "total_memory_mb" (.always 0) Decode.uint64

def encode (r : HostReport) : Json :=
  .ofMembers [
    ("hostname", .text r.hostname),
    ("ip_addresses", .list (r.ipAddresses.map .text)),
    ("os_version", .text r.osVersion),
    ("agent_version", .text r.agentVersion),
    ("cpu_count", .nat r.cpuCount.toNat),
    ("socket_count", .nat r.socketCount.toNat),
    ("total_memory_mb", .nat r.totalMemoryMb.toNat)]

instance : JsonFormat HostReport := ⟨decode, encode⟩

end HostReport

namespace HostDeregistration

def form : RecordForm where
  name := "HostDeregistered"
  fields := ["reason"]

def decode : Json → Decoded HostDeregistration :=
  form.decode fun source =>
    HostDeregistration.mk <$> form.field source "reason" (.always none) (Decode.option Decode.text)

def encode (d : HostDeregistration) : Json :=
  .ofMembers [("reason", .ofOption (d.reason.map .text))]

instance : JsonFormat HostDeregistration := ⟨decode, encode⟩

end HostDeregistration

namespace HostHeartbeat

def form : RecordForm where
  name := "HostHeartbeat"
  fields := []

def decode : Json → Decoded HostHeartbeat :=
  form.decode fun _ => pure HostHeartbeat.mk

def encode (_ : HostHeartbeat) : Json :=
  .ofMembers []

instance : JsonFormat HostHeartbeat := ⟨decode, encode⟩

end HostHeartbeat

namespace Host

def form : RecordForm where
  name := "Host"
  fields := ["agent_id", "hostname", "ip_addresses", "os_version", "agent_version", "cpu_count",
    "socket_count", "total_memory_mb", "updated_at", "last_heartbeat_at"]

def decode : Json → Decoded Host :=
  form.decode fun source =>
    Host.mk <$> form.field source "agent_id" .refuse AgentId.decode
      <*> form.field source "hostname" .refuse Decode.text
      <*> form.field source "ip_addresses" .refuse (Decode.list Decode.text)
      <*> form.field source "os_version" .refuse Decode.text
      <*> form.field source "agent_version" .refuse Decode.text
      <*> form.field source "cpu_count" .refuse Decode.uint32
      <*> form.field source "socket_count" .refuse Decode.uint32
      <*> form.field source "total_memory_mb" .refuse Decode.uint64
      <*> form.field source "updated_at" .refuse Decode.instant
      <*> form.field source "last_heartbeat_at" (.always none) (Decode.option Decode.instant)

def encode (h : Host) : Json :=
  .ofMembers [
    ("agent_id", h.agent.encode),
    ("hostname", .text h.hostname),
    ("ip_addresses", .list (h.ipAddresses.map .text)),
    ("os_version", .text h.osVersion),
    ("agent_version", .text h.agentVersion),
    ("cpu_count", .nat h.cpuCount.toNat),
    ("socket_count", .nat h.socketCount.toNat),
    ("total_memory_mb", .nat h.totalMemoryMb.toNat),
    ("updated_at", .text h.updatedAt.text),
    ("last_heartbeat_at", .ofOption (h.lastHeartbeatAt.map fun i => .text i.text))]

instance : JsonFormat Host := ⟨decode, encode⟩

/-- Memory is kept in a signed column. -/
def maxMemoryMb : Nat := Nat.pow 2 63 - 1

def ofReport (agent : AgentId) (report : HostReport) (updatedAt : Instant) :
    Except ValidationError Host := do
  require "hostname" report.hostname
  if maxMemoryMb < report.totalMemoryMb.toNat then
    .error (.outOfRange "total_memory_mb" (toString report.totalMemoryMb.toNat))
  return {
    agent
    hostname := report.hostname
    ipAddresses := report.ipAddresses
    osVersion := report.osVersion
    agentVersion := report.agentVersion
    cpuCount := report.cpuCount
    socketCount := report.socketCount
    totalMemoryMb := report.totalMemoryMb
    updatedAt
    lastHeartbeatAt := none }

end Host

end AgentFacts
