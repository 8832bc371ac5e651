import AgentFacts.Checks
import AgentFacts.Cluster
import AgentFacts.Database.Param
import AgentFacts.Host
import AgentFacts.Ledger
import AgentFacts.SlesSubscription

namespace AgentFacts

structure Insertion where
  table : String
  values : List (String × Param)

namespace Insertion

def columns (i : Insertion) : List String :=
  i.values.map (·.1)

def params (i : Insertion) : List Param :=
  i.values.map (·.2)

def list (items : List String) : String :=
  ", ".intercalate items

def text (i : Insertion) : String :=
  let placeholders := (List.range i.values.length).map fun n => "$" ++ toString (n + 1)
  "INSERT INTO " ++ i.table ++ " (" ++ list i.columns ++ ") VALUES (" ++ list placeholders ++ ")"

/-- The text that gives the columns after the key to a row that is there already. -/
def upsertText (i : Insertion) (key : String) : String :=
  let changes := (i.columns.filter (· != key)).map fun column => column ++ " = EXCLUDED." ++ column
  i.text ++ " ON CONFLICT (" ++ key ++ ") DO UPDATE SET " ++ list changes

end Insertion

def NewEnvelope.insertion (e : NewEnvelope) : Insertion where
  table := "envelopes"
  values := [
    ("source", .text e.source.text),
    ("event_type", .text e.eventType.text),
    ("payload", .jsonb e.payload),
    ("received_at", .ofInstant e.receivedAt)]

/-- The pair alone; the other columns get their standard values. -/
def LedgerKey.insertion (key : LedgerKey) : Insertion where
  table := "subscriptions"
  values := [("source", .text key.source.text), ("event_type", .text key.eventType.text)]

/-- A failure names no envelope. -/
def OutcomeRecord.insertion (r : OutcomeRecord) : Insertion where
  table := "subscriptions"
  values := [
    ("source", .text r.source.text),
    ("event_type", .text r.eventType.text),
    ("last_envelope_id", if r.outcome.isSuccess then .int r.envelope.value else .null),
    ("last_processed_at", .ofInstant r.processedAt),
    ("last_outcome", .text r.outcome.kind),
    ("failure_reason", .ofTextOption r.outcome.reason)]

/-- The latest sign of life is not written. -/
def Host.insertion (h : Host) : Insertion where
  table := "hosts"
  values := [
    ("agent_id", .text h.agent.text),
    ("hostname", .text h.hostname),
    ("ip_addresses", .ofTexts h.ipAddresses),
    ("os_version", .text h.osVersion),
    ("agent_version", .text h.agentVersion),
    ("cpu_count", .int h.cpuCount.toNat),
    ("socket_count", .int h.socketCount.toNat),
    ("total_memory_mb", .int h.totalMemoryMb.toNat),
    ("updated_at", .ofInstant h.updatedAt)]

def Cluster.insertion (c : Cluster) : Insertion where
  table := "clusters"
  values := [
    ("id", .text c.id),
    ("name", .text c.name),
    ("cluster_type", .text c.clusterType.text),
    ("sid", .ofTextOption c.sid),
    ("nodes", .ofTexts c.nodes),
    ("resources_number", .int c.resourcesNumber.toNat),
    ("hosts_number", .int c.hostsNumber.toNat),
    ("reported_by", .text c.reportedBy.text),
    ("updated_at", .ofInstant c.updatedAt)]

def SapSystemInstance.insertion (agent : AgentId) (i : SapSystemInstance) : Insertion where
  table := "sap_system_instances"
  values := [
    ("agent_id", .text agent.text),
    ("sid", .text i.sid),
    ("instance_number", .text i.instanceNumber),
    ("system_type", .text i.systemType.text),
    ("features", .text i.features),
    ("sap_hostname", .text i.sapHostname),
    ("system_replication", .ofTextOption i.systemReplication),
    ("updated_at", .ofInstant i.updatedAt)]

def SlesSubscription.insertion (agent : AgentId) (s : SlesSubscription) : Insertion where
  table := "sles_subscriptions"
  values := [
    ("agent_id", .text agent.text),
    ("identifier", .text s.identifier),
    ("version", .text s.version),
    ("arch", .text s.arch),
    ("status", .text s.status),
    ("expires_at", .ofInstantOption s.expiresAt),
    ("updated_at", .ofInstant s.updatedAt)]

def ChecksResult.insertion (c : ChecksResult) : Insertion where
  table := "checks_results"
  values := [
    ("group_id", .text c.groupId),
    ("health", .text c.health.text),
    ("results", .jsonb (.list (c.results.map CheckResultEntry.encode))),
    ("reported_by", .text c.reportedBy.text),
    ("updated_at", .ofInstant c.updatedAt)]

end AgentFacts
