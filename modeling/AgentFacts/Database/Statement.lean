import AgentFacts.Database.EnvelopeSelect
import AgentFacts.Database.Insertion
import AgentFacts.EventLog.Basic
import AgentFacts.ReadModels.Question

namespace AgentFacts

inductive Statement where
  | begin
  | commit
  | rollback
  | script (commands : String)
  | persist (envelope : NewEnvelope)
  | readLog (question : LogRead)
  | page (after : Int)
  | claim (key : LedgerKey)
  | lockRow (key : LedgerKey)
  | record (record : OutcomeRecord)
  | upsertHost (host : Host)
  | deleteHost (agent : AgentId)
  | recordHeartbeat (agent : AgentId) (time : Instant)
  | upsertCluster (cluster : Cluster)
  | clearSapInstances (agent : AgentId)
  | addSapInstance (agent : AgentId) (item : SapSystemInstance)
  | clearSlesSubscriptions (agent : AgentId)
  | addSlesSubscription (agent : AgentId) (subscription : SlesSubscription)
  | upsertChecksResult (result : ChecksResult)
  | read (question : ModelRead)

namespace Statement

/-- How many envelopes a page has at most. -/
def pageSize : Nat := 500

def ledgerColumns : String :=
  "source, event_type, last_envelope_id, last_processed_at, last_outcome, failure_reason"

def selectLedger (rest : String) : String :=
  "SELECT " ++ ledgerColumns ++ " FROM subscriptions " ++ rest

/-- The greater of two ids stays, and the later of two times; a null is less than either. -/
def keepGreatest : String :=
  " ON CONFLICT (source, event_type) DO UPDATE SET" ++
    " last_envelope_id = GREATEST(subscriptions.last_envelope_id, EXCLUDED.last_envelope_id)," ++
    " last_processed_at = GREATEST(subscriptions.last_processed_at, EXCLUDED.last_processed_at)," ++
    " last_outcome = EXCLUDED.last_outcome, failure_reason = EXCLUDED.failure_reason"

def logText : LogRead → String
  | .get _ => "SELECT " ++ EnvelopeSelect.columns ++ " FROM envelopes WHERE id = $1"
  | .query q => q.select.text
  | .count => "SELECT COUNT(*) FROM envelopes"

def readText : ModelRead → String
  | .host _ => "SELECT * FROM hosts WHERE agent_id = $1"
  | .hosts => "SELECT * FROM hosts ORDER BY agent_id"
  | .cluster _ => "SELECT * FROM clusters WHERE id = $1"
  | .clusters => "SELECT * FROM clusters ORDER BY id"
  | .sapInstances _ =>
    "SELECT * FROM sap_system_instances WHERE agent_id = $1 ORDER BY sid, instance_number"
  | .slesSubscriptions _ =>
    "SELECT * FROM sles_subscriptions WHERE agent_id = $1 ORDER BY identifier"
  | .checksResult _ => "SELECT * FROM checks_results WHERE group_id = $1"
  | .subscription _ _ => selectLedger "WHERE source = $1 AND event_type = $2"
  | .subscriptions => selectLedger "ORDER BY source, event_type"
  | .subscriptionsOf _ => selectLedger "WHERE source = $1 ORDER BY event_type"

def text : Statement → String
  | .begin => "BEGIN"
  | .commit => "COMMIT"
  | .rollback => "ROLLBACK"
  | .script commands => commands
  | .persist e => e.insertion.text ++ " RETURNING id"
  | .readLog question => logText question
  | .page _ =>
    "SELECT " ++ EnvelopeSelect.columns ++
      " FROM envelopes WHERE id > $1 ORDER BY id ASC LIMIT $2"
  | .claim key =>
    key.insertion.text ++ " ON CONFLICT (source, event_type) DO NOTHING RETURNING source"
  | .lockRow _ => selectLedger "WHERE source = $1 AND event_type = $2 FOR UPDATE"
  | .record r => r.insertion.text ++ keepGreatest ++ " RETURNING " ++ ledgerColumns
  | .upsertHost host => host.insertion.upsertText "agent_id"
  | .deleteHost _ => "DELETE FROM hosts WHERE agent_id = $1"
  | .recordHeartbeat _ _ =>
    "UPDATE hosts SET last_heartbeat_at = GREATEST(last_heartbeat_at, $2) WHERE agent_id = $1"
  | .upsertCluster cluster => cluster.insertion.upsertText "id"
  | .clearSapInstances _ => "DELETE FROM sap_system_instances WHERE agent_id = $1"
  | .addSapInstance agent item => (item.insertion agent).text
  | .clearSlesSubscriptions _ => "DELETE FROM sles_subscriptions WHERE agent_id = $1"
  | .addSlesSubscription agent subscription => (subscription.insertion agent).text
  | .upsertChecksResult result => result.insertion.upsertText "group_id"
  | .read question => readText question

def logParams : LogRead → List Param
  | .get id => [.int id.value]
  | .query q => q.params
  | .count => []

def readParams : ModelRead → List Param
  | .host agent => [.text agent.text]
  | .hosts => []
  | .cluster id => [.text id]
  | .clusters => []
  | .sapInstances agent => [.text agent.text]
  | .slesSubscriptions agent => [.text agent.text]
  | .checksResult group => [.text group]
  | .subscription source eventType => [.text source.text, .text eventType.text]
  | .subscriptions => []
  | .subscriptionsOf source => [.text source.text]

/-- The values for the placeholders. Only a statement that is prepared can have any. -/
def params : Statement → List Param
  | .begin => []
  | .commit => []
  | .rollback => []
  | .script _ => []
  | .persist e => e.insertion.params
  | .readLog question => logParams question
  | .page after => [.int after, .int pageSize]
  | .claim key => key.insertion.params
  | .lockRow key => key.insertion.params
  | .record r => r.insertion.params
  | .upsertHost host => host.insertion.params
  | .deleteHost agent => [.text agent.text]
  | .recordHeartbeat agent time => [.text agent.text, .ofInstant time]
  | .upsertCluster cluster => cluster.insertion.params
  | .clearSapInstances agent => [.text agent.text]
  | .addSapInstance agent item => (item.insertion agent).params
  | .clearSlesSubscriptions agent => [.text agent.text]
  | .addSlesSubscription agent subscription => (subscription.insertion agent).params
  | .upsertChecksResult result => result.insertion.params
  | .read question => readParams question

def isPrepared : Statement → Bool
  | .begin => false
  | .commit => false
  | .rollback => false
  | .script _ => false
  | _ => true

end Statement

end AgentFacts
