import AgentFacts.ReadModels.Basic

namespace AgentFacts

/-- A question to the read models outside of a transaction. -/
inductive ModelRead where
  | host (agent : AgentId)
  | hosts
  | cluster (id : String)
  | clusters
  | sapInstances (agent : AgentId)
  | slesSubscriptions (agent : AgentId)
  | checksResult (group : String)
  | subscription (source : AgentId) (eventType : EventType)
  | subscriptions
  | subscriptionsOf (source : AgentId)

def ModelRead.Answer : ModelRead → Type
  | .host _ => Option Host
  | .hosts => List Host
  | .cluster _ => Option Cluster
  | .clusters => List Cluster
  | .sapInstances _ => List SapSystemInstance
  | .slesSubscriptions _ => List SlesSubscription
  | .checksResult _ => Option ChecksResult
  | .subscription _ _ => Option Subscription
  | .subscriptions => List Subscription
  | .subscriptionsOf _ => List Subscription

def ReadModels.answer (m : ReadModels) : (r : ModelRead) → r.Answer
  | .host agent => m.hosts.get? agent
  | .hosts => m.hosts.rows
  | .cluster id => m.clusters.get? id
  | .clusters => m.clusters.rows
  | .sapInstances agent => m.sapInstancesOf agent
  | .slesSubscriptions agent => m.slesSubscriptionsOf agent
  | .checksResult group => m.checksResults.get? group
  | .subscription source eventType => m.subscription? source eventType
  | .subscriptions => m.ledger.rows
  | .subscriptionsOf source => m.subscriptionsOf source

/-- An answer as JSON. A row that is not there is `null`. -/
def ModelRead.encode : (r : ModelRead) → r.Answer → Json
  | .host _, (found : Option Host) => .ofOption (found.map Host.encode)
  | .hosts, (rows : List Host) => .list (rows.map Host.encode)
  | .cluster _, (found : Option Cluster) => .ofOption (found.map Cluster.encode)
  | .clusters, (rows : List Cluster) => .list (rows.map Cluster.encode)
  | .sapInstances _, (rows : List SapSystemInstance) =>
    .list (rows.map SapSystemInstance.encode)
  | .slesSubscriptions _, (rows : List SlesSubscription) =>
    .list (rows.map SlesSubscription.encode)
  | .checksResult _, (found : Option ChecksResult) => .ofOption (found.map ChecksResult.encode)
  | .subscription _ _, (found : Option Subscription) =>
    .ofOption (found.map Subscription.encode)
  | .subscriptions, (rows : List Subscription) => .list (rows.map Subscription.encode)
  | .subscriptionsOf _, (rows : List Subscription) => .list (rows.map Subscription.encode)

end AgentFacts
