import AgentFacts.ReadModels.Basic

namespace AgentFacts

/-- A row of a table of entities. -/
inductive Place where
  | host (agent : AgentId)
  | cluster (id : String)
  | sapInstances (agent : AgentId)
  | slesSubscriptions (agent : AgentId)
  | checksResult (group : String)
deriving DecidableEq

/-- The name of the table; the projector that owns the table has the same. -/
def Place.table : Place → String
  | .host _ => "hosts"
  | .cluster _ => "clusters"
  | .sapInstances _ => "sap_system_instances"
  | .slesSubscriptions _ => "sles_subscriptions"
  | .checksResult _ => "checks_results"

def Write.place : Write → Place
  | .upsertHost host => .host host.agent
  | .deleteHost agent => .host agent
  | .recordHeartbeat agent _ => .host agent
  | .upsertCluster cluster => .cluster cluster.id
  | .replaceSapInstances agent _ => .sapInstances agent
  | .replaceSlesSubscriptions agent _ => .slesSubscriptions agent
  | .upsertChecksResult result => .checksResult result.groupId

/-- Two states of the read models have the same entities, but for one row at most. -/
structure ReadModels.AgreeOff (p : Place) (m m' : ReadModels) : Prop where
  hosts : ∀ agent, p ≠ .host agent → m'.hosts.get? agent = m.hosts.get? agent
  clusters : ∀ id, p ≠ .cluster id → m'.clusters.get? id = m.clusters.get? id
  sapInstances : ∀ agent, p ≠ .sapInstances agent →
    m'.sapInstances.get? agent = m.sapInstances.get? agent
  slesSubscriptions : ∀ agent, p ≠ .slesSubscriptions agent →
    m'.slesSubscriptions.get? agent = m.slesSubscriptions.get? agent
  checksResults : ∀ group, p ≠ .checksResult group →
    m'.checksResults.get? group = m.checksResults.get? group

structure ReadModels.SameEntities (m m' : ReadModels) : Prop where
  hosts : m'.hosts = m.hosts
  clusters : m'.clusters = m.clusters
  sapInstances : m'.sapInstances = m.sapInstances
  slesSubscriptions : m'.slesSubscriptions = m.slesSubscriptions
  checksResults : m'.checksResults = m.checksResults

namespace ReadModels

variable {m m' n : ReadModels}

theorem SameEntities.refl (m : ReadModels) : SameEntities m m := ⟨rfl, rfl, rfl, rfl, rfl⟩

theorem SameEntities.trans (h : SameEntities m m') (h' : SameEntities m' n) : SameEntities m n where
  hosts := h'.hosts.trans h.hosts
  clusters := h'.clusters.trans h.clusters
  sapInstances := h'.sapInstances.trans h.sapInstances
  slesSubscriptions := h'.slesSubscriptions.trans h.slesSubscriptions
  checksResults := h'.checksResults.trans h.checksResults

theorem sameEntities_record (m : ReadModels) (r : OutcomeRecord) : SameEntities m (m.record r) :=
  ⟨rfl, rfl, rfl, rfl, rfl⟩

theorem get?_replaceSet_ne {t : Table AgentId (List α)} {agent other : AgentId} {items : List α}
    (h : other ≠ agent) : (replaceSet t agent items).get? other = t.get? other := by
  unfold replaceSet
  split
  · exact Table.get?_erase_ne h t
  · exact Table.get?_insert_ne h t items

/-- A set in place of an older one is all that its agent has. -/
theorem getD_get?_replaceSet_self (t : Table AgentId (List α)) (agent : AgentId)
    (items : List α) : ((replaceSet t agent items).get? agent).getD [] = items := by
  unfold replaceSet
  split
  next h =>
    rw [Table.get?_erase_self, Option.getD_none]
    exact (List.isEmpty_iff.1 h).symm
  next =>
    rw [Table.get?_insert_self, Option.getD_some]

theorem agreeOff_hosts {m : ReadModels} {agent : AgentId} {hosts : Table AgentId Host}
    (h : ∀ other, other ≠ agent → hosts.get? other = m.hosts.get? other) :
    AgreeOff (.host agent) m { m with hosts } where
  hosts other hp := h other fun he => hp (congrArg _ he.symm)
  clusters _ _ := rfl
  sapInstances _ _ := rfl
  slesSubscriptions _ _ := rfl
  checksResults _ _ := rfl

theorem agreeOff_recordHeartbeat (m : ReadModels) (agent : AgentId) (time : Instant) :
    AgreeOff (.host agent) m (m.recordHeartbeat agent time) := by
  unfold recordHeartbeat
  split
  · exact agreeOff_hosts fun _ _ => rfl
  · exact agreeOff_hosts fun other h => Table.get?_insert_ne h ..

/-- A change leaves all rows alone but that at its place. -/
theorem agreeOff_write (m : ReadModels) (w : Write) : AgreeOff w.place m (m.write w) := by
  cases w with
  | upsertHost host => exact agreeOff_hosts fun other h => Table.get?_insert_ne h ..
  | deleteHost agent => exact agreeOff_hosts fun other h => Table.get?_erase_ne h _
  | recordHeartbeat agent time => exact agreeOff_recordHeartbeat m agent time
  | upsertCluster cluster =>
    exact ⟨fun _ _ => rfl, fun id hp => Table.get?_insert_ne (fun he => hp (congrArg _ he.symm)) ..,
      fun _ _ => rfl, fun _ _ => rfl, fun _ _ => rfl⟩
  | replaceSapInstances agent instances =>
    exact ⟨fun _ _ => rfl, fun _ _ => rfl,
      fun other hp => get?_replaceSet_ne fun he => hp (congrArg _ he.symm),
      fun _ _ => rfl, fun _ _ => rfl⟩
  | replaceSlesSubscriptions agent subscriptions =>
    exact ⟨fun _ _ => rfl, fun _ _ => rfl, fun _ _ => rfl,
      fun other hp => get?_replaceSet_ne fun he => hp (congrArg _ he.symm), fun _ _ => rfl⟩
  | upsertChecksResult result =>
    exact ⟨fun _ _ => rfl, fun _ _ => rfl, fun _ _ => rfl, fun _ _ => rfl,
      fun group hp => Table.get?_insert_ne (fun he => hp (congrArg _ he.symm)) ..⟩

end ReadModels

end AgentFacts
