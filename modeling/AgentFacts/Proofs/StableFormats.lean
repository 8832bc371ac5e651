import AgentFacts.Proofs.ValueFormats

namespace AgentFacts

variable {α : Type}

/-- The instants and the ids that a value holds. All else in a value may be anything. -/
class Stamped (α : Type) where
  instants : α → List Instant := fun _ => []
  ids : α → List EnvelopeId := fun _ => []

/-- Every instant in the value was read from JSON, and every id has 64 bits. -/
structure Proper [Stamped α] (a : α) : Prop where
  instants : ∀ i ∈ Stamped.instants a, i.Read
  ids : ∀ id ∈ Stamped.ids a, id.Fits

theorem proper_def [Stamped α] {a : α} :
    Proper a ↔ (∀ i ∈ Stamped.instants a, i.Read) ∧ ∀ id ∈ Stamped.ids a, id.Fits :=
  ⟨fun ⟨hinstants, hids⟩ => ⟨hinstants, hids⟩, fun ⟨hinstants, hids⟩ => ⟨hinstants, hids⟩⟩

/-- What a JSON value that decodes is written as. -/
def normalize (α : Type) [JsonFormat α] (json : Json) : Decoded Json :=
  JsonFormat.encode <$> (JsonFormat.decode json : Decoded α)

/-- Written and read again, a value is the same; so is one that was read from anything, and what it
is written as is the normal form of all that it can be read from. -/
structure StableFormat (α : Type) [JsonFormat α] [Stamped α] : Prop where
  back : ∀ a : α, Proper a → JsonFormat.decode (JsonFormat.encode a) = .ok a
  again : ∀ json (a : α), JsonFormat.decode json = .ok a →
    JsonFormat.decode (JsonFormat.encode a) = .ok a
  normal : ∀ json canonical, normalize α json = .ok canonical →
    normalize α canonical = .ok canonical

/-- A format that is read back where values are proper, and that reads proper values only. -/
theorem StableFormat.of_proper [JsonFormat α] [Stamped α]
    (hback : ∀ a : α, Proper a → JsonFormat.decode (JsonFormat.encode a) = .ok a)
    (hproper : ∀ json (a : α), JsonFormat.decode json = .ok a → Proper a) : StableFormat α where
  back := hback
  again json a h := hback a (hproper json a h)
  normal json canonical h := by
    obtain ⟨a, ha, rfl⟩ := map_eq_ok.1 h
    unfold normalize
    rw [hback a (hproper json a ha)]
    rfl

/-- A format of values without instants and ids, which is read back whatever they are. -/
theorem StableFormat.of_plain [JsonFormat α] [Stamped α]
    (hplain : ∀ a : α, Stamped.instants a = [] ∧ Stamped.ids a = [])
    (hback : ∀ a : α, JsonFormat.decode (JsonFormat.encode a) = .ok a) : StableFormat α :=
  .of_proper (fun a _ => hback a) fun _ a _ => by
    obtain ⟨hinstants, hids⟩ := hplain a
    exact ⟨by rw [hinstants]; nofun, by rw [hids]; nofun⟩

instance : Stamped AgentId := {}
instance : Stamped EventType := {}
instance : Stamped CheckHealth := {}
instance : Stamped ClusterType := {}
instance : Stamped SapSystemType := {}
instance : Stamped Outcome := {}
instance : Stamped HostReport := {}
instance : Stamped HostDeregistration := {}
instance : Stamped HostHeartbeat := {}
instance : Stamped ClusterReport := {}
instance : Stamped SapInstanceReport := {}
instance : Stamped SapSystemReport := {}
instance : Stamped CheckResultEntry := {}
instance : Stamped ChecksReport := {}

instance : Stamped EnvelopeId where
  ids id := [id]

instance : Stamped Host where
  instants h := h.updatedAt :: h.lastHeartbeatAt.toList

instance : Stamped Cluster where
  instants c := [c.updatedAt]

instance : Stamped SapSystemInstance where
  instants i := [i.updatedAt]

instance : Stamped SlesSubscriptionReport where
  instants r := r.expiresAt.toList

instance : Stamped SlesReport where
  instants r := r.subscriptions.flatMap Stamped.instants

instance : Stamped SlesSubscription where
  instants s := s.updatedAt :: s.expiresAt.toList

instance : Stamped ChecksResult where
  instants c := [c.updatedAt]

instance : Stamped NewEnvelope where
  instants e := [e.receivedAt]

instance : Stamped Envelope where
  instants e := [e.receivedAt]
  ids e := [e.id]

instance : Stamped Subscription where
  instants s := [s.lastProcessedAt]
  ids s := s.lastEnvelope.toList

theorem HostReport.decode_encode (r : HostReport) : decode r.encode = .ok r :=
  RecordForm.decode_ofMembers rfl (by decide) fun all hfind => by simp_all [RecordForm.field]

theorem HostDeregistration.decode_encode (d : HostDeregistration) : decode d.encode = .ok d :=
  RecordForm.decode_ofMembers rfl (by decide) fun all hfind => by simp_all [RecordForm.field]

theorem HostHeartbeat.decode_encode (b : HostHeartbeat) : decode b.encode = .ok b :=
  rfl

theorem ClusterReport.decode_encode (r : ClusterReport) : decode r.encode = .ok r :=
  RecordForm.decode_ofMembers rfl (by decide) fun all hfind => by simp_all [RecordForm.field]

theorem SapInstanceReport.decode_encode (r : SapInstanceReport) : decode r.encode = .ok r :=
  RecordForm.decode_ofMembers rfl (by decide) fun all hfind => by simp_all [RecordForm.field]

theorem SapSystemReport.decode_encode (r : SapSystemReport) : decode r.encode = .ok r := by
  have hlist := Decode.list_map fun i (_ : i ∈ r.instances) => i.decode_encode
  exact RecordForm.decode_ofMembers rfl (by decide) fun all hfind => by
    simp_all [RecordForm.field]

@[simp] theorem CheckResultEntry.list_map (entries : List CheckResultEntry) :
    Decode.list decode (.list (entries.map encode)) = .ok entries :=
  Decode.list_map fun e _ => e.decode_encode

theorem ChecksReport.decode_encode (r : ChecksReport) : decode r.encode = .ok r :=
  RecordForm.decode_ofMembers rfl (by decide) fun all hfind => by simp_all [RecordForm.field]

theorem EnvelopeId.proper_iff {id : EnvelopeId} : Proper id ↔ id.Fits := by
  simp [proper_def, Stamped.instants, Stamped.ids]

namespace Host

theorem proper_iff {h : Host} : Proper h ↔ h.updatedAt.Read ∧ ∀ i ∈ h.lastHeartbeatAt, i.Read := by
  simp [proper_def, Stamped.instants, Stamped.ids]

theorem decode_encode {h : Host} (hp : Proper h) : decode h.encode = .ok h := by
  obtain ⟨hupdated, hbeat⟩ := proper_iff.1 hp
  have hupdated := Decode.instant_text hupdated
  have hbeat := Decode.option_instant hbeat
  exact RecordForm.decode_ofMembers rfl (by decide) fun all hfind => by
    simp_all [RecordForm.field]

theorem proper_of_decode (json : Json) (h : Host) (hdecode : decode json = .ok h) : Proper h := by
  refine RecordForm.decode_yields (fun source => ?_) hdecode
  refine .seq (RecordForm.field_yields (Decode.option_yields Instant.read_of_decode) nofun) ?_
  refine .seq (RecordForm.field_yields Instant.read_of_decode trivial) ?_
  iterate 7 refine .skip ?_
  refine .skip_map ?_
  intros
  simp_all [proper_iff]

end Host

namespace Cluster

theorem proper_iff {c : Cluster} : Proper c ↔ c.updatedAt.Read := by
  simp [proper_def, Stamped.instants, Stamped.ids]

theorem decode_encode {c : Cluster} (hp : Proper c) : decode c.encode = .ok c := by
  have hupdated := Decode.instant_text (proper_iff.1 hp)
  exact RecordForm.decode_ofMembers rfl (by decide) fun all hfind => by
    simp_all [RecordForm.field]

theorem proper_of_decode (json : Json) (c : Cluster) (hdecode : decode json = .ok c) :
    Proper c := by
  refine RecordForm.decode_yields (fun source => ?_) hdecode
  refine .seq (RecordForm.field_yields Instant.read_of_decode trivial) ?_
  iterate 7 refine .skip ?_
  refine .skip_map ?_
  intros
  simp_all [proper_iff]

end Cluster

namespace SapSystemInstance

theorem proper_iff {i : SapSystemInstance} : Proper i ↔ i.updatedAt.Read := by
  simp [proper_def, Stamped.instants, Stamped.ids]

theorem decode_encode {i : SapSystemInstance} (hp : Proper i) : decode i.encode = .ok i := by
  have hupdated := Decode.instant_text (proper_iff.1 hp)
  exact RecordForm.decode_ofMembers rfl (by decide) fun all hfind => by
    simp_all [RecordForm.field]

theorem proper_of_decode (json : Json) (i : SapSystemInstance) (hdecode : decode json = .ok i) :
    Proper i := by
  refine RecordForm.decode_yields (fun source => ?_) hdecode
  refine .seq (RecordForm.field_yields Instant.read_of_decode trivial) ?_
  iterate 6 refine .skip ?_
  refine .skip_map ?_
  intros
  simp_all [proper_iff]

end SapSystemInstance

namespace ChecksResult

theorem proper_iff {c : ChecksResult} : Proper c ↔ c.updatedAt.Read := by
  simp [proper_def, Stamped.instants, Stamped.ids]

theorem decode_encode {c : ChecksResult} (hp : Proper c) : decode c.encode = .ok c := by
  have hupdated := Decode.instant_text (proper_iff.1 hp)
  exact RecordForm.decode_ofMembers rfl (by decide) fun all hfind => by
    simp_all [RecordForm.field]

theorem proper_of_decode (json : Json) (c : ChecksResult) (hdecode : decode json = .ok c) :
    Proper c := by
  refine RecordForm.decode_yields (fun source => ?_) hdecode
  refine .seq (RecordForm.field_yields Instant.read_of_decode trivial) ?_
  iterate 3 refine .skip ?_
  refine .skip_map ?_
  intros
  simp_all [proper_iff]

end ChecksResult

namespace SlesSubscriptionReport

theorem proper_iff {r : SlesSubscriptionReport} : Proper r ↔ ∀ i ∈ r.expiresAt, i.Read := by
  simp [proper_def, Stamped.instants, Stamped.ids]

theorem decode_encode {r : SlesSubscriptionReport} (hp : Proper r) : decode r.encode = .ok r := by
  have hexpires := Decode.option_instant (proper_iff.1 hp)
  exact RecordForm.decode_ofMembers rfl (by decide) fun all hfind => by
    simp_all [RecordForm.field]

theorem proper_of_decode (json : Json) (r : SlesSubscriptionReport) (hdecode : decode json = .ok r) :
    Proper r := by
  refine RecordForm.decode_yields (fun source => ?_) hdecode
  refine .seq (RecordForm.field_yields (Decode.option_yields Instant.read_of_decode) nofun) ?_
  iterate 3 refine .skip ?_
  refine .skip_map ?_
  intros
  simp_all [proper_iff]

end SlesSubscriptionReport

namespace SlesSubscription

theorem proper_iff {s : SlesSubscription} :
    Proper s ↔ s.updatedAt.Read ∧ ∀ i ∈ s.expiresAt, i.Read := by
  simp [proper_def, Stamped.instants, Stamped.ids]

theorem decode_encode {s : SlesSubscription} (hp : Proper s) : decode s.encode = .ok s := by
  obtain ⟨hupdated, hexpires⟩ := proper_iff.1 hp
  have hupdated := Decode.instant_text hupdated
  have hexpires := Decode.option_instant hexpires
  exact RecordForm.decode_ofMembers rfl (by decide) fun all hfind => by
    simp_all [RecordForm.field]

theorem proper_of_decode (json : Json) (s : SlesSubscription) (hdecode : decode json = .ok s) :
    Proper s := by
  refine RecordForm.decode_yields (fun source => ?_) hdecode
  refine .seq (RecordForm.field_yields Instant.read_of_decode trivial) ?_
  refine .seq (RecordForm.field_yields (Decode.option_yields Instant.read_of_decode) nofun) ?_
  iterate 4 refine .skip ?_
  refine .skip_map ?_
  intros
  simp_all [proper_iff]

end SlesSubscription

namespace SlesReport

theorem proper_iff {r : SlesReport} : Proper r ↔ ∀ s ∈ r.subscriptions, Proper s := by
  simp only [proper_def, Stamped.instants, Stamped.ids, List.mem_flatMap]
  exact ⟨fun ⟨hr, _⟩ s hs => ⟨fun i hi => hr i ⟨s, hs, hi⟩, nofun⟩,
    fun hall => ⟨fun i ⟨s, hs, hi⟩ => (hall s hs).1 i hi, nofun⟩⟩

theorem decode_encode {r : SlesReport} (hp : Proper r) : decode r.encode = .ok r := by
  have hlist := Decode.list_map fun s hs =>
    SlesSubscriptionReport.decode_encode (proper_iff.1 hp s hs)
  exact RecordForm.decode_ofMembers rfl (by decide) fun all hfind => by
    simp_all [RecordForm.field]

theorem proper_of_decode (json : Json) (r : SlesReport) (hdecode : decode json = .ok r) :
    Proper r := by
  refine RecordForm.decode_yields (fun source => ?_) hdecode
  refine .map (RecordForm.field_yields
    (Decode.list_yields SlesSubscriptionReport.proper_of_decode) nofun) ?_
  intros
  simp_all [proper_iff]

end SlesReport

namespace NewEnvelope

theorem proper_iff {e : NewEnvelope} : Proper e ↔ e.receivedAt.Read := by
  simp [proper_def, Stamped.instants, Stamped.ids]

theorem decode_encode {e : NewEnvelope} (hp : Proper e) : decode e.encode = .ok e := by
  have hreceived := Decode.instant_text (proper_iff.1 hp)
  exact RecordForm.decode_ofMembers rfl (by decide) fun all hfind => by
    simp_all [RecordForm.field]

theorem proper_of_decode (json : Json) (e : NewEnvelope) (hdecode : decode json = .ok e) :
    Proper e := by
  refine RecordForm.decode_yields (fun source => ?_) hdecode
  refine .seq (RecordForm.field_yields Instant.read_of_decode trivial) ?_
  iterate 2 refine .skip ?_
  refine .skip_map ?_
  intros
  simp_all [proper_iff]

end NewEnvelope

namespace Envelope

theorem proper_iff {e : Envelope} : Proper e ↔ e.receivedAt.Read ∧ e.id.Fits := by
  simp [proper_def, Stamped.instants, Stamped.ids]

theorem decode_encode {e : Envelope} (hp : Proper e) : decode e.encode = .ok e := by
  obtain ⟨hreceived, hid⟩ := proper_iff.1 hp
  have hreceived := Decode.instant_text hreceived
  have hid := EnvelopeId.decode_encode hid
  exact RecordForm.decode_ofMembers rfl (by decide) fun all hfind => by
    simp_all [RecordForm.field]

theorem proper_of_decode (json : Json) (e : Envelope) (hdecode : decode json = .ok e) :
    Proper e := by
  refine RecordForm.decode_yields (fun source => ?_) hdecode
  refine .seq (RecordForm.field_yields Instant.read_of_decode trivial) ?_
  iterate 3 refine .skip ?_
  refine .map (RecordForm.field_yields EnvelopeId.fits_of_decode trivial) ?_
  intros
  simp_all [proper_iff]

end Envelope

namespace Subscription

theorem proper_iff {s : Subscription} :
    Proper s ↔ s.lastProcessedAt.Read ∧ ∀ id ∈ s.lastEnvelope, id.Fits := by
  simp [proper_def, Stamped.instants, Stamped.ids]

theorem decode_encode {s : Subscription} (hp : Proper s) : decode s.encode = .ok s := by
  obtain ⟨hprocessed, hlast⟩ := proper_iff.1 hp
  have hprocessed := Decode.instant_text hprocessed
  have hlast := Decode.option_envelopeId hlast
  exact RecordForm.decode_ofMembers rfl (by decide) fun all hfind => by
    simp_all [RecordForm.field]

theorem proper_of_decode (json : Json) (s : Subscription) (hdecode : decode json = .ok s) :
    Proper s := by
  refine RecordForm.decode_yields (fun source => ?_) hdecode
  refine .skip ?_
  refine .seq (RecordForm.field_yields Instant.read_of_decode trivial) ?_
  refine .seq (RecordForm.field_yields (Decode.option_yields EnvelopeId.fits_of_decode) nofun) ?_
  refine .skip ?_
  refine .skip_map ?_
  intros
  simp_all [proper_iff]

end Subscription

/-- Each format, of facts, of the rows that are made from them, of the ledger and of envelopes, is
stable. -/
structure StableFormats : Prop where
  agentId : StableFormat AgentId
  eventType : StableFormat EventType
  envelopeId : StableFormat EnvelopeId
  newEnvelope : StableFormat NewEnvelope
  envelope : StableFormat Envelope
  outcome : StableFormat Outcome
  subscription : StableFormat Subscription
  hostReport : StableFormat HostReport
  hostDeregistration : StableFormat HostDeregistration
  hostHeartbeat : StableFormat HostHeartbeat
  host : StableFormat Host
  clusterType : StableFormat ClusterType
  clusterReport : StableFormat ClusterReport
  cluster : StableFormat Cluster
  sapSystemType : StableFormat SapSystemType
  sapInstanceReport : StableFormat SapInstanceReport
  sapSystemReport : StableFormat SapSystemReport
  sapSystemInstance : StableFormat SapSystemInstance
  slesSubscriptionReport : StableFormat SlesSubscriptionReport
  slesReport : StableFormat SlesReport
  slesSubscription : StableFormat SlesSubscription
  checkHealth : StableFormat CheckHealth
  checkResultEntry : StableFormat CheckResultEntry
  checksReport : StableFormat ChecksReport
  checksResult : StableFormat ChecksResult

theorem formats_stable : StableFormats where
  agentId := .of_plain (fun _ => ⟨rfl, rfl⟩) AgentId.decode_encode
  eventType := .of_plain (fun _ => ⟨rfl, rfl⟩) EventType.decode_encode
  envelopeId := .of_proper (fun _ hp => EnvelopeId.decode_encode (EnvelopeId.proper_iff.1 hp))
    fun json id h => EnvelopeId.proper_iff.2 (EnvelopeId.fits_of_decode json id h)
  newEnvelope := .of_proper (fun _ => NewEnvelope.decode_encode) NewEnvelope.proper_of_decode
  envelope := .of_proper (fun _ => Envelope.decode_encode) Envelope.proper_of_decode
  outcome := .of_plain (fun _ => ⟨rfl, rfl⟩) Outcome.decode_encode
  subscription := .of_proper (fun _ => Subscription.decode_encode) Subscription.proper_of_decode
  hostReport := .of_plain (fun _ => ⟨rfl, rfl⟩) HostReport.decode_encode
  hostDeregistration := .of_plain (fun _ => ⟨rfl, rfl⟩) HostDeregistration.decode_encode
  hostHeartbeat := .of_plain (fun _ => ⟨rfl, rfl⟩) HostHeartbeat.decode_encode
  host := .of_proper (fun _ => Host.decode_encode) Host.proper_of_decode
  clusterType := .of_plain (fun _ => ⟨rfl, rfl⟩) ClusterType.decode_encode
  clusterReport := .of_plain (fun _ => ⟨rfl, rfl⟩) ClusterReport.decode_encode
  cluster := .of_proper (fun _ => Cluster.decode_encode) Cluster.proper_of_decode
  sapSystemType := .of_plain (fun _ => ⟨rfl, rfl⟩) SapSystemType.decode_encode
  sapInstanceReport := .of_plain (fun _ => ⟨rfl, rfl⟩) SapInstanceReport.decode_encode
  sapSystemReport := .of_plain (fun _ => ⟨rfl, rfl⟩) SapSystemReport.decode_encode
  sapSystemInstance := .of_proper (fun _ => SapSystemInstance.decode_encode)
    SapSystemInstance.proper_of_decode
  slesSubscriptionReport := .of_proper (fun _ => SlesSubscriptionReport.decode_encode)
    SlesSubscriptionReport.proper_of_decode
  slesReport := .of_proper (fun _ => SlesReport.decode_encode) SlesReport.proper_of_decode
  slesSubscription := .of_proper (fun _ => SlesSubscription.decode_encode)
    SlesSubscription.proper_of_decode
  checkHealth := .of_plain (fun _ => ⟨rfl, rfl⟩) CheckHealth.decode_encode
  checkResultEntry := .of_plain (fun _ => ⟨rfl, rfl⟩) CheckResultEntry.decode_encode
  checksReport := .of_plain (fun _ => ⟨rfl, rfl⟩) ChecksReport.decode_encode
  checksResult := .of_proper (fun _ => ChecksResult.decode_encode) ChecksResult.proper_of_decode

end AgentFacts
