import AgentFacts.Proofs.InstantText
import AgentFacts.Proofs.RecordReading
import AgentFacts.Proofs.StoredRows

namespace AgentFacts

/-- An instant that was read from JSON. -/
def Instant.Read (i : Instant) : Prop :=
  ∃ json, Decode.instant json = .ok i

theorem Instant.read_of_decode (json : Json) (i : Instant) (h : Decode.instant json = .ok i) :
    i.Read :=
  ⟨json, h⟩

/-- The instants that can be read are those of the years that have dates. -/
theorem Instant.read_iff {i : Instant} : i.Read ↔ i.Dated := by
  constructor
  · rintro ⟨json, h⟩
    cases json with
    | text s =>
      simp only [Decode.instant] at h
      split at h
      · next hs =>
        cases h
        exact Rfc3339.dated_of_parse hs
      · cases h
    | _ => cases h
  · intro h
    exact ⟨.text i.text, by rw [Decode.instant, Rfc3339.parse_text h]⟩

/-- An id of 64 bits. -/
def EnvelopeId.Fits (id : EnvelopeId) : Prop :=
  -Int.pow 2 63 ≤ id.value ∧ id.value ≤ Int.pow 2 63 - 1

namespace Decode

variable {α : Type} {read : Json → Decoded α} {write : α → Json} {P : α → Prop}

@[simp] theorem text_text (s : String) : text (.text s) = .ok s := rfl

/-- A number within the limits is read as it was written. -/
theorem whole_int {name : String} {low high i : Int} (hlow : low ≤ i) (hhigh : i ≤ high) :
    whole name low high (.int i) = .ok i :=
  if_pos ⟨hlow, hhigh⟩

@[simp] theorem uint32_nat (n : UInt32) : uint32 (.nat n.toNat) = .ok n := by
  have hhigh : (n.toNat : Int) ≤ 4294967295 := by
    have := n.toNat_lt
    omega
  show (whole "u32" 0 4294967295 (.int n.toNat) >>= fun i => pure i.toNat.toUInt32) = .ok n
  rw [whole_int (Int.natCast_nonneg _) hhigh]
  exact congrArg Except.ok (UInt32.ofNat_toNat)

@[simp] theorem uint64_nat (n : UInt64) : uint64 (.nat n.toNat) = .ok n := by
  have hhigh : (n.toNat : Int) ≤ 18446744073709551615 := by
    have := n.toNat_lt
    omega
  show (whole "u64" 0 18446744073709551615 (.int n.toNat) >>= fun i => pure i.toNat.toUInt64) =
    .ok n
  rw [whole_int (Int.natCast_nonneg _) hhigh]
  exact congrArg Except.ok (UInt64.ofNat_toNat)

theorem bounds_of_int64 {json : Json} {i : Int} (h : int64 json = .ok i) :
    -Int.pow 2 63 ≤ i ∧ i ≤ Int.pow 2 63 - 1 := by
  unfold int64 whole at h
  split at h
  · split at h
    · next hrange =>
      cases h
      exact hrange
    · cases h
  · cases h

theorem instant_text {i : Instant} (h : i.Read) : instant (.text i.text) = .ok i := by
  rw [instant, Rfc3339.parse_text (Instant.read_iff.1 h)]

/-- Values of which none is written as null. -/
theorem option_ofOption {o : Option α} (hnull : ∀ a, write a ≠ .null)
    (h : ∀ a ∈ o, read (write a) = .ok a) : option read (.ofOption (o.map write)) = .ok o := by
  cases o with
  | none => rfl
  | some a =>
    have ha := h a rfl
    show option read (write a) = .ok (some a)
    unfold option
    split
    · next hwrite => exact absurd hwrite (hnull a)
    · rw [ha]
      rfl

theorem list_map {l : List α} (h : ∀ a ∈ l, read (write a) = .ok a) :
    list read (.list (l.map write)) = .ok l :=
  mapM_of_forall h

theorem option_yields (hread : ∀ json a, read json = .ok a → P a) (json : Json) (o : Option α)
    (h : option read json = .ok o) : ∀ a ∈ o, P a := by
  unfold option at h
  split at h
  · cases h
    nofun
  · obtain ⟨a, ha, rfl⟩ := map_eq_ok.1 h
    rintro _ ⟨⟩
    exact hread _ _ ha

theorem list_yields (hread : ∀ json a, read json = .ok a → P a) (json : Json) (l : List α)
    (h : list read json = .ok l) : ∀ a ∈ l, P a := by
  unfold list at h
  split at h
  · next items =>
    induction items generalizing l with
    | nil =>
      cases h
      nofun
    | cons item items ih =>
      rw [List.mapM_cons] at h
      obtain ⟨a, ha, h⟩ := bind_eq_ok.1 h
      obtain ⟨rest, hrest, h⟩ := bind_eq_ok.1 h
      cases h
      rw [List.forall_mem_cons]
      exact ⟨hread _ _ ha, ih rest hrest⟩
  · cases h

@[simp] theorem option_text (o : Option String) :
    option text (.ofOption (o.map .text)) = .ok o :=
  option_ofOption nofun fun s _ => text_text s

@[simp] theorem list_text (l : List String) : list text (.list (l.map .text)) = .ok l :=
  list_map fun s _ => text_text s

theorem option_instant {o : Option Instant} (h : ∀ i ∈ o, i.Read) :
    option instant (.ofOption (o.map fun i => .text i.text)) = .ok o :=
  option_ofOption nofun fun i hi => instant_text (h i hi)

end Decode

@[simp] theorem AgentId.decode_encode (a : AgentId) : decode a.encode = .ok a := rfl

@[simp] theorem EventType.decode_encode (t : EventType) : decode t.encode = .ok t := rfl

theorem EnvelopeId.decode_encode {id : EnvelopeId} (h : id.Fits) : decode id.encode = .ok id := by
  have hvalue : Decode.int64 (.int id.value) = .ok id.value := Decode.whole_int h.1 h.2
  unfold decode encode
  rw [hvalue]
  rfl

theorem EnvelopeId.fits_of_decode (json : Json) (id : EnvelopeId) (h : decode json = .ok id) :
    id.Fits := by
  obtain ⟨i, hi, rfl⟩ := map_eq_ok.1 h
  exact Decode.bounds_of_int64 hi

theorem Decode.option_envelopeId {o : Option EnvelopeId} (h : ∀ id ∈ o, id.Fits) :
    option EnvelopeId.decode (.ofOption (o.map EnvelopeId.encode)) = .ok o :=
  option_ofOption nofun fun id hid => EnvelopeId.decode_encode (h id hid)

attribute [simp] CheckHealth.decode_encode

@[simp] theorem ClusterType.decode_encode (t : ClusterType) : decode t.encode = .ok t := by
  cases t <;> rfl

@[simp] theorem SapSystemType.decode_encode (t : SapSystemType) : decode t.encode = .ok t := by
  cases t <;> rfl

/-- A success has no reason, and the reason of a failure is kept, whatever it says. -/
@[simp] theorem Outcome.decode_encode (o : Outcome) : decode o.encode = .ok o := by
  cases o with
  | success => rfl
  | failure reason => rfl

end AgentFacts
