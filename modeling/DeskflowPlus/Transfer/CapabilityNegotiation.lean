import DeskflowPlus.Transfer.CapabilityCodec

/-!
# Both ends negotiate the same limits

Each end negotiates with its own message first and the peer's second. The intersections keep the own
order, so the two ends hold lists with the same elements in different orders; everything else is a
minimum, a maximum or one of the two directional flags.
-/

namespace DeskflowPlus.Transfer.CapabilityNegotiator

open Checks

section Intersection

variable {α : Type} [DecidableEq α]

theorem mem_foldl_intersection {own peer result : List α} {value : α} :
    value ∈ own.foldl
        (fun result value => if value ∈ peer ∧ value ∉ result then result ++ [value] else result)
        result ↔
      value ∈ result ∨ value ∈ own ∧ value ∈ peer := by
  induction own generalizing result with
  | nil => simp
  | cons first own ih =>
    rw [List.foldl_cons, ih]
    by_cases hfirst : first ∈ peer ∧ first ∉ result
    · rw [if_pos hfirst, List.mem_append, List.mem_singleton, List.mem_cons]
      constructor
      · rintro ((hresult | rfl) | ⟨hown, hpeer⟩)
        · exact .inl hresult
        · exact .inr ⟨.inl rfl, hfirst.1⟩
        · exact .inr ⟨.inr hown, hpeer⟩
      · rintro (hresult | ⟨rfl | hown, hpeer⟩)
        · exact .inl (.inl hresult)
        · exact .inl (.inr rfl)
        · exact .inr ⟨hown, hpeer⟩
    · rw [if_neg hfirst, List.mem_cons]
      constructor
      · rintro (hresult | ⟨hown, hpeer⟩)
        · exact .inl hresult
        · exact .inr ⟨.inr hown, hpeer⟩
      · rintro (hresult | ⟨rfl | hown, hpeer⟩)
        · exact .inl hresult
        -- a value of both lists that is not added is in the result already
        · exact .inl (not_not.mp fun hnew => hfirst ⟨hpeer, hnew⟩)
        · exact .inr ⟨hown, hpeer⟩

@[simp]
theorem mem_intersectionPreservingLocalOrder {own peer : List α} {value : α} :
    value ∈ intersectionPreservingLocalOrder own peer ↔ value ∈ own ∧ value ∈ peer := by
  unfold intersectionPreservingLocalOrder
  rw [mem_foldl_intersection]
  simp

theorem mem_intersection_comm {own peer : List α} {value : α} :
    value ∈ intersectionPreservingLocalOrder own peer ↔
      value ∈ intersectionPreservingLocalOrder peer own := by
  simp only [mem_intersectionPreservingLocalOrder]
  exact and_comm

theorem intersection_ne_nil_comm {own peer : List α} :
    intersectionPreservingLocalOrder own peer ≠ [] ↔
      intersectionPreservingLocalOrder peer own ≠ [] := by
  have hmem (value : α) := @mem_intersection_comm α _ own peer value
  simp only [Ne, List.eq_nil_iff_forall_not_mem, hmem]

end Intersection

theorem uint16_max_eq (left right : UInt16) :
    max left right = if left ≤ right then right else left := rfl

instance lawfulOrderMaxUInt16 : Std.LawfulOrderMax UInt16 where
  max_eq_or left right := by
    rw [uint16_max_eq]
    split
    · exact .inr rfl
    · exact .inl rfl
  max_le_iff left right bound := by
    rw [uint16_max_eq]
    split <;> simp only [UInt16.le_iff_toNat_le] at * <;> omega

theorem max?_eq_some_of_mem_iff {left right : List UInt16} {version : UInt16}
    (hmem : ∀ value, value ∈ left ↔ value ∈ right) (h : left.max? = some version) :
    right.max? = some version := by
  rw [List.max?_eq_some_iff] at h ⊢
  exact ⟨(hmem version).mp h.1, fun value hvalue => h.2 value ((hmem value).mpr hvalue)⟩

variable {localVersions peerVersions : List UInt16} {own peer : CapabilitiesMessage}

/-- What a negotiation asks for before it takes the limits. -/
structure Agrees (localVersions : List UInt16) (own : CapabilitiesMessage)
    (peerVersions : List UInt16) (peer : CapabilitiesMessage) (version : UInt16) : Prop where
  selected : (intersectionPreservingLocalOrder localVersions peerVersions).max? = some version
  ownValid : CapabilityCodec.validate own = .ok ()
  peerValid : CapabilityCodec.validate peer = .ok ()
  file : kFileProtocolFeature ∈ intersectionPreservingLocalOrder own.features peer.features
  sha256 : kSha256Feature ∈ intersectionPreservingLocalOrder own.features peer.features
  policies : intersectionPreservingLocalOrder own.conflictPolicies peer.conflictPolicies ≠ []

/-- The limits two messages come to. -/
def agreed (version : UInt16) (own peer : CapabilitiesMessage) : NegotiatedCapabilities where
  protocolMajorVersion := version
  features := intersectionPreservingLocalOrder own.features peer.features
  chunkBytes := min (min own.preferredChunkBytes peer.preferredChunkBytes)
    (min own.maxPayloadBytes peer.maxPayloadBytes)
  maxPayloadBytes := min own.maxPayloadBytes peer.maxPayloadBytes
  maxConcurrentTransfers := min own.maxConcurrentTransfers peer.maxConcurrentTransfers
  maxConcurrentFiles := min own.maxConcurrentFiles peer.maxConcurrentFiles
  maxManifestEntries := min own.maxManifestEntries peer.maxManifestEntries
  conflictPolicies := intersectionPreservingLocalOrder own.conflictPolicies peer.conflictPolicies
  localCanReceiveFiles := own.canReceiveFiles
  peerCanReceiveFiles := peer.canReceiveFiles

theorem negotiate_eq_ok {negotiated : NegotiatedCapabilities} :
    negotiate localVersions own peerVersions peer = .ok negotiated ↔
      ∃ version, Agrees localVersions own peerVersions peer version ∧
        negotiated = agreed version own peer := by
  unfold negotiate
  dsimp only
  rw [present_bind_eq_ok]
  refine exists_congr fun version => ?_
  rw [unit_bind_eq_ok, mapError_eq_ok, unit_bind_eq_ok, mapError_eq_ok, require_bind_eq_ok,
    require_bind_eq_ok]
  constructor
  · rintro ⟨hversion, hown, hpeer, ⟨hfile, hsha256⟩, hpolicies, h⟩
    cases h
    exact ⟨⟨hversion, hown, hpeer, hfile, hsha256, hpolicies⟩, rfl⟩
  · rintro ⟨h, rfl⟩
    exact ⟨h.selected, h.ownValid, h.peerValid, ⟨h.file, h.sha256⟩, h.policies, rfl⟩

theorem Agrees.symm {version : UInt16}
    (h : Agrees localVersions own peerVersions peer version) :
    Agrees peerVersions peer localVersions own version where
  selected := max?_eq_some_of_mem_iff (fun _ => mem_intersection_comm) h.selected
  ownValid := h.peerValid
  peerValid := h.ownValid
  file := mem_intersection_comm.mp h.file
  sha256 := mem_intersection_comm.mp h.sha256
  policies := intersection_ne_nil_comm.mp h.policies

theorem Agrees.version_eq {version other : UInt16}
    (h : Agrees localVersions own peerVersions peer version)
    (hother : Agrees localVersions own peerVersions peer other) : version = other :=
  Option.some.inj (h.selected.symm.trans hother.selected)

/-- The same capabilities, seen from both ends. -/
structure Mirrored (mine theirs : NegotiatedCapabilities) : Prop where
  protocolMajorVersion : mine.protocolMajorVersion = theirs.protocolMajorVersion
  features : ∀ feature, feature ∈ mine.features ↔ feature ∈ theirs.features
  chunkBytes : mine.chunkBytes = theirs.chunkBytes
  maxPayloadBytes : mine.maxPayloadBytes = theirs.maxPayloadBytes
  maxConcurrentTransfers : mine.maxConcurrentTransfers = theirs.maxConcurrentTransfers
  maxConcurrentFiles : mine.maxConcurrentFiles = theirs.maxConcurrentFiles
  maxManifestEntries : mine.maxManifestEntries = theirs.maxManifestEntries
  conflictPolicies : ∀ policy, policy ∈ mine.conflictPolicies ↔ policy ∈ theirs.conflictPolicies
  localCanReceiveFiles : mine.localCanReceiveFiles = theirs.peerCanReceiveFiles
  peerCanReceiveFiles : mine.peerCanReceiveFiles = theirs.localCanReceiveFiles

theorem mirrored_agreed (version : UInt16) (own peer : CapabilitiesMessage) :
    Mirrored (agreed version own peer) (agreed version peer own) where
  protocolMajorVersion := rfl
  features _ := mem_intersection_comm
  chunkBytes := by
    simp only [agreed]
    omega
  maxPayloadBytes := Nat.min_comm ..
  maxConcurrentTransfers := Nat.min_comm ..
  maxConcurrentFiles := Nat.min_comm ..
  maxManifestEntries := Nat.min_comm ..
  conflictPolicies _ := mem_intersection_comm
  localCanReceiveFiles := rfl
  peerCanReceiveFiles := rfl

structure WithinLimits (own peer : CapabilitiesMessage) (negotiated : NegotiatedCapabilities) :
    Prop where
  chunk : negotiated.chunkBytes ≤ negotiated.maxPayloadBytes
  ownPayload : negotiated.maxPayloadBytes ≤ own.maxPayloadBytes
  peerPayload : negotiated.maxPayloadBytes ≤ peer.maxPayloadBytes

theorem withinLimits_agreed (version : UInt16) (own peer : CapabilitiesMessage) :
    WithinLimits own peer (agreed version own peer) where
  chunk := Nat.min_le_right ..
  ownPayload := Nat.min_le_left ..
  peerPayload := Nat.min_le_right ..

/-- **Negotiation is symmetric.** One end succeeds where the other does, and what they take are
mirror images within the limits of both. -/
theorem negotiate_symmetric (localVersions peerVersions : List UInt16)
    (own peer : CapabilitiesMessage) :
    ((∃ mine, negotiate localVersions own peerVersions peer = .ok mine) ↔
        ∃ theirs, negotiate peerVersions peer localVersions own = .ok theirs) ∧
      ∀ mine theirs, negotiate localVersions own peerVersions peer = .ok mine →
        negotiate peerVersions peer localVersions own = .ok theirs →
        Mirrored mine theirs ∧ WithinLimits own peer mine := by
  refine ⟨⟨?_, ?_⟩, ?_⟩
  · rintro ⟨mine, h⟩
    obtain ⟨version, hagrees, -⟩ := negotiate_eq_ok.mp h
    exact ⟨_, negotiate_eq_ok.mpr ⟨version, hagrees.symm, rfl⟩⟩
  · rintro ⟨theirs, h⟩
    obtain ⟨version, hagrees, -⟩ := negotiate_eq_ok.mp h
    exact ⟨_, negotiate_eq_ok.mpr ⟨version, hagrees.symm, rfl⟩⟩
  · intro mine theirs hmine htheirs
    obtain ⟨version, hagrees, rfl⟩ := negotiate_eq_ok.mp hmine
    obtain ⟨other, hother, rfl⟩ := negotiate_eq_ok.mp htheirs
    obtain rfl := hagrees.version_eq hother.symm
    exact ⟨mirrored_agreed version own peer, withinLimits_agreed version own peer⟩

/-- Two ends that list the same features in different orders, with different limits. -/
theorem negotiate_symmetric_reordered :
    Mirrored
      (agreed 1 { features := [kFileProtocolFeature, kSha256Feature], maxPayloadBytes := 2097152 }
        { features := [kSha256Feature, kFileReceiveFeature, kFileProtocolFeature] })
      (agreed 1 { features := [kSha256Feature, kFileReceiveFeature, kFileProtocolFeature] }
        { features := [kFileProtocolFeature, kSha256Feature], maxPayloadBytes := 2097152 }) :=
  ((negotiate_symmetric [1] [2, 1]
    { features := [kFileProtocolFeature, kSha256Feature], maxPayloadBytes := 2097152 }
    { features := [kSha256Feature, kFileReceiveFeature, kFileProtocolFeature] }).2 _ _
      (by decide) (by decide)).1

end DeskflowPlus.Transfer.CapabilityNegotiator
