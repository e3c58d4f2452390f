import DeskflowPlus.Transfer.ControlMessageCodec
import DeskflowPlus.Transfer.SessionMessageCodec

/-!
# Capabilities

A CAPABILITIES message lists what a peer supports and its limits, as one CBOR map under integer keys.
Writing, reading and negotiating all check the feature list in the same way: between 1 and 64 different
tokens, each matched against a pattern. The pattern ends in a dollar sign, which lets one line feed
follow the token, so the check follows the grammar of tokens but for lists with such an element.
-/

namespace DeskflowPlus.Transfer

open Checks

def kMaximumNegotiablePayloadBytes : Nat := 64 * 1024 * 1024
def kMaximumNegotiableManifestEntries : Nat := 100000
def kMaximumNegotiableConcurrency : Nat := 64
def kFileProtocolFeature : QString := QString.literal "file.v1"
def kFileReceiveFeature : QString := QString.literal "file.receive.v1"
def kSha256Feature : QString := QString.literal "sha256"

structure CapabilitiesMessage where
  features : List QString
  preferredChunkBytes : Nat := 1 * 1024 * 1024
  maxPayloadBytes : Nat := 4 * 1024 * 1024
  maxConcurrentTransfers : Nat := 2
  maxConcurrentFiles : Nat := 2
  maxManifestEntries : Nat := kMaximumNegotiableManifestEntries
  conflictPolicies : List ConflictPolicy := [.autoRename, .ask]

def CapabilitiesMessage.canReceiveFiles (message : CapabilitiesMessage) : Bool :=
  kFileReceiveFeature ∈ message.features

inductive CapabilityCodecError where
  | unsupportedMessageType
  | malformedCbor
  | invalidFields
  | invalidFeatures
  | invalidLimits
  | invalidConflictPolicies

inductive CapabilityNegotiationError where
  | noCommonProtocolVersion
  | invalidLocalCapabilities
  | invalidPeerCapabilities
  | missingRequiredFeature
  | noCommonConflictPolicy
  deriving DecidableEq

namespace CapabilityCodec

def kMaximumListEntries : Nat := 64
def kMaximumTokenUtf8Bytes : Nat := 64

/-- `[a-z0-9]`. -/
def isTokenStart (unit : UInt16) : Bool :=
  (0x61 ≤ unit && unit ≤ 0x7a) || (0x30 ≤ unit && unit ≤ 0x39)

/-- `[a-z0-9._-]`. -/
def isTokenUnit (unit : UInt16) : Bool :=
  isTokenStart unit || unit = 0x2e || unit = 0x5f || unit = 0x2d

/-- The pattern `^[a-z0-9][a-z0-9._-]{0,63}$`, whose dollar sign lets a line feed follow. -/
def kFeaturePattern : QString → Bool
  | [] => false
  | first :: rest =>
    let rest := if rest.getLast? = some 0x0a then rest.dropLast else rest
    isTokenStart first && rest.length ≤ 63 && rest.all isTokenUnit

def validateFeatures (features : List QString) : Except String Unit := do
  require (features ≠ [] ∧ features.length ≤ kMaximumListEntries)
    "capability features must contain between 1 and 64 entries"
  require ((∀ feature ∈ features, feature.toUtf8.length ≤ kMaximumTokenUtf8Bytes ∧
        kFeaturePattern feature) ∧ features.Nodup)
    "capability feature names must be bounded, canonical, and unique"

def validatePolicies (policies : List ConflictPolicy) : Except String Unit := do
  require (policies ≠ [] ∧ policies.length ≤ 4)
    "capability conflict policies must contain between 1 and 4 entries"
  require policies.Nodup "capability conflict policies must be known and unique"

def validateLimits (message : CapabilitiesMessage) : Except String Unit :=
  require
    (message.preferredChunkBytes ≠ 0 ∧ message.maxPayloadBytes ≠ 0 ∧
      message.preferredChunkBytes ≤ message.maxPayloadBytes ∧
      message.maxPayloadBytes ≤ kMaximumNegotiablePayloadBytes ∧
      message.maxConcurrentTransfers ≠ 0 ∧
      message.maxConcurrentTransfers ≤ kMaximumNegotiableConcurrency ∧
      message.maxConcurrentFiles ≠ 0 ∧
      message.maxConcurrentFiles ≤ kMaximumNegotiableConcurrency ∧
      message.maxManifestEntries ≠ 0 ∧
      message.maxManifestEntries ≤ kMaximumNegotiableManifestEntries)
    "capability limits are zero, inconsistent, or exceed RDFT/1 bounds"

def validate (message : CapabilitiesMessage) : Except String Unit := do
  validateFeatures message.features
  validateLimits message
  validatePolicies message.conflictPolicies

def capabilitiesFields (message : CapabilitiesMessage) : QCborMap :=
  [(.integer 1, .array (message.features.map fun feature => .text feature.toUtf8)),
    (.integer 2, .integer message.preferredChunkBytes),
    (.integer 3, .integer message.maxPayloadBytes),
    (.integer 4, .integer message.maxConcurrentTransfers),
    (.integer 5, .integer message.maxConcurrentFiles),
    (.integer 6, .integer message.maxManifestEntries),
    (.integer 7,
      .array (message.conflictPolicies.map fun policy =>
        .text (ControlMessageCodec.conflictPolicyName policy).toUtf8))]

def encode (message : CapabilitiesMessage) : Except String QByteArray := do
  validate message
  return QCborMap.toCbor (capabilitiesFields message)

def hasExactFields (map : QCborMap) : Bool :=
  map.length = 7 && map.all fun entry => entry.1.isInteger.any fun field => 1 ≤ field && field ≤ 7

def readStrings (value : Option QCborValue) : Option (List QString) :=
  (value.bind QCborValue.isArray).bind fun array => array.mapM QCborValue.isString

def readFeatures (value : Option QCborValue) : Option (List QString) :=
  (readStrings value).bind fun features =>
    match validateFeatures features with
    | .ok () => some features
    | .error _ => none

def readPolicies (value : Option QCborValue) : Option (List ConflictPolicy) :=
  (readStrings value).bind fun names =>
    (names.mapM ControlMessageCodec.parseConflictPolicy).bind fun policies =>
      match validatePolicies policies with
      | .ok () => some policies
      | .error _ => none

def readBoundedUint32 (map : QCborMap) (field : Int) (maximum : Nat) : Option Int :=
  ((map.value field).bind QCborValue.isInteger).bind fun value =>
    if value ≤ 0 ∨ value > maximum then none else some value

def decode (type : MessageType) (metadata : QByteArray) :
    Except (CapabilityCodecError × String) CapabilitiesMessage := do
  require (type = .capabilities)
    (.unsupportedMessageType, "metadata is not a CAPABILITIES message")
  let map ← present (SessionMessageCodec.parseMap metadata)
    (.malformedCbor, "CAPABILITIES is not one CBOR map")
  require (hasExactFields map) (.invalidFields, "CAPABILITIES contains missing or unknown fields")
  let features ← present (readFeatures (map.value 1))
    (.invalidFeatures, "CAPABILITIES feature list is invalid")
  let limits := (.invalidLimits, "CAPABILITIES limits are invalid")
  let preferredChunk ← present
    (readBoundedUint32 map 2 kMaximumNegotiablePayloadBytes) limits
  let maxPayload ← present (readBoundedUint32 map 3 kMaximumNegotiablePayloadBytes) limits
  let maxTransfers ← present (readBoundedUint32 map 4 kMaximumNegotiableConcurrency) limits
  let maxFiles ← present (readBoundedUint32 map 5 kMaximumNegotiableConcurrency) limits
  let maxEntries ← present
    (readBoundedUint32 map 6 kMaximumNegotiableManifestEntries) limits
  require (preferredChunk ≤ maxPayload) limits
  let policies ← present (readPolicies (map.value 7))
    (.invalidConflictPolicies, "CAPABILITIES conflict policies are invalid")
  return {
    features
    preferredChunkBytes := preferredChunk.toNat
    maxPayloadBytes := maxPayload.toNat
    maxConcurrentTransfers := maxTransfers.toNat
    maxConcurrentFiles := maxFiles.toNat
    maxManifestEntries := maxEntries.toNat
    conflictPolicies := policies }

end CapabilityCodec

namespace CapabilityNegotiator

def intersectionPreservingLocalOrder {α : Type} [DecidableEq α] (own peer : List α) : List α :=
  own.foldl
    (fun result value => if value ∈ peer ∧ value ∉ result then result ++ [value] else result) []

def negotiate (localVersions : List UInt16) (own : CapabilitiesMessage)
    (peerVersions : List UInt16) (peer : CapabilitiesMessage) :
    Except (CapabilityNegotiationError × String) NegotiatedCapabilities := do
  let commonVersions := intersectionPreservingLocalOrder localVersions peerVersions
  let selectedVersion ← present commonVersions.max?
    (.noCommonProtocolVersion, "peers have no common RDFT major version")
  (CapabilityCodec.validate own).mapError fun diagnostic => (.invalidLocalCapabilities, diagnostic)
  (CapabilityCodec.validate peer).mapError fun diagnostic => (.invalidPeerCapabilities, diagnostic)
  let features := intersectionPreservingLocalOrder own.features peer.features
  require (kFileProtocolFeature ∈ features ∧ kSha256Feature ∈ features)
    (.missingRequiredFeature,
      "peer does not share the required file.v1 and sha256 capabilities")
  let policies := intersectionPreservingLocalOrder own.conflictPolicies peer.conflictPolicies
  require (policies ≠ []) (.noCommonConflictPolicy, "peers have no common conflict policy")
  let maxPayload := min own.maxPayloadBytes peer.maxPayloadBytes
  return {
    protocolMajorVersion := selectedVersion
    features
    chunkBytes := min (min own.preferredChunkBytes peer.preferredChunkBytes) maxPayload
    maxPayloadBytes := maxPayload
    maxConcurrentTransfers := min own.maxConcurrentTransfers peer.maxConcurrentTransfers
    maxConcurrentFiles := min own.maxConcurrentFiles peer.maxConcurrentFiles
    maxManifestEntries := min own.maxManifestEntries peer.maxManifestEntries
    conflictPolicies := policies
    localCanReceiveFiles := own.canReceiveFiles
    peerCanReceiveFiles := peer.canReceiveFiles }

end CapabilityNegotiator

end DeskflowPlus.Transfer
