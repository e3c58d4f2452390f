import DeskflowPlus.Lib.Checks
import DeskflowPlus.Transfer.FileMessageCodec

/-!
# The session messages and their codec

HELLO and AUTH_RESULT open a connection. Each travels as one CBOR map under integer keys, whose
fields the decoder checks one after the other.
-/

namespace DeskflowPlus.Transfer

open Checks

structure HelloMessage where
  deviceId : DeviceId
  /-- A UUID, which may be the null one. -/
  sessionId : BitVec 128
  appVersion : QString
  supportedMajorVersions : List UInt16
  certificateFingerprintSha256 : QByteArray
  timestampMs : Nat := 0

inductive AuthResultErrorCode where
  | none
  | invalidHello
  | unsupportedVersion
  | unknownPeer
  | revokedPeer
  | fingerprintMismatch
  | internalError
  deriving DecidableEq

namespace AuthResultErrorCode

def toNat : AuthResultErrorCode → Nat
  | .none => 0
  | .invalidHello => 1
  | .unsupportedVersion => 2
  | .unknownPeer => 3
  | .revokedPeer => 4
  | .fingerprintMismatch => 5
  | .internalError => 6

def ofNat? (code : Nat) : Option AuthResultErrorCode :=
  if code = 0 then Option.none
  else
    [.none, .invalidHello, .unsupportedVersion, .unknownPeer, .revokedPeer, .fingerprintMismatch,
      .internalError][code]?

end AuthResultErrorCode

def isKnownAuthResultErrorCode (code : AuthResultErrorCode) : Bool := code ≠ .none

structure AuthResultMessage where
  accepted : Bool := false
  errorCode : AuthResultErrorCode := .none
  diagnostic : QString := []

inductive SessionMessageError where
  | unsupportedVersion
  | unsupportedMessageType
  | tooLarge
  | malformedCbor
  | invalidFields
  | invalidDeviceId
  | invalidSessionId
  | invalidAppVersion
  | invalidVersions
  | invalidFingerprint
  | invalidTimestamp
  | invalidAuthResult
  | invalidSequence
  | invalidGoodbyeReason
  | invalidDiagnostic

namespace SessionMessageCodec

def kMaximumAppVersionUtf8Bytes : Nat := 64
def kMaximumSupportedVersions : Nat := 16
def kMaximumDiagnosticUtf8Bytes : Nat := 512
def qint64Max : Nat := 2 ^ 63 - 1

abbrev SessionMessageDecodeResult (α : Type) := Except (SessionMessageError × String) α

def hasExactIntegerKeys (map : QCborMap) (expected : List Int) : Bool :=
  FileMessageCodec.hasExactKeys map expected

def parseMap (metadata : QByteArray) : Option QCborMap :=
  if metadata = [] then none else (Cbor.decode metadata).bind QCborValue.isMap

/-- The versions, each an integer that is positive, 16 bits wide and not among those before it. -/
def readVersionsAfter (unique : List Int) : List QCborValue → Option (List UInt16)
  | [] => some []
  | entry :: entries =>
    match entry.isInteger with
    | none => none
    | some value =>
      if value ≤ 0 ∨ value > 2 ^ 16 - 1 ∨ value ∈ unique then none
      else (readVersionsAfter (value :: unique) entries).map (UInt16.ofNat value.toNat :: ·)

def readVersions (value : Option QCborValue) : Option (List UInt16) :=
  match value.bind QCborValue.isArray with
  | none => none
  | some array =>
    if array = [] ∨ array.length > kMaximumSupportedVersions then none
    else readVersionsAfter [] array

def validateVersions (versions : List UInt16) : Except String Unit := do
  require (versions ≠ [] ∧ versions.length ≤ kMaximumSupportedVersions)
    "HELLO supported versions must contain between 1 and 16 entries"
  require (0 ∉ versions ∧ versions.Nodup) "HELLO supported versions must be non-zero and unique"

def helloFields (message : HelloMessage) : QCborMap :=
  [(.integer 1, .bytes message.deviceId.toBytes),
    (.integer 2, .bytes (toRfc4122 message.sessionId)),
    (.integer 3, .text message.appVersion.toUtf8),
    (.integer 4, .array (message.supportedMajorVersions.map fun version => .integer version.toNat)),
    (.integer 5, .bytes message.certificateFingerprintSha256),
    (.integer 6, .integer message.timestampMs)]

def encodeHello (message : HelloMessage) : Except String QByteArray := do
  require (message.sessionId ≠ 0) "HELLO session ID is null"
  require (message.appVersion ≠ [] ∧
      message.appVersion.toUtf8.length ≤ kMaximumAppVersionUtf8Bytes)
    "HELLO app version is empty or exceeds 64 UTF-8 bytes"
  validateVersions message.supportedMajorVersions
  require (message.certificateFingerprintSha256.length = kSha256Bytes)
    "HELLO certificate fingerprint must be SHA-256"
  require (message.timestampMs ≠ 0 ∧ message.timestampMs ≤ qint64Max)
    "HELLO timestamp is outside the supported range"
  return QCborMap.toCbor (helloFields message)

def decodeHello (type : MessageType) (metadata : QByteArray) :
    SessionMessageDecodeResult HelloMessage := do
  require (type = .hello) (.unsupportedMessageType, "session metadata is not a HELLO message")
  let map ← present (parseMap metadata) (.malformedCbor, "HELLO is not one CBOR map")
  require (hasExactIntegerKeys map [1, 2, 3, 4, 5, 6])
    (.invalidFields, "HELLO contains missing, duplicate, or unknown fields")
  let deviceId ← present ((FileMessageCodec.readBytes map 1).bind DeviceId.fromBytes)
    (.invalidDeviceId, "HELLO device ID is invalid")
  let sessionId ← present ((FileMessageCodec.readBytes map 2).bind uuidFromBytes)
    (.invalidSessionId, "HELLO session ID is invalid")
  let appVersion ← present ((map.value 3).bind QCborValue.isString)
    (.invalidAppVersion, "HELLO app version is empty or too long")
  require (appVersion ≠ [] ∧ appVersion.toUtf8.length ≤ kMaximumAppVersionUtf8Bytes)
    (.invalidAppVersion, "HELLO app version is empty or too long")
  let versions ← present (readVersions (map.value 4))
    (.invalidVersions, "HELLO supported versions are invalid")
  let fingerprint ← present (FileMessageCodec.readBytes map 5)
    (.invalidFingerprint, "HELLO certificate fingerprint is invalid")
  require (fingerprint.length = kSha256Bytes)
    (.invalidFingerprint, "HELLO certificate fingerprint is invalid")
  let timestamp ← present ((map.value 6).bind QCborValue.isInteger)
    (.invalidTimestamp, "HELLO timestamp is outside the supported range")
  require (0 < timestamp) (.invalidTimestamp, "HELLO timestamp is outside the supported range")
  return {
    deviceId, sessionId := sessionId.1, appVersion, supportedMajorVersions := versions
    certificateFingerprintSha256 := fingerprint, timestampMs := timestamp.toNat }

def authResultFields (message : AuthResultMessage) : QCborMap :=
  (.integer 1, QCborValue.ofBool message.accepted) ::
    if message.accepted then []
    else [(.integer 2, .integer message.errorCode.toNat), (.integer 3, .text message.diagnostic.toUtf8)]

def encodeAuthResult (message : AuthResultMessage) : Except String QByteArray := do
  if message.accepted then
    require (message.errorCode = .none ∧ message.diagnostic = [])
      "accepted AUTH_RESULT cannot contain an error"
  else
    require (isKnownAuthResultErrorCode message.errorCode ∧ message.diagnostic ≠ [] ∧
        message.diagnostic.toUtf8.length ≤ kMaximumDiagnosticUtf8Bytes)
      "rejected AUTH_RESULT requires a known bounded error"
  return QCborMap.toCbor (authResultFields message)

def decodeAuthResult (type : MessageType) (metadata : QByteArray) :
    SessionMessageDecodeResult AuthResultMessage := do
  require (type = .authResult)
    (.unsupportedMessageType, "session metadata is not an AUTH_RESULT message")
  let map ← present (parseMap metadata) (.malformedCbor, "AUTH_RESULT is not one CBOR map")
  let accepted ← present ((map.value 1).bind QCborValue.isBool)
    (.invalidAuthResult, "AUTH_RESULT acceptance is not boolean")
  if accepted then
    require (hasExactIntegerKeys map [1])
      (.invalidAuthResult, "accepted AUTH_RESULT contains extra fields")
    return { accepted := true }
  else
    require (hasExactIntegerKeys map [1, 2, 3])
      (.invalidAuthResult, "rejected AUTH_RESULT is missing error fields")
    let errorCode ← present ((map.value 2).bind QCborValue.isInteger)
      (.invalidAuthResult, "rejected AUTH_RESULT contains an invalid error")
    require (0 < errorCode ∧ errorCode ≤ quint32Max)
      (.invalidAuthResult, "rejected AUTH_RESULT contains an invalid error")
    let typedErrorCode ← present (AuthResultErrorCode.ofNat? errorCode.toNat)
      (.invalidAuthResult, "rejected AUTH_RESULT contains an invalid error")
    let diagnostic ← present ((map.value 3).bind QCborValue.isString)
      (.invalidAuthResult, "rejected AUTH_RESULT contains an invalid error")
    require (diagnostic ≠ [] ∧ diagnostic.toUtf8.length ≤ kMaximumDiagnosticUtf8Bytes)
      (.invalidAuthResult, "rejected AUTH_RESULT contains an invalid error")
    return { accepted := false, errorCode := typedErrorCode, diagnostic }

end SessionMessageCodec

end DeskflowPlus.Transfer
