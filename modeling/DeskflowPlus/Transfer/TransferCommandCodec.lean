import DeskflowPlus.Transfer.FileMessageRoundTrip
import DeskflowPlus.Transfer.TransferTypes

/-!
# The commands and their codec

TRANSFER_PAUSE and TRANSFER_RESUME name a transfer; TRANSFER_CANCEL adds a reason, and whether what
has been received is kept.
-/

namespace DeskflowPlus.Transfer

open Checks

inductive TransferCommandCodecError where
  | unsupportedVersion
  | unsupportedMessageType
  | tooLarge
  | malformedCbor
  | invalidFields
  | invalidTransferId
  | invalidReason
  | invalidKeepPartial

def TransferCancelReason.toNat : TransferCancelReason → Nat
  | .userRequested => 1
  | .applicationShutdown => 2

def TransferCancelReason.ofNat? (reason : Nat) : Option TransferCancelReason :=
  if reason = 1 then some .userRequested else if reason = 2 then some .applicationShutdown else none

namespace TransferCommandCodec

def kMaximumTransferCommandMetadataBytes : Nat := 1 * 1024 * 1024

def messageType : TransferCommandMessage → MessageType
  | .pause _ => .transferPause
  | .resume _ => .transferResume
  | .cancel _ _ _ => .transferCancel

def fields : TransferCommandMessage → QCborMap
  | .pause transferId | .resume transferId => [(.integer 1, .bytes transferId.toBytes)]
  | .cancel transferId reason keepPartial => [
      (.integer 1, .bytes transferId.toBytes), (.integer 2, .integer reason.toNat),
      (.integer 3, QCborValue.ofBool keepPartial)]

/-- No command of the listed reasons is refused. -/
def encode (message : TransferCommandMessage) : Except String QByteArray :=
  .ok (QCborMap.toCbor (fields message))

def hasExactIntegerKeys (map : QCborMap) (expected : List Int) : Bool :=
  FileMessageCodec.hasExactKeys map expected

def readTransferId (value : Option QCborValue) : Option TransferId :=
  (value.bind QCborValue.isByteArray).bind TransferId.fromBytes

def decode (protocolVersion : UInt16) (type : MessageType) (metadata : QByteArray) :
    Except (TransferCommandCodecError × String) TransferCommandMessage := do
  require (protocolVersion = kProtocolMajorVersion)
    (.unsupportedVersion, "transfer command version is unsupported")
  require (type ∈ [MessageType.transferPause, .transferResume, .transferCancel])
    (.unsupportedMessageType, "frame is not a transfer command")
  require (metadata ≠ [] ∧ metadata.length ≤ kMaximumTransferCommandMetadataBytes)
    (.tooLarge, "transfer command metadata is empty or too large")
  let map ← present ((Cbor.decode metadata).bind QCborValue.isMap)
    (.malformedCbor, "transfer command metadata is not one CBOR map")
  require (hasExactIntegerKeys map (if type = .transferCancel then [1, 2, 3] else [1]))
    (.invalidFields, "transfer command contains missing, duplicate, or unknown fields")
  let transferId ← present (readTransferId (map.value 1))
    (.invalidTransferId, "transfer command transfer ID is invalid")
  if type = .transferPause then return .pause transferId
  else if type = .transferResume then return .resume transferId
  else
    let encodedReason ← present ((map.value 2).bind QCborValue.isInteger)
      (.invalidReason, "TRANSFER_CANCEL reason is unknown")
    require (0 ≤ encodedReason ∧ encodedReason ≤ quint32Max)
      (.invalidReason, "TRANSFER_CANCEL reason is unknown")
    let reason ← present (TransferCancelReason.ofNat? encodedReason.toNat)
      (.invalidReason, "TRANSFER_CANCEL reason is unknown")
    let keepPartial ← present ((map.value 3).bind QCborValue.isBool)
      (.invalidKeepPartial, "TRANSFER_CANCEL keepPartial is not boolean")
    return .cancel transferId reason keepPartial

theorem encodable_fields (message : TransferCommandMessage) :
    ∀ entry ∈ fields message, Cbor.EncodableEntry entry := by
  open QCborMap in
  cases message with
  | pause transferId | resume transferId =>
    exact List.forall_mem_singleton.mpr (encodable_bytes (by decide) (length_toBytes_lt _))
  | cancel transferId reason keepPartial =>
    have hreason : reason.toNat < 2 ^ 63 := by cases reason <;> decide
    simp only [fields, List.forall_mem_cons]
    exact ⟨encodable_bytes (by decide) (length_toBytes_lt _), encodable_unsigned (by decide) hreason,
      encodable_bool (by decide) _, nofun⟩

theorem length_toCbor_fields (message : TransferCommandMessage) :
    (QCborMap.toCbor (fields message)).length ≤ kMaximumTransferCommandMetadataBytes := by
  have hid (id : TransferId) : id.toBytes.length = 16 := FileMessageCodec.length_toRfc4122 _
  cases message with
  | pause transferId | resume transferId =>
    simp [QCborMap.toCbor, fields, Cbor.encode, Cbor.encodeEntries, Cbor.encodeEntry, Cbor.head, hid,
      kMaximumTransferCommandMetadataBytes]
  | cancel transferId reason keepPartial =>
    cases reason <;> cases keepPartial <;>
      simp [QCborMap.toCbor, fields, Cbor.encode, Cbor.encodeEntries, Cbor.encodeEntry, Cbor.head,
        hid, QCborValue.ofBool, TransferCancelReason.toNat, kMaximumTransferCommandMetadataBytes]

theorem isMap_fields (message : TransferCommandMessage) :
    (Cbor.decode (QCborMap.toCbor (fields message))).bind QCborValue.isMap =
      some (fields message) := by
  have hlength : (fields message).length < 2 ^ 64 := by
    have hbound : (fields message).length ≤ 3 := by
      cases message with
      | pause transferId | resume transferId => exact Nat.le_of_ble_eq_true rfl
      | cancel transferId reason keepPartial => exact Nat.le_refl _
    omega
  rw [QCborMap.decode_toCbor hlength
    (QCborMap.encodableEntries_of_forall (encodable_fields message))]
  rfl

theorem readTransferId_bytes (id : TransferId) :
    readTransferId (some (.bytes id.toBytes)) = some id := by
  rw [readTransferId, Option.bind_some, QCborValue.isByteArray, Option.bind_some]
  exact id.fromBytes_toBytes

/-- **An encoded command is read back.** -/
theorem decode_encode {message : TransferCommandMessage} {metadata : QByteArray}
    (h : encode message = .ok metadata) :
    decode kProtocolMajorVersion (messageType message) metadata = .ok message := by
  cases h
  have hknown : messageType message ∈
      [MessageType.transferPause, .transferResume, .transferCancel] := by
    cases message <;> simp [messageType]
  have hkeys : hasExactIntegerKeys (fields message)
      (if messageType message = .transferCancel then [1, 2, 3] else [1]) = true := by
    refine FileMessageCodec.hasExactKeys_of_keys ?_
    cases message <;> rfl
  unfold decode
  rw [require_of rfl, ok_bind, require_of hknown, ok_bind,
    require_of ⟨QCborMap.toCbor_ne_nil _, length_toCbor_fields message⟩, ok_bind, isMap_fields,
    present_some, ok_bind, require_of hkeys, ok_bind]
  cases message with
  | pause transferId =>
    show present (readTransferId (some (.bytes transferId.toBytes))) _ >>= _ = _
    rw [readTransferId_bytes, present_some, ok_bind]
    rfl
  | resume transferId =>
    show present (readTransferId (some (.bytes transferId.toBytes))) _ >>= _ = _
    rw [readTransferId_bytes, present_some, ok_bind]
    rfl
  | cancel transferId reason keepPartial =>
    show present (readTransferId (some (.bytes transferId.toBytes))) _ >>= _ = _
    rw [readTransferId_bytes, present_some, ok_bind]
    cases reason <;> cases keepPartial <;> rfl

end TransferCommandCodec

end DeskflowPlus.Transfer
