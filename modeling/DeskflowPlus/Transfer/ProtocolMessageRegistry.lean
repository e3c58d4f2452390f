import DeskflowPlus.Transfer.Protocol

/-!
# The message registry and the envelope check

Each listed message type says which flag sets, stream ids, metadata and payload its frames may
carry. The envelope check reads only the sizes, so both ends of a connection apply it before either
looks inside a frame.
-/

namespace DeskflowPlus.Transfer

inductive ProtocolMessageClassification where
  | implemented
  | reserved
  deriving DecidableEq

inductive ProtocolStreamRule where
  | zero
  | nonZero
  deriving DecidableEq

inductive ProtocolContentRule where
  | required
  | forbidden
  deriving DecidableEq

structure ProtocolMessageDescriptor where
  type : MessageType
  name : String
  classification : ProtocolMessageClassification
  streamRule : ProtocolStreamRule
  metadataRule : ProtocolContentRule
  payloadRule : ProtocolContentRule
  validFlagSets : List UInt32
  validFlagSetCount : Nat

inductive ProtocolEnvelopeError where
  | none
  | unknownMessageType
  | reservedMessageType
  | invalidFlags
  | invalidStreamId
  | missingMetadata
  | unexpectedMetadata
  | missingPayload
  | unexpectedPayload
  deriving DecidableEq

structure ProtocolEnvelopeValidationResult where
  error : ProtocolEnvelopeError := .none
  diagnostic : String := ""

def ProtocolEnvelopeValidationResult.ok (result : ProtocolEnvelopeValidationResult) : Bool :=
  result.error = .none

open FrameFlag in
def kDescriptors : List ProtocolMessageDescriptor := [
  ⟨.hello, "Hello", .implemented, .zero, .required, .forbidden, [ackRequired, 0, 0, 0], 1⟩,
  ⟨.authResult, "AuthResult", .implemented, .zero, .required, .forbidden, [response, 0, 0, 0], 1⟩,
  ⟨.capabilities, "Capabilities", .implemented, .zero, .required, .forbidden, [0, 0, 0, 0], 1⟩,
  ⟨.heartbeat, "Heartbeat", .implemented, .zero, .required, .forbidden, [ackRequired, 0, 0, 0], 1⟩,
  ⟨.heartbeatAck, "HeartbeatAck", .implemented, .zero, .required, .forbidden,
    [response, 0, 0, 0], 1⟩,
  ⟨.transferOffer, "TransferOffer", .implemented, .zero, .required, .forbidden,
    [ackRequired, 0, 0, 0], 1⟩,
  ⟨.transferAccept, "TransferAccept", .implemented, .zero, .required, .forbidden,
    [response, 0, 0, 0], 1⟩,
  ⟨.transferReject, "TransferReject", .implemented, .zero, .required, .forbidden,
    [response, 0, 0, 0], 1⟩,
  ⟨.manifestPage, "ManifestPage", .implemented, .zero, .required, .forbidden, [0, 0, 0, 0], 1⟩,
  ⟨.manifestComplete, "ManifestComplete", .implemented, .zero, .required, .forbidden,
    [final, 0, 0, 0], 1⟩,
  ⟨.fileBegin, "FileBegin", .implemented, .nonZero, .required, .forbidden, [0, 0, 0, 0], 1⟩,
  ⟨.fileChunk, "FileChunk", .implemented, .nonZero, .required, .required,
    [0, ackRequired, 0, 0], 2⟩,
  ⟨.fileCheckpoint, "FileCheckpoint", .implemented, .nonZero, .required, .forbidden,
    [response, 0, 0, 0], 1⟩,
  ⟨.fileEnd, "FileEnd", .implemented, .nonZero, .required, .forbidden, [final, 0, 0, 0], 1⟩,
  ⟨.fileResult, "FileResult", .implemented, .nonZero, .required, .forbidden,
    [response ||| final, 0, 0, 0], 1⟩,
  ⟨.transferPause, "TransferPause", .implemented, .zero, .required, .forbidden,
    [ackRequired, response, 0, 0], 2⟩,
  ⟨.transferResume, "TransferResume", .implemented, .zero, .required, .forbidden,
    [ackRequired, response, 0, 0], 2⟩,
  ⟨.transferCancel, "TransferCancel", .implemented, .zero, .required, .forbidden,
    [ackRequired, 0, 0, 0], 1⟩,
  ⟨.transferComplete, "TransferComplete", .implemented, .zero, .required, .forbidden,
    [ackRequired ||| final, 0, 0, 0], 1⟩,
  ⟨.transferResult, "TransferResult", .implemented, .zero, .required, .forbidden,
    [response ||| final, 0, 0, 0], 1⟩,
  ⟨.resumeQuery, "ResumeQuery", .implemented, .zero, .required, .forbidden,
    [ackRequired, 0, 0, 0], 1⟩,
  ⟨.resumeResponse, "ResumeResponse", .implemented, .zero, .required, .forbidden,
    [response, 0, 0, 0], 1⟩,
  ⟨.error, "Error", .implemented, .zero, .required, .forbidden,
    [0, response, retryable, response ||| retryable], 4⟩,
  ⟨.goodbye, "Goodbye", .implemented, .zero, .required, .forbidden, [final, 0, 0, 0], 1⟩]

def protocolMessageDescriptor (type : MessageType) : Option ProtocolMessageDescriptor :=
  kDescriptors.find? fun descriptor => descriptor.type = type

def isKnownMessageType (type : MessageType) : Bool :=
  (protocolMessageDescriptor type).isSome

def validateProtocolEnvelope (type : MessageType) (flags : UInt32) (streamId : UInt64)
    (metadataBytes payloadBytes : Nat) : ProtocolEnvelopeValidationResult :=
  match protocolMessageDescriptor type with
  | none => ⟨.unknownMessageType, "unknown RDFT message type"⟩
  | some descriptor =>
    if descriptor.classification = .reserved then
      ⟨.reservedMessageType, "reserved RDFT message type is not sendable"⟩
    else if flags ∉ descriptor.validFlagSets.take descriptor.validFlagSetCount then
      ⟨.invalidFlags, "RDFT " ++ descriptor.name ++ " flags are invalid"⟩
    else if ¬ (if descriptor.streamRule = .zero then streamId = 0 else streamId ≠ 0) then
      ⟨.invalidStreamId, "RDFT " ++ descriptor.name ++ " stream ID is invalid"⟩
    else if descriptor.metadataRule = .required ∧ metadataBytes = 0 then
      ⟨.missingMetadata, "RDFT " ++ descriptor.name ++ " requires metadata"⟩
    else if descriptor.metadataRule = .forbidden ∧ metadataBytes ≠ 0 then
      ⟨.unexpectedMetadata, "RDFT " ++ descriptor.name ++ " forbids metadata"⟩
    else if descriptor.payloadRule = .required ∧ payloadBytes = 0 then
      ⟨.missingPayload, "RDFT " ++ descriptor.name ++ " requires a payload"⟩
    else if descriptor.payloadRule = .forbidden ∧ payloadBytes ≠ 0 then
      ⟨.unexpectedPayload, "RDFT " ++ descriptor.name ++ " forbids a payload"⟩
    else {}

end DeskflowPlus.Transfer
