import Mathlib.Algebra.Group.Nat.Defs
import Mathlib.Data.List.Basic
import Mathlib.Data.Nat.Basic

/-!
# The RDFT wire vocabulary

The fixed constants, identifiers, message types, flags and limits of the transfer protocol, and the
frame that carries them. Machine integers keep the source's widths; a byte array is a list of bytes
and its size the list's length.
-/

namespace DeskflowPlus.Transfer

def kProtocolMagic : List UInt8 := [0x52, 0x44, 0x46, 0x54]
def kProtocolMajorVersion : UInt16 := 1
def kFixedHeaderBytes : Nat := 32
def kSha256Bytes : Nat := 32
def quint32Max : Nat := 2 ^ 32 - 1
def quint64Max : Nat := 2 ^ 64 - 1
def qsizetypeMax : Nat := 2 ^ 63 - 1

/-- A transfer's UUID; the null UUID names no transfer. -/
structure TransferId where
  value : BitVec 128
  nonNull : value ≠ 0
  deriving DecidableEq

theorem one_nonNull : (1 : BitVec 128) ≠ 0 := by decide
theorem two_nonNull : (2 : BitVec 128) ≠ 0 := by decide
theorem three_nonNull : (3 : BitVec 128) ≠ 0 := by decide
theorem seven_nonNull : (7 : BitVec 128) ≠ 0 := by decide

/-- A file's UUID within a transfer; the null UUID names no file. -/
structure FileId where
  value : BitVec 128
  nonNull : value ≠ 0
  deriving DecidableEq

/-- The enumeration has a fixed 16-bit underlying type, and a type read off the wire is cast to it
before it is known to be listed, so every 16-bit value is a message type. -/
structure MessageType where
  value : UInt16
  deriving DecidableEq

namespace MessageType

def hello : MessageType := ⟨0x0001⟩
def authResult : MessageType := ⟨0x0002⟩
def capabilities : MessageType := ⟨0x0003⟩
def heartbeat : MessageType := ⟨0x0004⟩
def heartbeatAck : MessageType := ⟨0x0005⟩
def transferOffer : MessageType := ⟨0x0100⟩
def transferAccept : MessageType := ⟨0x0101⟩
def transferReject : MessageType := ⟨0x0102⟩
def manifestPage : MessageType := ⟨0x0103⟩
def manifestComplete : MessageType := ⟨0x0104⟩
def fileBegin : MessageType := ⟨0x0200⟩
def fileChunk : MessageType := ⟨0x0201⟩
def fileCheckpoint : MessageType := ⟨0x0202⟩
def fileEnd : MessageType := ⟨0x0203⟩
def fileResult : MessageType := ⟨0x0204⟩
def transferPause : MessageType := ⟨0x0300⟩
def transferResume : MessageType := ⟨0x0301⟩
def transferCancel : MessageType := ⟨0x0302⟩
def transferComplete : MessageType := ⟨0x0303⟩
def transferResult : MessageType := ⟨0x0304⟩
def resumeQuery : MessageType := ⟨0x0400⟩
def resumeResponse : MessageType := ⟨0x0401⟩
def error : MessageType := ⟨0x7ffe⟩
def goodbye : MessageType := ⟨0x7fff⟩

end MessageType

namespace FrameFlag

def ackRequired : UInt32 := 0x00000001
def response : UInt32 := 0x00000002
def final : UInt32 := 0x00000004
def retryable : UInt32 := 0x00000008

end FrameFlag

structure ProtocolLimits where
  maxControlMetadataBytes : UInt32 := 1 * 1024 * 1024
  maxDataPayloadBytes : UInt64 := 4 * 1024 * 1024
  maxFrameBytes : UInt64 := 32 + 1 * 1024 * 1024 + 4 * 1024 * 1024

structure Frame where
  version : UInt16 := kProtocolMajorVersion
  type : MessageType := .heartbeat
  flags : UInt32 := 0
  streamId : UInt64 := 0
  metadata : List UInt8 := []
  payload : List UInt8 := []
  deriving DecidableEq

end DeskflowPlus.Transfer
