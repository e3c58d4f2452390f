import DeskflowPlus.Lib.Run
import DeskflowPlus.Server.ScreenMap
import Mathlib.Logic.Function.Basic

/-!
# Clipboard chunks

A clipboard travels as a start message with its size, data chunks and an end message. The receiving
side assembles them in storage that belongs to the process, not to the connection: `assemble` keeps
the announced size, and `recvClipboard` the data, in one place for all clients.
-/

namespace DeskflowPlus

abbrev ClipboardID := UInt8

def kClipboardEnd : ClipboardID := 2

namespace ChunkType

def dataStart : UInt8 := 1
def dataChunk : UInt8 := 2
def dataEnd : UInt8 := 3

end ChunkType

structure ClipboardMessage where
  id : ClipboardID
  sequence : UInt32 := 0
  mark : UInt8
  data : List UInt8 := []

namespace ClipboardChunk

inductive TransferState where
  | started
  | inProgress
  | finished
  | error
  deriving DecidableEq

/-- The announced size that `assemble` keeps, and the data its caller keeps for it. -/
structure Storage where
  expectedSize : Nat := 0
  dataCached : List UInt8 := []

variable (toULong : List UInt8 → Nat)

/-- One message, if it could be read. Sizes are written as texts, which `toULong` reads. -/
def assemble (message : Option ClipboardMessage) (storage : Storage) : TransferState × Storage :=
  match message with
  | none => (.error, storage)
  | some message =>
    if message.mark = ChunkType.dataStart then
      (.started, { expectedSize := toULong message.data, dataCached := [] })
    else if message.mark = ChunkType.dataChunk then
      (.inProgress, { storage with dataCached := storage.dataCached ++ message.data })
    else if message.mark = ChunkType.dataEnd then
      if kClipboardEnd ≤ message.id ∨ storage.expectedSize ≠ storage.dataCached.length then
        (.error, storage)
      else (.finished, storage)
    else (.error, storage)

def start (id : ClipboardID) (sequence : UInt32) (size : List UInt8) : ClipboardMessage :=
  { id, sequence, mark := ChunkType.dataStart, data := size }

def data (id : ClipboardID) (sequence : UInt32) (data : List UInt8) : ClipboardMessage :=
  { id, sequence, mark := ChunkType.dataChunk, data }

-- `end` in the source
def finish (id : ClipboardID) (sequence : UInt32) : ClipboardMessage :=
  { id, sequence, mark := ChunkType.dataEnd }

end ClipboardChunk

namespace ClipboardChunk

variable {toULong : List UInt8 → Nat}

theorem assemble_of_dataEnd {message : ClipboardMessage} {storage : Storage}
    (hmark : message.mark = ChunkType.dataEnd) :
    assemble toULong (some message) storage =
      if kClipboardEnd ≤ message.id ∨ storage.expectedSize ≠ storage.dataCached.length then
        (.error, storage)
      else (.finished, storage) := by
  have hstart : ¬ ChunkType.dataEnd = ChunkType.dataStart := by decide
  have hchunk : ¬ ChunkType.dataEnd = ChunkType.dataChunk := by decide
  unfold assemble
  dsimp only
  rw [hmark, if_neg hstart, if_neg hchunk, if_pos rfl]

theorem finished_iff {message : ClipboardMessage} {storage : Storage} :
    (assemble toULong (some message) storage).1 = .finished ↔
      message.mark = ChunkType.dataEnd ∧ message.id < kClipboardEnd ∧
        storage.expectedSize = storage.dataCached.length := by
  by_cases hmark : message.mark = ChunkType.dataEnd
  · rw [assemble_of_dataEnd hmark, ← UInt8.not_le]
    split
    · rename_i hwrong
      refine ⟨nofun, fun h => ?_⟩
      rcases hwrong with hid | hsize
      · exact absurd hid h.2.1
      · exact absurd h.2.2 hsize
    · rename_i hright
      obtain ⟨hid, hsize⟩ := not_or.mp hright
      exact ⟨fun _ => ⟨hmark, hid, not_not.mp hsize⟩, fun _ => rfl⟩
  · refine ⟨fun h => ?_, fun h => absurd h.1 hmark⟩
    unfold assemble at h
    dsimp only at h
    rw [if_neg hmark] at h
    split at h
    · cases h
    split at h
    · cases h
    · cases h

end ClipboardChunk

end DeskflowPlus
