import DeskflowPlus.Lib.BigEndian
import DeskflowPlus.Lib.Run
import DeskflowPlus.Stream.StreamBuffer

/-!
# Packets on a byte stream

A packet is its payload behind a header of four bytes with the payload's length. The filter takes
the bytes that the stream under it hands out in pieces of any size, decodes one header at a time and
gives its reader the bytes of one packet at a time. The header of the next packet is looked for when
a piece arrives and when a packet has been read to its end, and nowhere else.
-/

namespace DeskflowPlus

def PROTOCOL_MAX_MESSAGE_LENGTH : Nat := 4 * 1024 * 1024

/-- The events a filter raises for its reader. -/
inductive StreamEvent where
  | inputReady
  | inputShutdown
  | inputFormatError
  deriving DecidableEq

/-- The size is that of the packet whose header has been decoded, less what of it has been read. -/
structure PacketStreamFilter where
  buffer : StreamBuffer := StreamBuffer.empty
  size : Nat := 0
  inputShutdown : Bool := false

namespace PacketStreamFilter

/-- What a packet looks like on the stream. -/
def write (payload : List UInt8) : List UInt8 := BigEndian.encode 4 payload.length ++ payload

variable (filter : PacketStreamFilter)

def isReady : Bool := filter.size ≠ 0 ∧ filter.size ≤ filter.buffer.getSize

def getSize : Nat := if filter.isReady then filter.size else 0

/-- The next header, if there is none in hand and enough bytes for one. The flag is off where the
header is above the maximum, which is an input format error. -/
def readPacketSize : PacketStreamFilter × Bool :=
  if filter.size = 0 ∧ 4 ≤ filter.buffer.getSize then
    let (header, buffer) := filter.buffer.peek 4
    let size := BigEndian.decode header
    ({ filter with buffer := buffer.pop 4, size }, decide (size ≤ PROTOCOL_MAX_MESSAGE_LENGTH))
  else (filter, true)

structure ReadResult where
  data : List UInt8 := []
  filter : PacketStreamFilter
  events : List StreamEvent := []

/-- The next bytes of the packet in hand, taken out of the buffer. -/
def consume (n : Nat) : PacketStreamFilter :=
  { filter with buffer := (filter.buffer.peek n).2.pop n, size := filter.size - n }

def read (n : Nat) : ReadResult :=
  if n = 0 ∨ filter.isReady = false then { filter }
  else
    -- read no more than what's left in the buffered packet
    let n := min n filter.size
    let next := (filter.consume n).readPacketSize
    { data := (filter.buffer.peek n).1
      filter := next.1
      events :=
        (if next.2 then [] else [.inputFormatError]) ++
          if next.1.inputShutdown ∧ next.1.size = 0 then [.inputShutdown] else [] }

def store (piece : List UInt8) : PacketStreamFilter :=
  { filter with buffer := filter.buffer.write piece }

def receive (piece : List UInt8) : PacketStreamFilter × Bool :=
  (filter.store piece).readPacketSize

/-- The loop of `readMore` over what the reads of the stream return. The pieces behind a header
above the maximum stay in the stream. -/
def readPieces : PacketStreamFilter → List (List UInt8) → PacketStreamFilter × List (List UInt8)
  | filter, [] => (filter, [])
  | filter, piece :: rest =>
    let next := filter.receive piece
    if next.2 then readPieces next.1 rest else (next.1, rest)

/-- A notification that the stream has input: the filter, the pieces left in the stream, and whether
the notification is passed on to the reader. -/
def readMore (pieces : List (List UInt8)) : PacketStreamFilter × List (List UInt8) × Bool :=
  let next := filter.readPieces pieces
  (next.1, next.2, filter.isReady != next.1.isReady)

/-- A notification that the stream's input is shut down, and whether it is passed on. -/
def shutdown : PacketStreamFilter × Bool :=
  ({ filter with inputShutdown := true }, decide (filter.size = 0))

variable {filter} {n : Nat} {piece : List UInt8}

@[simp]
theorem bytes_consume : (filter.consume n).buffer.bytes = filter.buffer.bytes.drop n := by
  simp [consume]

@[simp]
theorem size_consume : (filter.consume n).size = filter.size - n := rfl

theorem consume_bounds (hlt : filter.size < 2 ^ 32)
    (hlength : filter.size ≤ filter.buffer.bytes.length) (hn : n < filter.size) :
    (filter.consume n).size ≠ 0 ∧ (filter.consume n).size < 2 ^ 32 ∧
      (filter.consume n).size ≤ (filter.consume n).buffer.bytes.length := by
  rw [size_consume, bytes_consume, List.length_drop]
  omega

@[simp]
theorem inputShutdown_consume : (filter.consume n).inputShutdown = filter.inputShutdown := rfl

@[simp]
theorem bytes_store : (filter.store piece).buffer.bytes = filter.buffer.bytes ++ piece := by
  simp [store]

@[simp]
theorem size_store : (filter.store piece).size = filter.size := rfl

theorem isReady_iff :
    filter.isReady = true ↔ filter.size ≠ 0 ∧ filter.size ≤ filter.buffer.bytes.length := by
  rw [isReady, StreamBuffer.getSize_eq]
  exact decide_eq_true_iff

theorem getSize_of_ready (hready : filter.isReady = true) : filter.getSize = filter.size :=
  if_pos hready

theorem readPacketSize_spec (hsize : filter.size = 0) (hlength : 4 ≤ filter.buffer.bytes.length) :
    filter.readPacketSize.1.buffer.bytes = filter.buffer.bytes.drop 4 ∧
      filter.readPacketSize.1.size = BigEndian.decode (filter.buffer.bytes.take 4) ∧
      filter.readPacketSize.2 =
        decide (BigEndian.decode (filter.buffer.bytes.take 4) ≤ PROTOCOL_MAX_MESSAGE_LENGTH) := by
  rw [← StreamBuffer.getSize_eq] at hlength
  rw [readPacketSize, if_pos ⟨hsize, hlength⟩, ← StreamBuffer.peek_fst hlength]
  refine ⟨?_, rfl, rfl⟩
  show ((filter.buffer.peek 4).2.pop 4).bytes = _
  rw [StreamBuffer.bytes_pop, StreamBuffer.bytes_peek_snd]

theorem readPacketSize_of_short (hlength : filter.buffer.bytes.length < 4) :
    filter.readPacketSize = (filter, true) := by
  apply if_neg
  rw [StreamBuffer.getSize_eq]
  omega

theorem readPacketSize_of_size_ne (hsize : filter.size ≠ 0) :
    filter.readPacketSize = (filter, true) :=
  if_neg fun h => hsize h.1

@[simp]
theorem inputShutdown_readPacketSize :
    filter.readPacketSize.1.inputShutdown = filter.inputShutdown := by
  rw [readPacketSize]
  split <;> rfl

theorem read_of_ready (hn : n ≠ 0) (hready : filter.isReady = true) :
    (filter.read n).data = filter.buffer.bytes.take (min n filter.size) ∧
      (filter.read n).filter = (filter.consume (min n filter.size)).readPacketSize.1 := by
  have hblocked : ¬ (n = 0 ∨ filter.isReady = false) := by
    rw [hready]
    exact not_or.mpr ⟨hn, Bool.true_eq_false.mp⟩
  have hbuffered : min n filter.size ≤ filter.buffer.getSize := by
    have := (isReady_iff.mp hready).2
    rw [StreamBuffer.getSize_eq]
    omega
  rw [read, if_neg hblocked]
  exact ⟨StreamBuffer.peek_fst hbuffered, rfl⟩

end PacketStreamFilter

end DeskflowPlus
