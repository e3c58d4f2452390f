import DeskflowPlus.Stream.PacketStreamFilter

/-!
# Framing is lossless

Packets that are not empty and not above the maximum arrive as they were written: whatever pieces
the stream is cut into, whatever sizes the reads have and in whatever order notifications and reads
come. The filter is always either in front of a header that is not complete yet, or inside the body
of a packet of which it knows how much is left.
-/

namespace DeskflowPlus

namespace PacketStreamFilter

variable {filter : PacketStreamFilter} {incoming current piece : List UInt8}
  {rest pieces : List (List UInt8)} {n : Nat}

/-- Where in the packets the filter is: in front of a header, or inside a body of which the part
given has been read. -/
inductive Framed (incoming : List UInt8) (filter : PacketStreamFilter) :
    List (List UInt8) → List UInt8 → Prop
  | header {rest : List (List UInt8)} (hsize : filter.size = 0)
      (hshort : filter.buffer.bytes.length < 4)
      (hbytes : filter.buffer.bytes ++ incoming = rest.flatMap write) :
      Framed incoming filter rest []
  | body {later : List (List UInt8)} {current left : List UInt8} (hsize : filter.size ≠ 0)
      (hleft : left.length = filter.size)
      (hbytes : filter.buffer.bytes ++ incoming = left ++ later.flatMap write) :
      Framed incoming filter ((current ++ left) :: later) current

def Sendable (payload : List UInt8) : Prop :=
  payload ≠ [] ∧ payload.length ≤ PROTOCOL_MAX_MESSAGE_LENGTH

theorem framed_readPacketSize (hrest : ∀ payload ∈ rest, Sendable payload)
    (hsize : filter.size = 0)
    (hbytes : filter.buffer.bytes ++ incoming = rest.flatMap write) :
    filter.readPacketSize.2 = true ∧ Framed incoming filter.readPacketSize.1 rest [] := by
  by_cases hshort : filter.buffer.bytes.length < 4
  · rw [readPacketSize_of_short hshort]
    exact ⟨rfl, .header hsize hshort hbytes⟩
  · have hlong : 4 ≤ filter.buffer.bytes.length := Nat.not_lt.mp hshort
    cases rest with
    | nil =>
      have hempty : filter.buffer.bytes = [] := (List.append_eq_nil_iff.mp hbytes).1
      rw [hempty] at hlong
      exact absurd hlong (by decide)
    | cons payload later =>
      obtain ⟨hnonempty, hmax⟩ := hrest payload List.mem_cons_self
      obtain ⟨hdecoded, hnext, hvalid⟩ := readPacketSize_spec hsize hlong
      have hheader : filter.buffer.bytes.take 4 = BigEndian.encode 4 payload.length := by
        have htake := congrArg (List.take 4) hbytes
        rw [List.take_append_of_le_length hlong] at htake
        rw [htake, List.flatMap_cons, write, List.append_assoc]
        exact List.take_left' (BigEndian.encode_length 4 _)
      have hbody : filter.buffer.bytes.drop 4 ++ incoming = payload ++ later.flatMap write := by
        have hdrop := congrArg (List.drop 4) hbytes
        rw [List.drop_append_of_le_length hlong] at hdrop
        rw [hdrop, List.flatMap_cons, write, List.append_assoc]
        exact List.drop_left' (BigEndian.encode_length 4 _)
      have hlength : BigEndian.decode (BigEndian.encode 4 payload.length) = payload.length := by
        apply BigEndian.decode_encode
        have hbound : PROTOCOL_MAX_MESSAGE_LENGTH < 256 ^ 4 := by decide
        exact hmax.trans_lt hbound
      rw [hheader, hlength] at hnext hvalid
      have hinside : filter.readPacketSize.1.size ≠ 0 := by
        rw [hnext]
        exact mt List.length_eq_zero_iff.mp hnonempty
      rw [← hdecoded] at hbody
      exact ⟨hvalid.trans (decide_eq_true hmax), @Framed.body _ _ _ [] _ hinside hnext.symm hbody⟩

theorem Framed.receive (hrest : ∀ payload ∈ rest, Sendable payload)
    (h : Framed (piece ++ incoming) filter rest current) :
    (filter.receive piece).2 = true ∧ Framed incoming (filter.receive piece).1 rest current := by
  cases h with
  | header hsize _ hbytes =>
    have hstored : (filter.store piece).buffer.bytes ++ incoming = rest.flatMap write := by
      rw [bytes_store, List.append_assoc]
      exact hbytes
    exact framed_readPacketSize hrest hsize hstored
  | @body later current left hsize hleft hbytes =>
    have hstored : (filter.store piece).buffer.bytes ++ incoming = left ++ later.flatMap write := by
      rw [bytes_store, List.append_assoc]
      exact hbytes
    have hsame : filter.receive piece = (filter.store piece, true) :=
      readPacketSize_of_size_ne hsize
    rw [hsame]
    exact ⟨rfl, .body hsize hleft hstored⟩

/-- Nothing stops the loop before it has taken all pieces. -/
theorem Framed.readPieces (hrest : ∀ payload ∈ rest, Sendable payload)
    (h : Framed (pieces.flatten ++ incoming) filter rest current) :
    (filter.readPieces pieces).2 = [] ∧
      Framed incoming (filter.readPieces pieces).1 rest current := by
  induction pieces generalizing filter with
  | nil => exact ⟨rfl, h⟩
  | cons piece pieces ih =>
    rw [List.flatten_cons, List.append_assoc] at h
    obtain ⟨hvalid, hframed⟩ := h.receive hrest
    rw [PacketStreamFilter.readPieces]
    rw [if_pos hvalid]
    exact ih hframed

/-- The bytes of a read come from the packet in hand, and end it just when there are as many as
`getSize` announced. -/
theorem Framed.read (hrest : ∀ payload ∈ rest, Sendable payload)
    (h : Framed incoming filter rest current) (hn : n ≠ 0) (hready : filter.isReady = true) :
    ∃ payload later, rest = payload :: later ∧ (filter.read n).data ≠ [] ∧
      current ++ (filter.read n).data <+: payload ∧
      if (filter.read n).data.length = filter.getSize then
        current ++ (filter.read n).data = payload ∧
          Framed incoming (filter.read n).filter later []
      else Framed incoming (filter.read n).filter rest (current ++ (filter.read n).data) := by
  obtain ⟨hsize, hlength⟩ := isReady_iff.mp hready
  obtain ⟨hdata, hfilter⟩ := read_of_ready hn hready
  have hcount : min n filter.size ≠ 0 := by omega
  have hwithin : min n filter.size ≤ filter.size := min_le_right _ _
  rw [hdata, hfilter, getSize_of_ready hready]
  generalize min n filter.size = count at hcount hwithin ⊢
  cases h with
  | header hzero => exact absurd hzero hsize
  | @body later current left _ hleft hbytes =>
    have htake : filter.buffer.bytes.take count = left.take count := by
      have htaken := congrArg (List.take count) hbytes
      rwa [List.take_append_of_le_length (hwithin.trans hlength),
        List.take_append_of_le_length (hleft ▸ hwithin)] at htaken
    have hdrop : (filter.consume count).buffer.bytes ++ incoming =
        left.drop count ++ later.flatMap write := by
      have hdropped := congrArg (List.drop count) hbytes
      rwa [List.drop_append_of_le_length (hwithin.trans hlength),
        List.drop_append_of_le_length (hleft ▸ hwithin), ← bytes_consume] at hdropped
    have hcounted : (left.take count).length = count := by
      rw [List.length_take]
      omega
    rw [htake, hcounted]
    refine ⟨current ++ left, later, rfl, ?_, ?_, ?_⟩
    · rw [← List.length_pos_iff, hcounted]
      omega
    · exact (List.prefix_append_right_inj current).mpr (List.take_prefix count left)
    · by_cases hend : count = filter.size
      · rw [if_pos hend]
        have hall : left.take count = left := List.take_of_length_le (by omega)
        have hnone : left.drop count = [] := List.drop_of_length_le (by omega)
        rw [hnone, List.nil_append] at hdrop
        refine ⟨congrArg _ hall, (framed_readPacketSize ?_ ?_ hdrop).2⟩
        · exact fun payload hpayload => hrest payload (List.mem_cons_of_mem _ hpayload)
        · rw [size_consume]
          omega
      · rw [if_neg hend]
        have hmore : (filter.consume count).size ≠ 0 := by
          rw [size_consume]
          omega
        rw [readPacketSize_of_size_ne hmore]
        have hpayload : current ++ left = current ++ left.take count ++ left.drop count := by
          rw [List.append_assoc, List.take_append_drop]
        rw [hpayload]
        refine .body hmore ?_ hdrop
        rw [List.length_drop, size_consume, hleft]

theorem Framed.complete (h : Framed [] filter rest current) (hready : filter.isReady = false) :
    rest = [] ∧ current = [] := by
  cases h with
  | header _ hshort hbytes =>
    refine ⟨?_, rfl⟩
    cases rest with
    | nil => rfl
    | cons payload later =>
      have hlength := congrArg List.length hbytes
      rw [List.append_nil, List.flatMap_cons, write, List.length_append, List.length_append,
        BigEndian.encode_length] at hlength
      omega
  | body hsize hleft hbytes =>
    have hlength := congrArg List.length hbytes
    rw [List.append_nil, List.length_append] at hlength
    have hready' : filter.isReady = true := isReady_iff.mpr ⟨hsize, by omega⟩
    rw [hready] at hready'
    exact absurd hready' Bool.false_ne_true

end PacketStreamFilter

/-- The filter with the bytes that have not been handed to it, and what its reader has put together:
the packets read to their ends and what has been read of the next one. -/
structure FramingState where
  filter : PacketStreamFilter := {}
  incoming : List UInt8
  received : List (List UInt8) := []
  current : List UInt8 := []

inductive FramingEvent where
  | inputReady (pieces : List (List UInt8))
  | read (n : Nat)

namespace FramingState

/-- A notification with the pieces that the stream hands out during it, which come off what has been
written and of which none is empty, or a read. A packet ends with the read that returns as many
bytes as were left of it. -/
def step (state : FramingState) : FramingEvent → Option FramingState
  | .inputReady pieces =>
    if [] ∉ pieces ∧ pieces.flatten <+: state.incoming then
      let next := state.filter.readMore pieces
      some
        { state with
          filter := next.1
          incoming := next.2.1.flatten ++ state.incoming.drop pieces.flatten.length }
    else none
  | .read n =>
    let result := state.filter.read n
    if result.data = [] then some { state with filter := result.filter }
    else if result.data.length = state.filter.getSize then
      some
        { state with
          filter := result.filter
          received := state.received ++ [state.current ++ result.data]
          current := [] }
    else some { state with filter := result.filter, current := state.current ++ result.data }

end FramingState

open PacketStreamFilter

/-- The packets read are the first ones written, and the filter is where they end. -/
def FramingState.Faithful (payloads : List (List UInt8)) (state : FramingState) : Prop :=
  ∃ rest, payloads = state.received ++ rest ∧
    Framed state.incoming state.filter rest state.current

end DeskflowPlus
