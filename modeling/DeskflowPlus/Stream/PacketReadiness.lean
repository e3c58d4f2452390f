import DeskflowPlus.Stream.PacketStreamFilter

/-!
# When a packet stream stalls

A reader that drains the filter whenever it is told to is told when a whole packet with a body is in
hand. A packet without a body is taken off the stream with its header and looks like no packet at
all: the header behind it is not looked for until the next piece arrives. A shutdown while a header
is in hand is put off until the packet has been read to its end, which does not happen when the
packet has none.
-/

namespace DeskflowPlus

namespace PacketStream

def nextPacket (bytes : List UInt8) : Option (List UInt8 × List UInt8) :=
  if 4 ≤ bytes.length ∧ BigEndian.decode (bytes.take 4) ≤ (bytes.drop 4).length then
    some ((bytes.drop 4).take (BigEndian.decode (bytes.take 4)),
      (bytes.drop 4).drop (BigEndian.decode (bytes.take 4)))
  else none

variable {bytes : List UInt8}

theorem length_lt_of_nextPacket {payload rest : List UInt8}
    (h : nextPacket bytes = some (payload, rest)) : rest.length < bytes.length := by
  obtain ⟨⟨hlength, -⟩, heq⟩ := Option.ite_none_right_eq_some.mp h
  obtain ⟨-, hrest⟩ := Prod.mk.inj (Option.some.inj heq)
  rw [← hrest, List.drop_drop, List.length_drop]
  omega

def packets (bytes : List UInt8) : List (List UInt8) :=
  match _hnext : nextPacket bytes with
  | none => []
  | some (payload, rest) => payload :: packets rest
termination_by bytes.length
decreasing_by exact length_lt_of_nextPacket _hnext

theorem packets_of_none (h : nextPacket bytes = none) :
    packets bytes = [] := by
  rw [packets]
  split
  · rfl
  · rename_i hsome
    rw [h] at hsome
    cases hsome

theorem packets_of_some {payload rest : List UInt8} (h : nextPacket bytes = some (payload, rest)) :
    packets bytes = payload :: packets rest := by
  rw [packets]
  split
  · rename_i hnone
    rw [h] at hnone
    cases hnone
  · rename_i hsome
    rw [h] at hsome
    cases hsome
    rfl

theorem packets_of_short (h : bytes.length < 4) : packets bytes = [] :=
  packets_of_none (if_neg fun hboth => absurd hboth.1 (Nat.not_le.mpr h))

section Header

variable {size : Nat} {body : List UInt8}

theorem nextPacket_encode (hsize : size < 2 ^ 32) :
    nextPacket (BigEndian.encode 4 size ++ body) =
      if size ≤ body.length then some (body.take size, body.drop size) else none := by
  have hlength : 4 ≤ (BigEndian.encode 4 size ++ body).length := by simp
  have hheader : (BigEndian.encode 4 size ++ body).take 4 = BigEndian.encode 4 size :=
    List.take_left' (BigEndian.encode_length 4 size)
  have hbody : (BigEndian.encode 4 size ++ body).drop 4 = body :=
    List.drop_left' (BigEndian.encode_length 4 size)
  have hdecode : BigEndian.decode (BigEndian.encode 4 size) = size := BigEndian.decode_encode hsize
  rw [nextPacket, hheader, hbody, hdecode]
  exact if_congr (and_iff_right hlength) rfl rfl

theorem packets_encode_of_le (hsize : size < 2 ^ 32) (h : size ≤ body.length) :
    packets (BigEndian.encode 4 size ++ body) = body.take size :: packets (body.drop size) := by
  apply packets_of_some
  rw [nextPacket_encode hsize, if_pos h]

theorem packets_encode_of_lt (hsize : size < 2 ^ 32) (h : body.length < size) :
    packets (BigEndian.encode 4 size ++ body) = [] := by
  apply packets_of_none
  rw [nextPacket_encode hsize, if_neg (Nat.not_le.mpr h)]

end Header

/-- What is left when a packet without a body is taken off the front, if there is one. -/
def skipEmpty (bytes : List UInt8) : List UInt8 :=
  if 4 ≤ bytes.length ∧ BigEndian.decode (bytes.take 4) = 0 then bytes.drop 4 else bytes

theorem encode_decode_header (h : 4 ≤ bytes.length) :
    BigEndian.encode 4 (BigEndian.decode (bytes.take 4)) = bytes.take 4 := by
  have hlength : (bytes.take 4).length = 4 := by
    rw [List.length_take]
    omega
  have hwritten := BigEndian.encode_decode (bytes.take 4)
  rwa [hlength] at hwritten

theorem decode_header_lt (bytes : List UInt8) : BigEndian.decode (bytes.take 4) < 2 ^ 32 := by
  apply (BigEndian.decode_lt (bytes.take 4)).trans_le
  have hlength : (bytes.take 4).length ≤ 4 := List.length_take_le 4 bytes
  exact Nat.pow_le_pow_right (by decide) hlength

/-- A notification puts nothing behind a packet without a body: of the complete packets that are
there when the last piece has arrived, only the last one may be empty. The pieces before take the
empty packets at the front off the stream, one each. -/
def Unobstructed : List UInt8 → List (List UInt8) → Prop
  | _, [] => True
  | bytes, [piece] => [] ∉ (packets (bytes ++ piece)).dropLast
  | bytes, piece :: next :: rest => Unobstructed (skipEmpty (bytes ++ piece)) (next :: rest)

end PacketStream

open PacketStream

namespace PacketStreamFilter

variable {filter : PacketStreamFilter} {n : Nat} {piece : List UInt8}

/-- The bytes that the reader has not read, with the header of the packet in hand. -/
def pending (filter : PacketStreamFilter) : List UInt8 :=
  if filter.size = 0 then filter.buffer.bytes
  else BigEndian.encode 4 filter.size ++ filter.buffer.bytes

theorem pending_of_zero (hsize : filter.size = 0) : filter.pending = filter.buffer.bytes :=
  if_pos hsize

theorem pending_of_ne (hsize : filter.size ≠ 0) :
    filter.pending = BigEndian.encode 4 filter.size ++ filter.buffer.bytes :=
  if_neg hsize

/-- The filter will not give its reader all complete packets it has. -/
def Obstructed (filter : PacketStreamFilter) : Prop :=
  if filter.size = 0 then packets filter.pending ≠ [] else [] ∈ (packets filter.pending).dropLast

theorem size_readPacketSize_lt (hsize : filter.size < 2 ^ 32) :
    filter.readPacketSize.1.size < 2 ^ 32 := by
  by_cases hshort : filter.buffer.bytes.length < 4
  · rw [readPacketSize_of_short hshort]
    exact hsize
  · by_cases hzero : filter.size = 0
    · rw [(readPacketSize_spec hzero (Nat.not_lt.mp hshort)).2.1]
      exact decode_header_lt _
    · rw [readPacketSize_of_size_ne hzero]
      exact hsize

theorem pending_readPacketSize (hsize : filter.size = 0) :
    filter.readPacketSize.1.pending = skipEmpty filter.buffer.bytes := by
  by_cases hshort : filter.buffer.bytes.length < 4
  · have hskip : skipEmpty filter.buffer.bytes = filter.buffer.bytes :=
      if_neg fun h => absurd h.1 (Nat.not_le.mpr hshort)
    rw [readPacketSize_of_short hshort, pending_of_zero hsize, hskip]
  · have hlong : 4 ≤ filter.buffer.bytes.length := Nat.not_lt.mp hshort
    obtain ⟨hbytes, hnext, -⟩ := readPacketSize_spec hsize hlong
    by_cases hzero : BigEndian.decode (filter.buffer.bytes.take 4) = 0
    · have hskip : skipEmpty filter.buffer.bytes = filter.buffer.bytes.drop 4 :=
        if_pos ⟨hlong, hzero⟩
      rw [pending_of_zero (hnext.trans hzero), hbytes, hskip]
    · have hskip : skipEmpty filter.buffer.bytes = filter.buffer.bytes :=
        if_neg fun h => hzero h.2
      rw [pending_of_ne (hnext ▸ hzero), hbytes, hnext, encode_decode_header hlong,
        List.take_append_drop, hskip]

theorem pending_store : (filter.store piece).pending = filter.pending ++ piece := by
  rw [pending, pending, bytes_store, size_store]
  by_cases hsize : filter.size = 0
  · rw [if_pos hsize, if_pos hsize]
  · rw [if_neg hsize, if_neg hsize, List.append_assoc]

theorem skipEmpty_pending (hsize : filter.size ≠ 0) (hlt : filter.size < 2 ^ 32)
    (piece : List UInt8) : skipEmpty (filter.pending ++ piece) = filter.pending ++ piece := by
  apply if_neg
  rintro ⟨-, hdecode⟩
  rw [pending_of_ne hsize, List.append_assoc, List.take_left' (BigEndian.encode_length 4 _),
    BigEndian.decode_encode hlt] at hdecode
  exact hsize hdecode

theorem pending_receive (hlt : filter.size < 2 ^ 32) :
    (filter.receive piece).1.pending = skipEmpty (filter.pending ++ piece) := by
  rw [receive]
  by_cases hsize : filter.size = 0
  · have hstored : (filter.store piece).size = 0 := hsize
    rw [pending_readPacketSize hstored, bytes_store, pending_of_zero hsize]
  · have hstored : (filter.store piece).size ≠ 0 := hsize
    rw [readPacketSize_of_size_ne hstored, pending_store, skipEmpty_pending hsize hlt]

theorem nil_mem_dropLast_cons {payload : List UInt8} {rest : List (List UInt8)}
    (h : payload ≠ []) : [] ∈ (payload :: rest).dropLast ↔ [] ∈ rest.dropLast := by
  cases rest with
  | nil => exact Iff.rfl
  | cons next rest =>
    rw [List.dropLast_cons_cons, List.mem_cons]
    exact or_iff_right (Ne.symm h)

theorem nil_mem_dropLast_nil_cons {rest : List (List UInt8)} :
    [] ∈ (([] : List UInt8) :: rest).dropLast ↔ rest ≠ [] := by
  cases rest with
  | nil => simp
  | cons next rest => simp

theorem obstructed_of_ne (hsize : filter.size ≠ 0) :
    filter.Obstructed ↔ [] ∈ (packets filter.pending).dropLast := by
  rw [Obstructed, if_neg hsize]

theorem obstructed_of_zero (hsize : filter.size = 0) :
    filter.Obstructed ↔ packets filter.pending ≠ [] := by
  rw [Obstructed, if_pos hsize]

theorem obstructed_readPacketSize (hsize : filter.size = 0) :
    filter.readPacketSize.1.Obstructed ↔ [] ∈ (packets filter.buffer.bytes).dropLast := by
  by_cases hshort : filter.buffer.bytes.length < 4
  · rw [readPacketSize_of_short hshort, obstructed_of_zero hsize, pending_of_zero hsize,
      packets_of_short hshort]
    simp
  · have hlong : 4 ≤ filter.buffer.bytes.length := Nat.not_lt.mp hshort
    obtain ⟨hbytes, hnext, -⟩ := readPacketSize_spec hsize hlong
    by_cases hzero : BigEndian.decode (filter.buffer.bytes.take 4) = 0
    · rw [obstructed_of_zero (hnext.trans hzero), pending_of_zero (hnext.trans hzero), hbytes]
      have hfirst : packets filter.buffer.bytes = [] :: packets (filter.buffer.bytes.drop 4) := by
        apply packets_of_some
        rw [nextPacket, hzero, if_pos ⟨hlong, Nat.zero_le _⟩]
        rfl
      rw [hfirst]
      exact nil_mem_dropLast_nil_cons.symm
    · have hskip : skipEmpty filter.buffer.bytes = filter.buffer.bytes :=
        if_neg fun h => hzero h.2
      rw [obstructed_of_ne (hnext ▸ hzero), pending_readPacketSize hsize, hskip]

theorem obstructed_receive :
    (filter.receive piece).1.Obstructed ↔ [] ∈ (packets (filter.pending ++ piece)).dropLast := by
  rw [receive]
  by_cases hsize : filter.size = 0
  · have hstored : (filter.store piece).size = 0 := hsize
    rw [obstructed_readPacketSize hstored, bytes_store, pending_of_zero hsize]
  · have hstored : (filter.store piece).size ≠ 0 := hsize
    rw [readPacketSize_of_size_ne hstored, obstructed_of_ne hstored, pending_store]

theorem obstructed_of_not_ready (hlt : filter.size < 2 ^ 32) (hready : filter.isReady = false) :
    filter.Obstructed ↔ packets filter.pending ≠ [] := by
  by_cases hsize : filter.size = 0
  · exact obstructed_of_zero hsize
  · have hshort : filter.buffer.bytes.length < filter.size := by
      apply Nat.lt_of_not_le
      intro hle
      rw [isReady_iff.mpr ⟨hsize, hle⟩] at hready
      cases hready
    rw [obstructed_of_ne hsize, pending_of_ne hsize, packets_encode_of_lt hlt hshort]
    simp

theorem obstructed_read (hlt : filter.size < 2 ^ 32) :
    (filter.read n).filter.Obstructed ↔ filter.Obstructed := by
  by_cases hidle : n = 0 ∨ filter.isReady = false
  · have hread : filter.read n = { filter } := if_pos hidle
    rw [hread]
  · obtain ⟨hn, hready⟩ := not_or.mp hidle
    rw [Bool.not_eq_false] at hready
    obtain ⟨hsize, hlength⟩ := isReady_iff.mp hready
    have hcount : min n filter.size ≠ 0 := by omega
    have hwithin : min n filter.size ≤ filter.size := Nat.min_le_right _ _
    rw [(read_of_ready hn hready).2, obstructed_of_ne hsize, pending_of_ne hsize,
      packets_encode_of_le hlt hlength]
    generalize min n filter.size = count at hcount hwithin ⊢
    have hfirst : filter.buffer.bytes.take filter.size ≠ [] := by
      rw [← List.length_pos_iff, List.length_take]
      omega
    rw [nil_mem_dropLast_cons hfirst]
    by_cases hend : count = filter.size
    · subst hend
      have hzero : (filter.consume filter.size).size = 0 := Nat.sub_self _
      rw [obstructed_readPacketSize hzero, bytes_consume]
    · obtain ⟨hmore, hless, hleft⟩ :=
        consume_bounds hlt hlength (Nat.lt_of_le_of_ne hwithin hend)
      have hfirst : (filter.consume count).buffer.bytes.take (filter.consume count).size ≠ [] := by
        rw [← List.length_pos_iff, List.length_take]
        omega
      have hrest : count + (filter.size - count) = filter.size := by omega
      rw [readPacketSize_of_size_ne hmore, obstructed_of_ne hmore, pending_of_ne hmore,
        packets_encode_of_le hless hleft, nil_mem_dropLast_cons hfirst, bytes_consume,
        List.drop_drop, size_consume, hrest]

theorem inputShutdown_read : (filter.read n).filter.inputShutdown = filter.inputShutdown := by
  by_cases hidle : n = 0 ∨ filter.isReady = false
  · have hread : filter.read n = { filter } := if_pos hidle
    rw [hread]
  · obtain ⟨hn, hready⟩ := not_or.mp hidle
    rw [Bool.not_eq_false] at hready
    rw [(read_of_ready hn hready).2, inputShutdown_readPacketSize, inputShutdown_consume]

theorem count_inputShutdown_read (hshutdown : filter.inputShutdown = false) :
    (filter.read n).events.count .inputShutdown = 0 := by
  apply List.count_eq_zero.mpr
  rw [read]
  by_cases hidle : n = 0 ∨ filter.isReady = false
  · rw [if_pos hidle]
    exact List.not_mem_nil
  · rw [if_neg hidle]
    simp [hshutdown]

theorem size_receive_lt (hlt : filter.size < 2 ^ 32) :
    (filter.receive piece).1.size < 2 ^ 32 :=
  size_readPacketSize_lt hlt

theorem size_read_lt (hlt : filter.size < 2 ^ 32) : (filter.read n).filter.size < 2 ^ 32 := by
  by_cases hidle : n = 0 ∨ filter.isReady = false
  · have hread : filter.read n = { filter } := if_pos hidle
    rw [hread]
    exact hlt
  · obtain ⟨hn, hready⟩ := not_or.mp hidle
    rw [Bool.not_eq_false] at hready
    rw [(read_of_ready hn hready).2]
    apply size_readPacketSize_lt
    rw [size_consume]
    omega

theorem readPieces_spec {pieces : List (List UInt8)} (hlt : filter.size < 2 ^ 32)
    (hpieces : pieces ≠ []) (hall : (filter.readPieces pieces).2 = []) :
    (filter.readPieces pieces).1.size < 2 ^ 32 ∧
      (filter.readPieces pieces).1.inputShutdown = filter.inputShutdown ∧
      ((filter.readPieces pieces).1.Obstructed ↔ ¬ Unobstructed filter.pending pieces) := by
  induction pieces generalizing filter with
  | nil => exact absurd rfl hpieces
  | cons piece rest ih =>
    cases rest with
    | nil =>
      have hone : (filter.readPieces [piece]).1 = (filter.receive piece).1 := by
        rw [readPieces, readPieces]
        split <;> rfl
      rw [hone]
      refine ⟨size_receive_lt hlt, inputShutdown_readPacketSize, ?_⟩
      rw [obstructed_receive]
      exact not_not.symm
    | cons next rest =>
      rw [readPieces] at hall ⊢
      by_cases hvalid : (filter.receive piece).2 = true
      · rw [if_pos hvalid] at hall ⊢
        obtain ⟨hsize, hshutdown, hobstructed⟩ :=
          ih (size_receive_lt hlt) (List.cons_ne_nil _ _) hall
        refine ⟨hsize, hshutdown.trans inputShutdown_readPacketSize, ?_⟩
        rw [hobstructed, pending_receive hlt]
        rfl
      · rw [if_neg hvalid] at hall
        cases hall

end PacketStreamFilter

structure ReaderState where
  filter : PacketStreamFilter := {}
  signalled : Bool := false
  shutdowns : Nat := 0

/-- A notification of the stream, with the pieces that it hands out during it and the reads that the
reader makes if it is told. -/
inductive ReaderEvent where
  | inputReady (pieces : List (List UInt8)) (reads : List Nat)
  | inputShutdown

namespace ReaderState

open PacketStreamFilter

def readAll (state : ReaderState) (reads : List Nat) : ReaderState :=
  reads.foldl
    (fun state n =>
      let result := state.filter.read n
      { state with
        filter := result.filter
        shutdowns := state.shutdowns + result.events.count .inputShutdown })
    state

/-- A reader that is told reads until there is nothing to read, and one that is not does not read.
A stream whose headers are not above the maximum hands out all its pieces, and it hands out none
after it has been shut down. -/
def step (state : ReaderState) : ReaderEvent → Option ReaderState
  | .inputReady pieces reads =>
    let next := state.filter.readMore pieces
    let last := { state with filter := next.1 : ReaderState }.readAll reads
    if state.signalled = false ∧ [] ∉ pieces ∧ next.2.1 = [] ∧
        if next.2.2 then last.filter.isReady = false else reads = [] then
      some last
    else none
  | .inputShutdown =>
    let next := state.filter.shutdown
    if state.signalled = false then
      some
        { filter := next.1
          signalled := true
          shutdowns := state.shutdowns + if next.2 then 1 else 0 }
    else none

/-- What is promised whenever all events have been handled: the filter holds no complete packet, and
the reader has been told of a shutdown once. -/
def Live (state : ReaderState) : Prop :=
  packets state.filter.pending = [] ∧ (state.signalled = true → state.shutdowns = 1)

/-- A notification that obstructs nothing, or a shutdown that finds no header in hand. -/
def Clear (state : ReaderState) : ReaderEvent → Prop
  | .inputReady pieces _ => Unobstructed state.filter.pending pieces
  | .inputShutdown => state.filter.size = 0

/-- What holds between two notifications of a clear run. -/
structure Inv (state : ReaderState) : Prop where
  live : state.Live
  size_lt : state.filter.size < 2 ^ 32
  idle : state.filter.isReady = false
  told : state.signalled = false → state.shutdowns = 0 ∧ state.filter.inputShutdown = false

variable {state next : ReaderState} {reads : List Nat} {pieces : List (List UInt8)}

theorem readAll_spec (hlt : state.filter.size < 2 ^ 32)
    (hshutdown : state.filter.inputShutdown = false) :
    (state.readAll reads).filter.size < 2 ^ 32 ∧
      (state.readAll reads).filter.inputShutdown = false ∧
      (state.readAll reads).signalled = state.signalled ∧
      (state.readAll reads).shutdowns = state.shutdowns ∧
      ((state.readAll reads).filter.Obstructed ↔ state.filter.Obstructed) := by
  induction reads generalizing state with
  | nil => exact ⟨hlt, hshutdown, rfl, rfl, Iff.rfl⟩
  | cons n reads ih =>
    let first : ReaderState :=
      { state with
        filter := (state.filter.read n).filter
        shutdowns := state.shutdowns + (state.filter.read n).events.count .inputShutdown }
    have hfirst : state.readAll (n :: reads) = first.readAll reads := rfl
    have hcount : first.shutdowns = state.shutdowns := by
      show state.shutdowns + _ = _
      rw [count_inputShutdown_read hshutdown, Nat.add_zero]
    obtain ⟨hsize, hlast, hsignalled, hshutdowns, hobstructed⟩ :=
      @ih first (size_read_lt hlt) (inputShutdown_read.trans hshutdown)
    rw [hfirst]
    refine ⟨hsize, hlast, hsignalled, hshutdowns.trans hcount, ?_⟩
    exact hobstructed.trans (obstructed_read hlt)

theorem Inv.readPieces (hinv : state.Inv) (hunsignalled : state.signalled = false)
    (hall : (state.filter.readPieces pieces).2 = []) :
    (state.filter.readPieces pieces).1.size < 2 ^ 32 ∧
      (state.filter.readPieces pieces).1.inputShutdown = false ∧
      ((state.filter.readPieces pieces).1.Obstructed ↔
        ¬ Unobstructed state.filter.pending pieces) := by
  have hshutdown := (hinv.told hunsignalled).2
  by_cases hpieces : pieces = []
  · subst hpieces
    refine ⟨hinv.size_lt, hshutdown, ?_⟩
    show state.filter.Obstructed ↔ ¬ True
    rw [obstructed_of_not_ready hinv.size_lt hinv.idle]
    exact iff_of_false (not_not.mpr hinv.live.1) (not_not.mpr trivial)
  · obtain ⟨hsize, hsame, hobstructed⟩ := readPieces_spec hinv.size_lt hpieces hall
    exact ⟨hsize, hsame.trans hshutdown, hobstructed⟩

theorem Inv.step_inputReady (hinv : state.Inv)
    (hstep : state.step (.inputReady pieces reads) = some next) :
    next.filter.size < 2 ^ 32 ∧ next.filter.isReady = false ∧
      next.filter.inputShutdown = false ∧ next.signalled = false ∧ next.shutdowns = 0 ∧
      (packets next.filter.pending = [] ↔ Unobstructed state.filter.pending pieces) := by
  obtain ⟨⟨hunsignalled, -, hall, hdrained⟩, hnext⟩ := Option.ite_none_right_eq_some.mp hstep
  obtain rfl := Option.some.inj hnext
  obtain ⟨hsize, hshutdown, hobstructed⟩ := hinv.readPieces hunsignalled hall
  have htold : (state.filter.readMore pieces).2.2 = (state.filter.readPieces pieces).1.isReady := by
    show (state.filter.isReady != _) = _
    rw [hinv.idle, Bool.false_bne]
  let notified : ReaderState := { state with filter := (state.filter.readPieces pieces).1 }
  have hidle : (notified.readAll reads).filter.isReady = false := by
    rw [htold] at hdrained
    by_cases hready : (state.filter.readPieces pieces).1.isReady = true
    · rw [if_pos hready] at hdrained
      exact hdrained
    · rw [if_neg hready] at hdrained
      rw [hdrained]
      exact Bool.not_eq_true _ ▸ hready
  obtain ⟨hlt, hsame, hsignalled, hshutdowns, hreads⟩ :=
    @readAll_spec notified reads hsize hshutdown
  refine ⟨hlt, hidle, hsame, hsignalled.trans hunsignalled,
    hshutdowns.trans (hinv.told hunsignalled).1, ?_⟩
  have hleft : packets (notified.readAll reads).filter.pending ≠ [] ↔
      ¬ Unobstructed state.filter.pending pieces := by
    rw [← obstructed_of_not_ready hlt hidle, hreads, hobstructed]
  exact not_iff_not.mp hleft

/-- A shutdown is told at once, if no header is in hand, and never otherwise. -/
theorem Inv.step_inputShutdown (hinv : state.Inv) (hstep : state.step .inputShutdown = some next) :
    next.filter.pending = state.filter.pending ∧ next.filter.size = state.filter.size ∧
      next.filter.isReady = false ∧ next.signalled = true ∧
      (next.shutdowns = 1 ↔ state.filter.size = 0) := by
  obtain ⟨hunsignalled, hnext⟩ := Option.ite_none_right_eq_some.mp hstep
  obtain rfl := Option.some.inj hnext
  refine ⟨rfl, rfl, hinv.idle, rfl, ?_⟩
  dsimp only
  rw [(hinv.told hunsignalled).1, PacketStreamFilter.shutdown]
  by_cases hsize : state.filter.size = 0
  · simp [hsize]
  · simp [hsize]

theorem Inv.step (hinv : state.Inv) {event : ReaderEvent} (hclear : state.Clear event)
    (hstep : state.step event = some next) : next.Inv := by
  cases event with
  | inputReady pieces reads =>
    obtain ⟨hlt, hidle, hshutdown, hsignalled, hshutdowns, hleft⟩ := hinv.step_inputReady hstep
    refine ⟨⟨hleft.mpr hclear, fun h => ?_⟩, hlt, hidle, fun _ => ⟨hshutdowns, hshutdown⟩⟩
    rw [hsignalled] at h
    cases h
  | inputShutdown =>
    obtain ⟨hpending, hsize, hidle, hsignalled, htold⟩ := hinv.step_inputShutdown hstep
    refine ⟨⟨hpending ▸ hinv.live.1, fun _ => htold.mpr hclear⟩, hsize ▸ hinv.size_lt, hidle, ?_⟩
    intro h
    rw [hsignalled] at h
    cases h

theorem Inv.clear (hinv : state.Inv) {event : ReaderEvent} (hstep : state.step event = some next)
    (hlive : next.Live) : state.Clear event := by
  cases event with
  | inputReady pieces reads => exact (hinv.step_inputReady hstep).2.2.2.2.2.mp hlive.1
  | inputShutdown =>
    obtain ⟨-, -, -, hsignalled, htold⟩ := hinv.step_inputShutdown hstep
    exact htold.mp (hlive.2 hsignalled)

end ReaderState

end DeskflowPlus
