import DeskflowPlus.Stream.ProtocolFormat

/-!
# Messages come back

A message is its format with an argument for each specifier. The length that is computed, the bytes
that are written and the arguments that are read back are followed piece by piece.
-/

namespace DeskflowPlus

namespace ProtocolFormat

inductive IntWidth where
  | one
  | two
  | four

namespace IntWidth

def size : IntWidth → Nat
  | one => 1
  | two => 2
  | four => 4

def digit : IntWidth → UInt8
  | one => 0x31
  | two => 0x32
  | four => 0x34

variable {width : IntWidth}

theorem isIntLength_size : isIntLength width.size = true := by
  cases width <;> rfl

theorem eatLength_digit {character : UInt8} {fmt : List UInt8} (h : isDigit character = false) :
    eatLength 0 (width.digit :: character :: fmt) = (width.size, character :: fmt) := by
  have hdigit : isDigit width.digit = true := by cases width <;> decide
  rw [eatLength, if_pos hdigit, eatLength, h]
  cases width <;> rfl

end IntWidth

/-- A character that stands for itself, or a specifier with an argument that is in range of it. -/
inductive FormatPiece where
  | regular (character : UInt8) (h : character ≠ 0 ∧ character ≠ '%'.toUInt8)
  | int (width : IntWidth) (value : Nat) (h : value < 256 ^ width.size)
  | list (width : IntWidth) (values : List Nat)
    (h : values.length ≤ PROTOCOL_MAX_LIST_LENGTH ∧ ∀ value ∈ values, value < 256 ^ width.size)
  | string (bytes : List UInt8) (h : bytes.length ≤ PROTOCOL_MAX_STRING_LENGTH)

namespace FormatPiece

def text : FormatPiece → List UInt8
  | regular character _ => [character]
  | int width _ _ => ['%'.toUInt8, width.digit, 'i'.toUInt8]
  | list width _ _ => ['%'.toUInt8, width.digit, 'I'.toUInt8]
  | string _ _ => ['%'.toUInt8, 's'.toUInt8]

def arguments : FormatPiece → List Argument
  | regular _ _ => []
  | int _ value _ => [.int value]
  | list _ values _ => [.vector values]
  | string bytes _ => [.string bytes]

def item : FormatPiece → FormatItem
  | regular character _ => .regular character
  | int width _ _ => .specifier width.size .i
  | list width _ _ => .specifier width.size .I
  | string _ _ => .specifier 0 .s

def bytes : FormatPiece → List UInt8
  | regular character _ => [character]
  | int width value _ => BigEndian.encode width.size value
  | list width values _ =>
    BigEndian.encode 4 values.length ++ values.flatMap (BigEndian.encode width.size)
  | string bytes _ => BigEndian.encode 4 bytes.length ++ bytes

end FormatPiece

def formatOf (message : List FormatPiece) : List UInt8 := message.flatMap FormatPiece.text

def argumentsOf (message : List FormatPiece) : List Argument := message.flatMap FormatPiece.arguments

def bytesOf (message : List FormatPiece) : List UInt8 := message.flatMap FormatPiece.bytes

variable {piece : FormatPiece} {message : List FormatPiece} {fmt rest : List UInt8}
  {args : List Argument} {grants : Nat → Nat} {allocates : Nat → Bool} {values : List Nat} {size : Nat}

theorem formatItems_percent {len : Nat} {character : UInt8} {left : List UInt8}
    (h : eatLength 0 fmt = (len, character :: left)) :
    formatItems ('%'.toUInt8 :: fmt) = .specifier len (conversionOf character) :: formatItems left := by
  rw [formatItems, if_pos rfl, h]
  rfl

theorem formatItems_text : formatItems (piece.text ++ fmt) = piece.item :: formatItems fmt := by
  cases piece with
  | regular character h =>
    show formatItems (character :: fmt) = _
    rw [formatItems, if_neg h.2]
    rfl
  | int width value h => exact formatItems_percent (IntWidth.eatLength_digit (by decide))
  | list width values h => exact formatItems_percent (IntWidth.eatLength_digit (by decide))
  | string bytes h =>
    have hlength : eatLength 0 ('s'.toUInt8 :: fmt) = (0, 's'.toUInt8 :: fmt) := rfl
    exact formatItems_percent hlength

theorem formatItems_formatOf : formatItems (formatOf message) = message.map FormatPiece.item := by
  induction message with
  | nil => exact formatItems.eq_1
  | cons piece message ih =>
    rw [formatOf, List.flatMap_cons, formatItems_text, List.map_cons]
    exact congrArg _ ih

theorem length_flatMap_encode :
    (values.flatMap (BigEndian.encode size)).length = size * values.length := by
  induction values with
  | nil => rfl
  | cons value values ih =>
    rw [List.flatMap_cons, List.length_append, BigEndian.encode_length, ih, List.length_cons,
      Nat.mul_succ, Nat.add_comm]

theorem itemLength_item (h : piece.bytes.length < 2 ^ 32) :
    itemLength piece.item (piece.arguments ++ args) = some (piece.bytes.length, args) := by
  cases piece with
  | regular character h => rfl
  | int width value h =>
    show some (width.size, args) = some (_, args)
    rw [FormatPiece.bytes, BigEndian.encode_length]
  | list width values hvalues =>
    rw [FormatPiece.bytes, List.length_append, BigEndian.encode_length, length_flatMap_encode] at *
    show (if isIntLength width.size = true then some ((width.size * values.length + 4) % 2 ^ 32, args)
      else some (width.size, .vector values :: args)) = _
    rw [if_pos IntWidth.isIntLength_size, Nat.add_comm, Nat.mod_eq_of_lt h]
  | string bytes hbytes =>
    rw [FormatPiece.bytes, List.length_append, BigEndian.encode_length] at *
    show some ((bytes.length + 4) % 2 ^ 32, args) = _
    rw [Nat.add_comm, Nat.mod_eq_of_lt h]

theorem lengthFrom_items {n : Nat} (h : n + (bytesOf message).length < 2 ^ 32) :
    lengthFrom n (message.map FormatPiece.item) (argumentsOf message) =
      some (n + (bytesOf message).length) := by
  induction message generalizing n with
  | nil => rfl
  | cons piece message ih =>
    rw [bytesOf, List.flatMap_cons, List.length_append] at h ⊢
    rw [List.map_cons, argumentsOf, List.flatMap_cons, lengthFrom, itemLength_item (by omega),
      Option.bind_some, Nat.mod_eq_of_lt (by omega)]
    refine (ih ?_).trans ?_
    · rw [bytesOf]
      omega
    · rw [bytesOf, Nat.add_assoc]

theorem getLength_formatOf (h : (bytesOf message).length < 2 ^ 32) :
    getLength (formatOf message) (argumentsOf message) = some (bytesOf message).length := by
  rw [getLength, formatItems_formatOf, lengthFrom_items (by omega), Nat.zero_add]

theorem writeInt_size {width : IntWidth} {value : Nat} :
    writeInt value width.size = BigEndian.encode width.size value :=
  if_pos IntWidth.isIntLength_size

theorem fillBuffer_item {items : List FormatItem} :
    fillBuffer (piece.item :: items) (piece.arguments ++ args) =
      (fillBuffer items args).map (piece.bytes ++ ·) := by
  cases piece with
  | regular character h => rfl
  | int width value h =>
    show (fillBuffer items args).map (writeInt value width.size ++ ·) = _
    rw [writeInt_size, FormatPiece.bytes]
  | list width values h =>
    have hvalues : writeVectorInt values width.size = (FormatPiece.list width values h).bytes := by
      unfold writeVectorInt FormatPiece.bytes
      congr 2
      funext value
      exact writeInt_size
    rw [← hvalues]
    show (if isIntLength width.size = true then
      (fillBuffer items args).map (writeVectorInt values width.size ++ ·) else some []) = _
    rw [if_pos IntWidth.isIntLength_size]
  | string bytes h => rfl

theorem fillBuffer_items : fillBuffer (message.map FormatPiece.item) (argumentsOf message) =
    some (bytesOf message) := by
  induction message with
  | nil => rfl
  | cons piece message ih =>
    rw [List.map_cons, argumentsOf, List.flatMap_cons, fillBuffer_item]
    rw [argumentsOf] at ih
    rw [ih]
    rfl

theorem writef_formatOf (h : (bytesOf message).length < 2 ^ 32) :
    writef (formatOf message) (argumentsOf message) = some (bytesOf message) := by
  rw [writef, getLength_formatOf h, Option.bind_some, formatItems_formatOf, fillBuffer_items,
    Option.bind_some, if_pos (Nat.le_refl _), List.take_length]
  split_ifs with hnone
  · rw [List.eq_nil_of_length_eq_zero hnone]
  · rfl

theorem readInt_encode {value : Nat} (h : value < 256 ^ size) : ∃ left,
    readInt size { bytes := BigEndian.encode size value ++ rest, grants } =
      { stored := [.int value], source := { bytes := rest, grants := left } } := by
  obtain ⟨left, hread⟩ :=
    @ByteSource.readAll_append size _ rest grants (BigEndian.encode_length size value)
  refine ⟨left, ?_⟩
  rw [readInt, hread]
  dsimp only
  rw [BigEndian.decode_encode h]

theorem readElements_encode {before : List Nat} (h : ∀ value ∈ values, value < 256 ^ size) : ∃ left,
    readElements size values.length before
        { bytes := values.flatMap (BigEndian.encode size) ++ rest, grants } =
      { stored := [.vector (before ++ values)], source := { bytes := rest, grants := left } } := by
  induction values generalizing before grants with
  | nil =>
    refine ⟨grants, ?_⟩
    rw [List.append_nil]
    rfl
  | cons value values ih =>
    obtain ⟨hvalue, hvalues⟩ := List.forall_mem_cons.mp h
    obtain ⟨middle, hread⟩ := @ByteSource.readAll_append size _
      (values.flatMap (BigEndian.encode size) ++ rest) grants (BigEndian.encode_length size value)
    obtain ⟨left, hmore⟩ := @ih middle (before ++ [value]) hvalues
    refine ⟨left, ?_⟩
    rw [List.flatMap_cons, List.append_assoc, List.length_cons, readElements, hread]
    dsimp only
    rw [BigEndian.decode_encode hvalue, hmore, List.append_assoc]
    rfl

theorem readVectorInt_encode (hlength : values.length ≤ PROTOCOL_MAX_LIST_LENGTH)
    (h : ∀ value ∈ values, value < 256 ^ size) : ∃ left,
    readVectorInt size { bytes := BigEndian.encode 4 values.length ++
        (values.flatMap (BigEndian.encode size) ++ rest), grants } =
      { stored := [.vector values], source := { bytes := rest, grants := left } } := by
  have hheader : values.length < 256 ^ 4 := Nat.lt_of_le_of_lt hlength (by decide)
  obtain ⟨middle, hread⟩ := @ByteSource.readAll_append 4 _
    (values.flatMap (BigEndian.encode size) ++ rest) grants (BigEndian.encode_length 4 values.length)
  obtain ⟨left, hmore⟩ := @readElements_encode rest middle values size [] h
  refine ⟨left, ?_⟩
  rw [readVectorInt, hread]
  dsimp only
  rw [BigEndian.decode_encode hheader, if_neg (Nat.not_lt.mpr hlength), hmore]
  rfl

theorem readData_append {data : List UInt8} (hmemory : allocates data.length = true) :
    ∃ left reserved, readData allocates data.length { bytes := data ++ rest, grants } =
      { stored := [.string data], reserved, source := { bytes := rest, grants := left } } := by
  obtain ⟨left, hread⟩ := @ByteSource.readAll_append data.length data rest grants rfl
  refine ⟨left, if 128 < data.length then [data.length] else [], ?_⟩
  rw [readData, hmemory, hread]
  exact if_neg fun h => h.2 rfl

theorem readBytes_encode {data : List UInt8} (hlength : data.length ≤ PROTOCOL_MAX_STRING_LENGTH)
    (hmemory : allocates data.length = true) : ∃ left reserved,
    readBytes allocates 0 { bytes := BigEndian.encode 4 data.length ++ (data ++ rest), grants } =
      { stored := [.string data], reserved, source := { bytes := rest, grants := left } } := by
  have hheader : data.length < 256 ^ 4 := Nat.lt_of_le_of_lt hlength (by decide)
  obtain ⟨middle, hread⟩ := @ByteSource.readAll_append 4 _ (data ++ rest) grants
    (BigEndian.encode_length 4 data.length)
  obtain ⟨left, reserved, hmore⟩ := @readData_append rest middle allocates data hmemory
  refine ⟨left, reserved, ?_⟩
  rw [readBytes, if_pos rfl, hread]
  dsimp only
  rw [BigEndian.decode_encode hheader, hmore]

theorem readRegular_cons {character : UInt8} : ∃ left,
    readRegular character { bytes := character :: rest, grants } =
      { source := { bytes := rest, grants := left } } := by
  obtain ⟨left, hread⟩ := @ByteSource.readAll_append 1 [character] rest grants rfl
  refine ⟨left, ?_⟩
  rw [List.singleton_append] at hread
  rw [readRegular, hread]
  exact if_pos rfl

theorem readItem_item (hmemory : ∀ size ≤ PROTOCOL_MAX_STRING_LENGTH, allocates size = true) :
    ∃ left reserved, readItem allocates piece.item { bytes := piece.bytes ++ rest, grants } =
      { stored := piece.arguments, reserved, source := { bytes := rest, grants := left } } := by
  cases piece with
  | regular character h =>
    obtain ⟨left, hread⟩ := @readRegular_cons rest grants character
    exact ⟨left, [], hread⟩
  | int width value h =>
    obtain ⟨left, hread⟩ := @readInt_encode rest grants width.size value h
    refine ⟨left, [], ?_⟩
    rw [FormatPiece.bytes, FormatPiece.arguments, ← hread]
    exact if_pos IntWidth.isIntLength_size
  | list width values h =>
    obtain ⟨left, hread⟩ := @readVectorInt_encode rest grants values width.size h.1 h.2
    refine ⟨left, [], ?_⟩
    rw [FormatPiece.bytes, List.append_assoc, FormatPiece.arguments, ← hread]
    exact if_pos IntWidth.isIntLength_size
  | string data h =>
    obtain ⟨left, reserved, hread⟩ := @readBytes_encode rest grants allocates data h (hmemory _ h)
    refine ⟨left, reserved, ?_⟩
    have hshort : ¬ PROTOCOL_MAX_STRING_LENGTH < 0 := Nat.not_lt_zero _
    rw [FormatPiece.bytes, List.append_assoc, FormatPiece.arguments, ← hread, FormatPiece.item,
      readItem, if_neg hshort]

theorem vreadf_items (hmemory : ∀ size ≤ PROTOCOL_MAX_STRING_LENGTH, allocates size = true) :
    ∃ left reserved,
      vreadf allocates (message.map FormatPiece.item) { bytes := bytesOf message ++ rest, grants } =
        { stored := argumentsOf message, reserved, source := { bytes := rest, grants := left } } := by
  induction message generalizing grants with
  | nil => exact ⟨grants, [], rfl⟩
  | cons piece message ih =>
    obtain ⟨middle, first, hread⟩ :=
      @readItem_item piece (bytesOf message ++ rest) grants allocates hmemory
    obtain ⟨left, others, hmore⟩ := @ih middle
    refine ⟨left, first ++ others, ?_⟩
    rw [bytesOf, List.flatMap_cons, List.append_assoc, List.map_cons, vreadf]
    rw [bytesOf] at hread hmore
    rw [hread]
    dsimp only
    rw [hmore]
    rfl

/-- **There and back.** The computed length is that of the bytes that are written, and reading them
gives the arguments and leaves what is behind them, if there is memory for the strings. -/
theorem formatRoundTrip (message : List FormatPiece) (hlength : (bytesOf message).length < 2 ^ 32)
    (allocates : Nat → Bool)
    (hmemory : ∀ size ≤ PROTOCOL_MAX_STRING_LENGTH, allocates size = true)
    (following : List UInt8) (grants : Nat → Nat) :
    ∃ bytes, writef (formatOf message) (argumentsOf message) = some bytes ∧
      getLength (formatOf message) (argumentsOf message) = some bytes.length ∧
      ∃ left reserved,
        readf allocates (formatOf message) { bytes := bytes ++ following, grants } =
          { stored := argumentsOf message, exception := none, reserved
            source := { bytes := following, grants := left } } := by
  refine ⟨bytesOf message, writef_formatOf hlength, getLength_formatOf hlength, ?_⟩
  rw [readf, formatItems_formatOf]
  exact vreadf_items hmemory

def sampleMessage : List FormatPiece :=
  [.regular 0x43 (by decide), .int .one 1 (by decide), .list .two [5, 600] (by decide),
    .string [0x61] (by decide)]

theorem formatRoundTrip_sampleMessage : ∃ bytes,
    writef (formatOf sampleMessage) (argumentsOf sampleMessage) = some bytes ∧
      getLength (formatOf sampleMessage) (argumentsOf sampleMessage) = some bytes.length ∧
      ∃ left reserved,
        readf (fun _ => true) (formatOf sampleMessage)
            { bytes := bytes ++ [0x62], grants := fun _ => 0 } =
          { stored := argumentsOf sampleMessage, exception := none, reserved
            source := { bytes := [0x62], grants := left } } :=
  formatRoundTrip sampleMessage (by decide) (fun _ => true) (fun _ _ => rfl) [0x62] fun _ => 0

end ProtocolFormat

end DeskflowPlus
