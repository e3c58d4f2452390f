import DeskflowPlus.Lib.BigEndian
import DeskflowPlus.Lib.ByteSource

/-!
# Formats of messages

A format is read character by character, by the function that computes how long a message is, by the
one that writes it and by the one that reads it: a specifier is a percent sign, a length in decimal
digits and a conversion, and every other character stands for itself. Asserts are left out of the
build, so a specifier that none of them knows is passed over.
-/

namespace DeskflowPlus

def PROTOCOL_MAX_LIST_LENGTH : Nat := 1024 * 1024

def PROTOCOL_MAX_STRING_LENGTH : Nat := 1024 * 1024

/-- What a variable of a handler holds, or that it is as the handler has declared it. -/
inductive Argument where
  | int (value : Nat)
  | vector (values : List Nat)
  | string (bytes : List UInt8)
  | unread
  deriving DecidableEq

namespace ProtocolFormat

/-- The character behind the length of a specifier. -/
inductive Conversion where
  | i
  | I
  | s
  | S
  | percent
  | unknown
  deriving DecidableEq

inductive FormatItem where
  | regular (character : UInt8)
  | specifier (length : Nat) (conversion : Conversion)
  deriving DecidableEq

def isDigit (character : UInt8) : Bool := 0x30 ≤ character ∧ character ≤ 0x39

def eatLength (n : Nat) : List UInt8 → Nat × List UInt8
  | character :: fmt =>
    if isDigit character then eatLength ((10 * n + (character.toNat - 0x30)) % 2 ^ 32) fmt
    else (n, character :: fmt)
  | [] => (n, [])

def conversionOf (character : UInt8) : Conversion :=
  if character = 'i'.toUInt8 then .i
  else if character = 'I'.toUInt8 then .I
  else if character = 's'.toUInt8 then .s
  else if character = 'S'.toUInt8 then .S
  else if character = '%'.toUInt8 then .percent
  else .unknown

theorem length_eatLength {n : Nat} {fmt : List UInt8} : (eatLength n fmt).2.length ≤ fmt.length := by
  induction fmt generalizing n with
  | nil => exact Nat.le_refl _
  | cons character fmt ih =>
    rw [eatLength]
    split
    · exact Nat.le_succ_of_le ih
    · exact Nat.le_refl _

/-- The loop over the characters in front of the terminating zero. Nothing is said about a percent
sign that no conversion follows, behind which the loop leaves the format. -/
def formatItems : List UInt8 → List FormatItem
  | [] => []
  | character :: fmt =>
    if character = '%'.toUInt8 then
      .specifier (eatLength 0 fmt).1 (conversionOf ((eatLength 0 fmt).2.headD 0)) ::
        formatItems (eatLength 0 fmt).2.tail
    else .regular character :: formatItems fmt
termination_by fmt => fmt.length
decreasing_by
  · have := @length_eatLength 0 fmt
    rw [List.length_tail, List.length_cons]
    omega
  · exact Nat.lt_succ_self _

def isIntLength (length : Nat) : Bool := length = 1 ∨ length = 2 ∨ length = 4

/-- How much one item adds, and the arguments behind its own, unless they are of other types. -/
def itemLength : FormatItem → List Argument → Option (Nat × List Argument)
  | .regular _, args => some (1, args)
  | .specifier len .i, .int _ :: args => some (len, args)
  | .specifier len .I, args =>
    if isIntLength len then
      match args with
      | .vector values :: args => some ((len * values.length + 4) % 2 ^ 32, args)
      | _ => none
    else some (len, args)
  | .specifier _ .s, .string bytes :: args => some ((bytes.length + 4) % 2 ^ 32, args)
  -- the bytes behind the number are left among the arguments
  | .specifier _ .S, .int count :: args => some ((count + 4) % 2 ^ 32, args)
  | .specifier _ .percent, args => some (1, args)
  | .specifier len .unknown, args => some (len, args)
  | _, _ => none

def lengthFrom (n : Nat) : List FormatItem → List Argument → Option Nat
  | [], _ => some n
  | item :: items, args =>
    (itemLength item args).bind fun added => lengthFrom ((n + added.1) % 2 ^ 32) items added.2

def getLength (fmt : List UInt8) (args : List Argument) : Option Nat :=
  lengthFrom 0 (formatItems fmt) args

def writeInt (value length : Nat) : List UInt8 :=
  if isIntLength length then BigEndian.encode length value else []

def writeVectorInt (values : List Nat) (length : Nat) : List UInt8 :=
  writeInt values.length 4 ++ values.flatMap (writeInt · length)

def writeString (bytes : List UInt8) : List UInt8 := writeInt bytes.length 4 ++ bytes

def fillBuffer : List FormatItem → List Argument → Option (List UInt8)
  | [], _ => some []
  | .regular character :: items, args => (fillBuffer items args).map (character :: ·)
  | .specifier len .i :: items, .int value :: args =>
    (fillBuffer items args).map (writeInt value len ++ ·)
  | .specifier len .I :: items, args =>
    if isIntLength len then
      match args with
      | .vector values :: args => (fillBuffer items args).map (writeVectorInt values len ++ ·)
      | _ => none
    else some []
  | .specifier _ .s :: items, .string bytes :: args =>
    (fillBuffer items args).map (writeString bytes ++ ·)
  | .specifier _ .S :: items, .int count :: .string bytes :: args =>
    if count ≤ bytes.length then
      (fillBuffer items args).map (writeInt count 4 ++ bytes.take count ++ ·)
    else none
  | .specifier _ .percent :: items, args => (fillBuffer items args).map ('%'.toUInt8 :: ·)
  | .specifier _ .unknown :: items, args => fillBuffer items args
  | _, _ => none

/-- What the stream is given, unless more is taken than the buffer has. -/
def writef (fmt : List UInt8) (args : List Argument) : Option (List UInt8) :=
  (getLength fmt args).bind fun size =>
    -- done if nothing to write
    if size = 0 then some []
    else
      (fillBuffer (formatItems fmt) args).bind fun buffer =>
        if size ≤ buffer.length then some (buffer.take size) else none

/-- All but the last are reported as a result. -/
inductive ReadException where
  | endOfStream
  | mismatch
  | badAlloc
  | badClient

/-- What is stored, as far as it could be read, and the sizes of the buffers that were asked for. -/
structure FormatRead where
  stored : List Argument := []
  exception : Option ReadException := none
  reserved : List Nat := []
  source : ByteSource

def readInt (size : Nat) (source : ByteSource) : FormatRead :=
  match source.readAll size with
  | (none, source) => { stored := [.unread], exception := some .endOfStream, source }
  | (some bytes, source) => { stored := [.int (BigEndian.decode bytes)], source }

def readElements (size : Nat) : Nat → List Nat → ByteSource → FormatRead
  | 0, values, source => { stored := [.vector values], source }
  | count + 1, values, source =>
    match source.readAll size with
    | (none, source) => { stored := [.vector values], exception := some .endOfStream, source }
    | (some bytes, source) => readElements size count (values ++ [BigEndian.decode bytes]) source

def readVectorInt (size : Nat) (source : ByteSource) : FormatRead :=
  match source.readAll 4 with
  | (none, source) => { stored := [.unread], exception := some .endOfStream, source }
  | (some header, source) =>
    if PROTOCOL_MAX_LIST_LENGTH < BigEndian.decode header then
      { stored := [.unread], exception := some .badClient, source }
    else readElements size (BigEndian.decode header) [] source

variable (allocates : Nat → Bool)

/-- A buffer of fixed size is used if it's big enough. -/
def readData (len : Nat) (source : ByteSource) : FormatRead :=
  let reserved := if 128 < len then [len] else []
  if 128 < len ∧ ¬ allocates len then
    { stored := [.unread], exception := some .badAlloc, reserved, source }
  else
    match source.readAll len with
    | (none, source) => { stored := [.unread], exception := some .endOfStream, reserved, source }
    | (some bytes, source) => { stored := [.string bytes], reserved, source }

def readBytes (len : Nat) (source : ByteSource) : FormatRead :=
  -- the size of the string is variable and embedded in the stream
  if len = 0 then
    match source.readAll 4 with
    | (none, source) => { stored := [.unread], exception := some .endOfStream, source }
    | (some header, source) => readData allocates (BigEndian.decode header) source
  else readData allocates len source

def readRegular (character : UInt8) (source : ByteSource) : FormatRead :=
  match source.readAll 1 with
  | (none, source) => { exception := some .endOfStream, source }
  | (some buffer, source) =>
    if buffer = [character] then { source } else { exception := some .mismatch, source }

def readItem : FormatItem → ByteSource → FormatRead
  | .regular character, source => readRegular character source
  | .specifier len .i, source =>
    if isIntLength len then readInt len source else { stored := [.unread], source }
  | .specifier len .I, source =>
    if isIntLength len then readVectorInt len source else { stored := [.unread], source }
  | .specifier len .s, source =>
    if PROTOCOL_MAX_STRING_LENGTH < len then
      { stored := [.unread], exception := some .badClient, source }
    else readBytes allocates len source
  | .specifier _ _, source => { source }

def vreadf : List FormatItem → ByteSource → FormatRead
  | [], source => { source }
  | item :: items, source =>
    let read := readItem allocates item source
    match read.exception with
    | some _ => read
    | none =>
      let rest := vreadf items read.source
      { rest with stored := read.stored ++ rest.stored, reserved := read.reserved ++ rest.reserved }

def readf (fmt : List UInt8) (source : ByteSource) : FormatRead :=
  vreadf allocates (formatItems fmt) source

end ProtocolFormat

end DeskflowPlus
