import Mathlib.Algebra.Group.Nat.Defs
import Mathlib.Data.List.Basic

/-!
# Conversions between UTF-8 and UTF-16

Characters are read off UTF-8 one after the other, each from the bytes that its first byte announces.
What cannot be read is replaced. The words of UTF-16 are written in the order of a little-endian host,
and read in the order that a first word U+FEFF or U+FFFE tells.
-/

namespace DeskflowPlus

namespace Unicode

def s_invalid : Nat := 0xffff
def s_replacement : Nat := 0xfffd

/-- How many bytes the first one announces. -/
def encodingLength (first : UInt8) : Option Nat :=
  if first < 0x80 then some 1
  -- in the middle of a multibyte character
  else if first < 0xc0 then none
  else if first < 0xe0 then some 2
  else if first < 0xf0 then some 3
  else if first < 0xf8 then some 4
  else if first < 0xfc then some 5
  else if first < 0xfe then some 6
  else none

def isContinuation (byte : UInt8) : Bool := byte &&& 0xc0 = 0x80

/-- The bits of the first byte that are the character's. -/
def leadMask : Nat → Nat
  | 1 => 0xff
  | 2 => 0x1f
  | 3 => 0x0f
  | 4 => 0x07
  | 5 => 0x03
  | _ => 0x01

/-- Each byte behind the first one has six bits. -/
def extract (size : Nat) (first : UInt8) (following : List UInt8) : Nat :=
  following.foldl (fun c byte => c <<< 6 ||| (byte.toNat &&& 0x3f)) (first.toNat &&& leadMask size)

/-- The smallest character that needs as many bytes. -/
def s_minChar : Nat → Nat
  | 2 => 0x80
  | 3 => 0x800
  | 4 => 0x10000
  | 5 => 0x200000
  | 6 => 0x4000000
  | _ => 0

def checkCharacter (size c : Nat) : Nat :=
  -- didn't use the smallest possible encoding
  if c < s_minChar size then s_invalid
  -- not in ISO-10646
  else if 0xd800 ≤ c ∧ c ≤ 0xdfff then s_invalid
  else if 0xfffe ≤ c ∧ c ≤ 0xffff then s_invalid
  else c

/-- The character at the start and the bytes behind it, unless a byte is read past the end. The
checks of the following bytes go from the last to the first, so the first that fails counts. -/
def fromUTF8 (data : List UInt8) : Option (Nat × List UInt8) :=
  data[0]?.bind fun first =>
    match encodingLength first with
    | none => some (s_invalid, data.drop 1)
    | some size =>
      -- make sure we have enough data
      if data.length < size then some (s_invalid, [])
      else
        ((List.range' 1 (size - 1)).mapM (data[·]?)).map fun following =>
          let valid := (following.takeWhile isContinuation).length
          if valid < following.length then (s_invalid, data.drop (1 + valid))
          else (checkCharacter size (extract size first following), data.drop size)

/-- The loop until no bytes are left, unless it reads past the end or does not end. -/
def decodeRounds : Nat → List UInt8 → Option (List Nat)
  | _, [] => some []
  | 0, _ :: _ => none
  | rounds + 1, first :: rest =>
    (fromUTF8 (first :: rest)).bind fun next => (decodeRounds rounds next.2).map (next.1 :: ·)

def decode (data : List UInt8) : Option (List Nat) := decodeRounds data.length data

/-- One byte of a character, with the bits that tell its place. -/
def utf8Byte (c shift mask offset : Nat) : UInt8 := UInt8.ofNat ((c >>> shift &&& mask) + offset)

def utf8Bytes (c : Nat) : List UInt8 :=
  if c < 0x80 then [UInt8.ofNat c]
  else if c < 0x800 then [utf8Byte c 6 0x1f 0xc0, utf8Byte c 0 0x3f 0x80]
  else if c < 0x10000 then
    [utf8Byte c 12 0x0f 0xe0, utf8Byte c 6 0x3f 0x80, utf8Byte c 0 0x3f 0x80]
  else if c < 0x200000 then
    [utf8Byte c 18 0x07 0xf0, utf8Byte c 12 0x3f 0x80, utf8Byte c 6 0x3f 0x80, utf8Byte c 0 0x3f 0x80]
  else if c < 0x4000000 then
    [utf8Byte c 24 0x03 0xf8, utf8Byte c 18 0x3f 0x80, utf8Byte c 12 0x3f 0x80, utf8Byte c 6 0x3f 0x80,
      utf8Byte c 0 0x3f 0x80]
  else
    [utf8Byte c 30 0x01 0xfc, utf8Byte c 24 0x3f 0x80, utf8Byte c 18 0x3f 0x80,
      utf8Byte c 12 0x3f 0x80, utf8Byte c 6 0x3f 0x80, utf8Byte c 0 0x3f 0x80]

/-- The bytes, and whether there is an error. -/
def toUTF8 (c : Nat) : List UInt8 × Bool :=
  if 0xd800 ≤ c ∧ c ≤ 0xdfff ∨ 0x80000000 ≤ c then (utf8Bytes s_replacement, true)
  else (utf8Bytes c, false)

def wordBytes (word : Nat) : List UInt8 := [UInt8.ofNat word, UInt8.ofNat (word / 0x100)]

/-- A character that was decoded, with whether it is an error. -/
def utf16Words (c : Nat) : List Nat × Bool :=
  if c = s_invalid then ([s_replacement], false)
  else if 0x110000 ≤ c then ([s_replacement], true)
  else if c < 0x10000 then ([c], false)
  else ([((c - 0x10000) >>> 10) + 0xd800, ((c - 0x10000) &&& 0x3ff) + 0xdc00], false)

def UTF8ToUTF16 (src : List UInt8) : Option (List UInt8 × Bool) :=
  (decode (src.take (src.length % 2 ^ 32))).map fun characters =>
    (characters.flatMap fun c => (utf16Words c).1.flatMap wordBytes,
      characters.any fun c => (utf16Words c).2)

def words (byteSwapped : Bool) : List UInt8 → List Nat
  | first :: second :: rest =>
    (if byteSwapped then second.toNat + 0x100 * first.toNat else first.toNat + 0x100 * second.toNat) ::
      words byteSwapped rest
  | _ => []

/-- Two pieces of the result, with an error if either has one. -/
def joinResults (x y : List UInt8 × Bool) : List UInt8 × Bool := (x.1 ++ y.1, x.2 || y.2)

def replacement : List UInt8 × Bool := ((toUTF8 s_replacement).1, true)

def convertWords : List Nat → List UInt8 × Bool
  | [] => ([], false)
  | [c] => if c < 0xd800 ∨ 0xdfff < c then toUTF8 c else replacement
  | c :: c2 :: rest =>
    if c < 0xd800 ∨ 0xdfff < c then joinResults (toUTF8 c) (convertWords (c2 :: rest))
    else if c ≤ 0xdbff then
      if c2 < 0xdc00 ∨ 0xdfff < c2 then joinResults replacement (convertWords rest)
      else joinResults (toUTF8 (((c - 0xd800) <<< 10 ||| (c2 - 0xdc00)) + 0x10000)) (convertWords rest)
    -- [dc00,dfff] without leading [d800,dbff]
    else joinResults replacement (convertWords (c2 :: rest))

/-- Unless the first word tells the order, it is the host's. -/
def UTF16ToUTF8 (src : List UInt8) : List UInt8 × Bool :=
  let data := src.take (src.length % 2 ^ 32)
  match (words false data).head? with
  | some 0xfeff => convertWords (words false (data.drop 2))
  | some 0xfffe => convertWords (words true (data.drop 2))
  | _ => convertWords (words false data)

end Unicode

end DeskflowPlus
