import DeskflowPlus.Lib.Cbor
import DeskflowPlus.Transfer.Protocol

/-!
# The Qt values the transfer core computes with

Strings are lists of UTF-16 units, times are milliseconds since the epoch or invalid, and a running
hash is the bytes added so far. What Qt reads off its Unicode tables and the platform's path rules,
and the hash function itself, stand in structures the model takes as parameters.
-/

namespace DeskflowPlus.Transfer

abbrev QByteArray := List UInt8
abbrev QString := List UInt16

namespace QString

def ofChar (c : Char) : QString :=
  if c.toNat < 0x10000 then [UInt16.ofNat c.toNat]
  else
    let offset := c.toNat - 0x10000
    [UInt16.ofNat (0xd800 + offset / 0x400), UInt16.ofNat (0xdc00 + offset % 0x400)]

/-- `QStringLiteral`. -/
def literal (text : String) : QString :=
  text.toList.flatMap ofChar

def isHighSurrogate (unit : UInt16) : Bool := 0xd800 ≤ unit ∧ unit < 0xdc00
def isLowSurrogate (unit : UInt16) : Bool := 0xdc00 ≤ unit ∧ unit < 0xe000

/-- The UTF-8 form of one unit outside a surrogate pair; a lone surrogate becomes a question mark. -/
def unitToUtf8 (unit : UInt16) : QByteArray :=
  let value := unit.toNat
  if value < 0x80 then [UInt8.ofNat value]
  else if value < 0x800 then [UInt8.ofNat (0xc0 + value / 0x40), UInt8.ofNat (0x80 + value % 0x40)]
  else if isHighSurrogate unit || isLowSurrogate unit then [0x3f]
  else [UInt8.ofNat (0xe0 + value / 0x1000), UInt8.ofNat (0x80 + value / 0x40 % 0x40),
    UInt8.ofNat (0x80 + value % 0x40)]

def toUtf8 : QString → QByteArray
  | [] => []
  | [unit] => unitToUtf8 unit
  | unit :: next :: rest =>
    if isHighSurrogate unit && isLowSurrogate next then
      let value := 0x10000 + (unit.toNat - 0xd800) * 0x400 + (next.toNat - 0xdc00)
      [UInt8.ofNat (0xf0 + value / 0x40000), UInt8.ofNat (0x80 + value / 0x1000 % 0x40),
        UInt8.ofNat (0x80 + value / 0x40 % 0x40), UInt8.ofNat (0x80 + value % 0x40)] ++ toUtf8 rest
    else unitToUtf8 unit ++ toUtf8 (next :: rest)

def fromUtf8 (utf8 : QByteArray) : QString :=
  match String.fromUTF8? ⟨utf8.toArray⟩ with
  | some text => literal text
  | none => []

def hexDigit (digit : Nat) : UInt16 :=
  UInt16.ofNat (if digit < 10 then 0x30 + digit else 0x61 + (digit - 10))

def hex (bytes : QByteArray) : QString :=
  bytes.flatMap fun byte => [hexDigit (byte.toNat / 16), hexDigit (byte.toNat % 16)]

end QString

def toRfc4122 (value : BitVec 128) : QByteArray :=
  BigEndian.encode 16 value.toNat

abbrev QUuid := BitVec 128

def uuidToString (value : BitVec 128) : QString :=
  let bytes := toRfc4122 value
  let dash := QString.literal "-"
  QString.hex (bytes.take 4) ++ dash ++ QString.hex ((bytes.drop 4).take 2) ++ dash
    ++ QString.hex ((bytes.drop 6).take 2) ++ dash ++ QString.hex ((bytes.drop 8).take 2) ++ dash
    ++ QString.hex (bytes.drop 10)

def uuidFromBytes (bytes : QByteArray) : Option { value : BitVec 128 // value ≠ 0 } :=
  if bytes.length ≠ 16 then none
  else
    let value := BitVec.ofNat 128 (BigEndian.decode bytes)
    if h : value ≠ 0 then some ⟨value, h⟩ else none

/-- A device's UUID; the null UUID names no device. -/
structure DeviceId where
  value : BitVec 128
  nonNull : value ≠ 0

instance : DecidableEq DeviceId := fun first second =>
  decidable_of_iff (first.value = second.value) (by cases first; cases second; simp)

instance lawfulBEqQString : LawfulBEq (List UInt16) := inferInstance

def DeviceId.toBytes (id : DeviceId) : QByteArray := toRfc4122 id.value
def DeviceId.fromBytes (bytes : QByteArray) : Option DeviceId :=
  (uuidFromBytes bytes).map fun value => ⟨value.1, value.2⟩

def TransferId.toBytes (id : TransferId) : QByteArray := toRfc4122 id.value
def TransferId.toString (id : TransferId) : QString := uuidToString id.value
def TransferId.fromBytes (bytes : QByteArray) : Option TransferId :=
  (uuidFromBytes bytes).map fun value => ⟨value.1, value.2⟩

def FileId.toBytes (id : FileId) : QByteArray := toRfc4122 id.value
def FileId.toString (id : FileId) : QString := uuidToString id.value
def FileId.fromBytes (bytes : QByteArray) : Option FileId :=
  (uuidFromBytes bytes).map fun value => ⟨value.1, value.2⟩

theorem uuidFromBytes_toRfc4122 {value : BitVec 128} (h : value ≠ 0) :
    uuidFromBytes (toRfc4122 value) = some ⟨value, h⟩ := by
  have hdecode : BigEndian.decode (toRfc4122 value) = value.toNat :=
    BigEndian.decode_encode value.isLt
  have hlength : (toRfc4122 value).length = 16 := BigEndian.encode_length ..
  unfold uuidFromBytes
  rw [hdecode, BitVec.ofNat_toNat, BitVec.setWidth_eq, if_neg (by omega)]
  exact dif_pos h

@[simp]
theorem DeviceId.fromBytes_toBytes (id : DeviceId) : DeviceId.fromBytes id.toBytes = some id := by
  simp [DeviceId.fromBytes, DeviceId.toBytes, uuidFromBytes_toRfc4122 id.nonNull]

@[simp]
theorem TransferId.fromBytes_toBytes (id : TransferId) :
    TransferId.fromBytes id.toBytes = some id := by
  simp [TransferId.fromBytes, TransferId.toBytes, uuidFromBytes_toRfc4122 id.nonNull]

@[simp]
theorem FileId.fromBytes_toBytes (id : FileId) : FileId.fromBytes id.toBytes = some id := by
  simp [FileId.fromBytes, FileId.toBytes, uuidFromBytes_toRfc4122 id.nonNull]

/-- Milliseconds since the epoch, or an invalid time. -/
structure QDateTime where
  msecs : Option Int := none
  deriving DecidableEq

namespace QDateTime

def isValid (time : QDateTime) : Bool := time.msecs.isSome
def toMSecsSinceEpoch (time : QDateTime) : Int := time.msecs.getD 0

end QDateTime

/-- SHA-256. A `QCryptographicHash` is the bytes added to it; its result is the hash of them. -/
structure Sha256 where
  hash : QByteArray → QByteArray
  length_hash : ∀ bytes, (hash bytes).length = kSha256Bytes

theorem Sha256.length_zeros (_ : QByteArray) :
    (List.replicate 32 (0 : UInt8)).length = kSha256Bytes := rfl

/-- Unicode tables and the platform's path syntax. -/
structure QtText where
  normalizedC : QString → QString
  toCaseFolded : QString → QString
  toUpper : QString → QString
  isOtherControl : UInt16 → Bool
  isSpace : UInt16 → Bool
  isAbsolutePath : QString → Bool
  cleanPath : QString → QString
  absoluteFilePath : QString → QString → QString
  fromNativeSeparators : QString → QString

/-- `QString::trimmed`. -/
def QtText.trimmed (qt : QtText) (text : QString) : QString :=
  ((text.dropWhile qt.isSpace).reverse.dropWhile qt.isSpace).reverse

def QtText.ascii : QtText where
  normalizedC text := text
  toCaseFolded text := text.map fun unit => if 0x41 ≤ unit ∧ unit ≤ 0x5a then unit + 0x20 else unit
  toUpper text := text.map fun unit => if 0x61 ≤ unit ∧ unit ≤ 0x7a then unit - 0x20 else unit
  isOtherControl unit := unit < 0x20 || unit = 0x7f
  isSpace unit := unit = 0x20 || (0x09 ≤ unit && unit ≤ 0x0d)
  isAbsolutePath path := path.head? = some 0x2f
  cleanPath path := path
  absoluteFilePath root path := root ++ 0x2f :: path
  fromNativeSeparators path := path

abbrev QCborValue := Cbor.Value
abbrev QCborMap := List (QCborValue × QCborValue)

namespace QCborValue

/-- Integers outside the 64-bit signed range are read as doubles. -/
def isInteger : QCborValue → Option Int
  | .integer value => if -2 ^ 63 ≤ value ∧ value < 2 ^ 63 then some value else none
  | _ => none

def isByteArray : QCborValue → Option QByteArray
  | .bytes content => some content
  | _ => none

def isString : QCborValue → Option QString
  | .text utf8 => some (QString.fromUtf8 utf8)
  | _ => none

def isMap : QCborValue → Option QCborMap
  | .map entries => some entries
  | _ => none

def isArray : QCborValue → Option (List QCborValue)
  | .array items => some items
  | _ => none

def isBool : QCborValue → Option Bool
  | .simple 20 => some false
  | .simple 21 => some true
  | _ => none

def ofBool (value : Bool) : QCborValue := .simple (if value then 21 else 20)

end QCborValue

namespace QCborMap

def value (map : QCborMap) (key : Int) : Option QCborValue :=
  (map.find? fun entry => entry.1.isInteger = some key).map Prod.snd

def contains (map : QCborMap) (key : Int) : Bool := (map.value key).isSome

/-- Serialisation with sorted keys, for a map built in the order of its keys. -/
def toCbor (map : QCborMap) : QByteArray := Cbor.encode (.map map)

end QCborMap

end DeskflowPlus.Transfer
