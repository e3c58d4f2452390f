import DeskflowPlus.Lib.PathSegments
import DeskflowPlus.Transfer.QtTypes

/-!
# Device identifiers as text

An identifier is written as five groups of hexadecimal digits with dashes between them, and read in
either case. The pattern that guards the reader ends in a dollar sign, which lets one line feed
follow the digits.
-/

namespace DeskflowPlus.Transfer

namespace QString

def hexDigitValue (unit : UInt16) : Option Nat :=
  if 0x30 ≤ unit ∧ unit ≤ 0x39 then some (unit.toNat - 0x30)
  else if 0x61 ≤ unit ∧ unit ≤ 0x66 then some (unit.toNat - 0x61 + 10)
  else if 0x41 ≤ unit ∧ unit ≤ 0x46 then some (unit.toNat - 0x41 + 10)
  else none

def hexValue (digits : QString) : Nat :=
  digits.foldl (fun value unit => value * 16 + (hexDigitValue unit).getD 0) 0

theorem hexDigitValue_hexDigit {digit : Nat} (h : digit < 16) :
    hexDigitValue (hexDigit digit) = some digit := by
  have hall : ∀ digit : Fin 16, hexDigitValue (hexDigit digit) = some digit.val := by decide
  exact hall ⟨digit, h⟩

theorem hexDigitValue_of_mem_hex {bytes : QByteArray} {unit : UInt16} (h : unit ∈ hex bytes) :
    (hexDigitValue unit).isSome = true := by
  obtain ⟨byte, -, hunit⟩ := List.mem_flatMap.mp h
  have hbyte := byte.toNat_lt
  obtain rfl | hlow := List.mem_cons.mp hunit
  · rw [hexDigitValue_hexDigit (by omega)]
    rfl
  · rw [List.mem_singleton.mp hlow, hexDigitValue_hexDigit (by omega)]
    rfl

theorem foldl_hex (bytes : QByteArray) (start : Nat) :
    (hex bytes).foldl (fun value unit => value * 16 + (hexDigitValue unit).getD 0) start =
      bytes.foldl (fun value byte => value * 256 + byte.toNat) start := by
  induction bytes generalizing start with
  | nil => rfl
  | cons byte rest ih =>
    have hbyte := byte.toNat_lt
    have hstep : (start * 16 + byte.toNat / 16) * 16 + byte.toNat % 16 =
        start * 256 + byte.toNat := by
      omega
    rw [hex, List.flatMap_cons, List.foldl_append, List.foldl_cons, List.foldl_cons, List.foldl_nil,
      hexDigitValue_hexDigit (by omega), hexDigitValue_hexDigit (by omega), Option.getD_some,
      Option.getD_some, hstep]
    exact ih _

theorem hexValue_hex (bytes : QByteArray) : hexValue (hex bytes) = BigEndian.decode bytes :=
  foldl_hex bytes 0

theorem hex_append (left right : QByteArray) : hex (left ++ right) = hex left ++ hex right :=
  List.flatMap_append

theorem flatten_map_hex (groups : List QByteArray) :
    (groups.map hex).flatten = hex groups.flatten := by
  induction groups with
  | nil => rfl
  | cons group rest ih =>
    rw [List.map_cons, List.flatten_cons, List.flatten_cons, hex_append, ih]

theorem hex_length (bytes : QByteArray) : (hex bytes).length = 2 * bytes.length := by
  induction bytes with
  | nil => rfl
  | cons byte rest ih =>
    rw [hex, List.flatMap_cons, List.length_append]
    change 2 + (hex rest).length = _
    rw [ih, List.length_cons]
    omega

theorem dash_not_mem_hex (bytes : QByteArray) : (0x2d : UInt16) ∉ hex bytes :=
  fun h => absurd (hexDigitValue_of_mem_hex h) (by decide)

end QString

namespace DeviceId

def toString (id : DeviceId) : QString := uuidToString id.value

def canonicalGroups (text : QString) : Option (List QString) :=
  let line := if text.getLast? = some 0x0a then text.dropLast else text
  let groups := line.splitOn 0x2d
  if groups.map List.length = [8, 4, 4, 4, 12] ∧
      groups.all (fun group => group.all fun unit => (QString.hexDigitValue unit).isSome) then
    some groups
  else none

def fromString (text : QString) : Option DeviceId :=
  match canonicalGroups text with
  | none => none
  | some groups =>
    let value := BitVec.ofNat 128 (QString.hexValue groups.flatten)
    if h : value ≠ 0 then some ⟨value, h⟩ else none

def groupBytes (value : BitVec 128) : List QByteArray :=
  let bytes := toRfc4122 value
  [bytes.take 4, (bytes.drop 4).take 2, (bytes.drop 6).take 2, (bytes.drop 8).take 2, bytes.drop 10]

theorem uuidToString_eq (value : BitVec 128) :
    uuidToString value = [0x2d].intercalate ((groupBytes value).map QString.hex) := by
  simp [uuidToString, groupBytes, List.intercalate, QString.literal, QString.ofChar]

theorem flatten_groupBytes (value : BitVec 128) :
    (groupBytes value).flatten = toRfc4122 value := by
  unfold groupBytes
  generalize toRfc4122 value = bytes
  have hsplit (from_ : Nat) : (bytes.drop from_).take 2 ++ bytes.drop (from_ + 2) =
      bytes.drop from_ := by
    rw [← List.drop_drop]
    exact List.take_append_drop 2 _
  rw [List.flatten_cons, List.flatten_cons, List.flatten_cons, List.flatten_cons, List.flatten_cons,
    List.flatten_nil, List.append_nil, hsplit 8, hsplit 6, hsplit 4]
  exact List.take_append_drop 4 bytes

theorem length_groupBytes (value : BitVec 128) :
    ((groupBytes value).map QString.hex).map List.length = [8, 4, 4, 4, 12] := by
  have hlength : (toRfc4122 value).length = 16 := BigEndian.encode_length ..
  simp [groupBytes, QString.hex_length, hlength]

theorem canonicalGroups_toString (id : DeviceId) :
    canonicalGroups id.toString = some ((groupBytes id.value).map QString.hex) := by
  have hgroups : ∀ group ∈ (groupBytes id.value).map QString.hex,
      ∀ unit ∈ group, (QString.hexDigitValue unit).isSome = true := by
    intro group hgroup unit hunit
    obtain ⟨bytes, -, rfl⟩ := List.mem_map.mp hgroup
    exact QString.hexDigitValue_of_mem_hex hunit
  have hsplit : id.toString.splitOn 0x2d = (groupBytes id.value).map QString.hex := by
    unfold toString
    rw [uuidToString_eq]
    apply List.splitOn_intercalate
    · intro group hgroup
      obtain ⟨bytes, -, rfl⟩ := List.mem_map.mp hgroup
      exact QString.dash_not_mem_hex bytes
    · exact List.cons_ne_nil _ _
  have hlast : id.toString.getLast? ≠ some 0x0a := by
    intro hlast
    have hmem : (0x0a : UInt16) ∈ id.toString := List.mem_of_getLast? hlast
    rw [toString, uuidToString_eq] at hmem
    obtain hdash | ⟨group, hgroup, hunit⟩ := PathSegments.mem_of_mem_intercalate hmem
    · exact absurd hdash (by decide)
    · exact absurd (hgroups group hgroup _ hunit) (by decide)
  unfold canonicalGroups
  dsimp only
  rw [if_neg hlast, hsplit]
  refine if_pos ⟨length_groupBytes id.value, ?_⟩
  simpa only [List.all_eq_true] using hgroups

/-- **Reading back.** An identifier is what its text names. -/
theorem fromString_toString (id : DeviceId) : fromString id.toString = some id := by
  have hvalue : BigEndian.decode (toRfc4122 id.value) = id.value.toNat :=
    BigEndian.decode_encode id.value.isLt
  unfold fromString
  rw [canonicalGroups_toString]
  dsimp only
  rw [QString.flatten_map_hex, flatten_groupBytes, QString.hexValue_hex, hvalue, BitVec.ofNat_toNat, BitVec.setWidth_eq]
  exact dif_pos id.nonNull

end DeviceId

end DeskflowPlus.Transfer
