import DeskflowPlus.Lib.Checks
import DeskflowPlus.Transfer.QStringUtf8

/-!
# The fields of a message

A message travels as one CBOR map under small integer keys. What a field of each kind needs to be
written, and what it is read back as.
-/

namespace DeskflowPlus.Transfer

namespace QCborValue

theorem isInteger_natCast {value : Nat} (h : value < 2 ^ 63) :
    isInteger (.integer value) = some (value : Int) := by
  rw [isInteger, if_pos ⟨by omega, by omega⟩]

/-- An integer that is read is stored as such and fits 64 signed bits. -/
theorem isInteger_eq_some {value : QCborValue} {integer : Int} :
    isInteger value = some integer ↔
      value = .integer integer ∧ -2 ^ 63 ≤ integer ∧ integer < 2 ^ 63 := by
  constructor
  · intro h
    cases value with
    | integer stored =>
      rw [isInteger] at h
      split at h
      · rename_i hbounds
        cases h
        exact ⟨rfl, hbounds⟩
      · exact absurd h nofun
    | _ => exact absurd h nofun
  · rintro ⟨rfl, hbounds⟩
    exact if_pos hbounds

theorem isString_toUtf8 {text : QString} (h : QString.isWellFormed text = true) :
    isString (.text text.toUtf8) = some text :=
  congrArg some (QString.fromUtf8_toUtf8 h)

theorem isWellFormed_of_isString {value : QCborValue} {text : QString}
    (h : isString value = some text) : QString.isWellFormed text = true := by
  cases value with
  | text utf8 =>
    cases h
    exact QString.isWellFormed_fromUtf8 utf8
  | _ => exact absurd h nofun

end QCborValue

theorem length_toBytes_lt (value : BitVec 128) : (toRfc4122 value).length < 2 ^ 64 := by
  rw [toRfc4122, BigEndian.encode_length]
  omega

namespace QCborMap

variable {key : Int}

/-- An integer key that the codecs use. -/
def IsKey (key : Int) : Prop := 0 ≤ key ∧ key < 24

instance : Decidable (IsKey key) := inferInstanceAs (Decidable (_ ∧ _))

theorem IsKey.encodable (h : IsKey key) : Cbor.Encodable (.integer key) := by
  unfold IsKey at h
  constructor <;> omega

theorem encodable_unsigned {value : Nat} (hkey : IsKey key) (hvalue : value < 2 ^ 63) :
    Cbor.EncodableEntry (.integer key, .integer value) := by
  refine ⟨hkey.encodable, ?_⟩
  constructor <;> omega

theorem encodable_bytes {content : QByteArray} (hkey : IsKey key)
    (hcontent : content.length < 2 ^ 64) :
    Cbor.EncodableEntry (.integer key, .bytes content) :=
  ⟨hkey.encodable, hcontent⟩

theorem encodable_text {text : QString} (hkey : IsKey key) (hlength : text.toUtf8.length < 2 ^ 64)
    (htext : QString.isWellFormed text = true) :
    Cbor.EncodableEntry (.integer key, .text text.toUtf8) :=
  ⟨hkey.encodable, hlength, QString.isValidUtf8_toUtf8 htext⟩

theorem encodable_bool (hkey : IsKey key) (value : Bool) :
    Cbor.EncodableEntry (.integer key, QCborValue.ofBool value) := by
  refine ⟨hkey.encodable, ?_⟩
  cases value
  · show 20 < 24
    omega
  · show 21 < 24
    omega

theorem encodableEntries_of_forall {map : QCborMap} (h : ∀ entry ∈ map, Cbor.EncodableEntry entry) :
    Cbor.EncodableEntries map := by
  induction map with
  | nil => trivial
  | cons entry map ih =>
    exact ⟨h entry List.mem_cons_self, ih fun later hlater => h later (List.mem_cons_of_mem _ hlater)⟩

theorem encodableItems_of_forall {items : List QCborValue} (h : ∀ item ∈ items, Cbor.Encodable item) :
    Cbor.EncodableItems items := by
  induction items with
  | nil => trivial
  | cons item items ih =>
    exact ⟨h item List.mem_cons_self, ih fun later hlater => h later (List.mem_cons_of_mem _ hlater)⟩

/-- **A map of such fields is read back.** -/
theorem decode_toCbor {map : QCborMap} (hlength : map.length < 2 ^ 64)
    (hentries : Cbor.EncodableEntries map) : Cbor.decode (toCbor map) = some (.map map) :=
  Cbor.decode_encode ⟨hlength, hentries⟩

theorem toCbor_ne_nil (map : QCborMap) : toCbor map ≠ [] :=
  Cbor.encode_ne_nil _

end QCborMap

end DeskflowPlus.Transfer
