import DeskflowPlus.Clipboard.Clipboard

/-!
# Unmarshalling untrusted clipboard data

`unmarshall` walks over the string with a pointer and takes counts, formats and sizes from it as
they are. What it reads and adds is a list of accesses. They stay inside the string and the
clipboard's tables just when the string has all the records it announces, with no format that is
negative as an `int`.
-/

namespace DeskflowPlus

open IClipboard

/-- One use of memory: bytes of the string that are read, or a clipboard entry that is filled. -/
inductive UnmarshallAccess where
  | read (index size : Nat)
  | add (format : Int)
  deriving DecidableEq

namespace UnmarshallAccess

/-- Inside a string of this length, and inside the tables. -/
def Safe (length : Nat) : UnmarshallAccess → Prop
  | read index size => index + size ≤ length
  | add format => 0 ≤ format ∧ format < Format.all.length

instance (length : Nat) (access : UnmarshallAccess) : Decidable (access.Safe length) := by
  cases access
  · exact inferInstanceAs (Decidable (_ ≤ _))
  · exact inferInstanceAs (Decidable (_ ∧ _))

end UnmarshallAccess

namespace UnmarshallWalk

variable (memory : Nat → UInt8)

/-- The four bytes at the pointer. -/
def readUInt32 (index : Nat) : Nat :=
  BigEndian.decode [memory index, memory (index + 1), memory (index + 2), memory (index + 3)]

/-- The enumeration has the underlying type `int`. -/
def toFormat (value : Nat) : Int := if value < 2 ^ 31 then value else value - 2 ^ 32

/-- The accesses of each of the rounds that are left, from this pointer on. -/
def formats : Nat → Nat → List (List UnmarshallAccess)
  | 0, _ => []
  | count + 1, index =>
    let format := toFormat (readUInt32 memory index)
    let size := readUInt32 memory (index + 4)
    let saved : List UnmarshallAccess :=
      if format < Format.all.length then [.read (index + 8) size, .add format] else []
    (.read index 4 :: .read (index + 4) 4 :: saved) :: formats count (index + 8 + size)

/-- The number of formats that the string announces, and the rounds behind it. -/
def unmarshall : Nat × List (List UnmarshallAccess) :=
  let numFormats := readUInt32 memory 0
  (numFormats, formats memory numFormats 4)

def layOut (data : List UInt8) (behind : Nat → UInt8) (index : Nat) : UInt8 :=
  data[index]?.getD (behind index)

end UnmarshallWalk

namespace IClipboard

inductive Records : Nat → List UInt8 → Prop
  | done {bytes : List UInt8} : Records 0 bytes
  | record {count id : Nat} {data rest : List UInt8} (hid : id < 2 ^ 31)
      (hsize : data.length < 2 ^ 32) (hrest : Records count rest) :
      Records (count + 1)
        (Clipboard.writeUInt32 id ++ (Clipboard.writeUInt32 data.length ++ (data ++ rest)))
  | cut {id size : Nat} {data : List UInt8} (hid : id < 2 ^ 31)
      (hunknown : Format.ofId? id = none) (hsize : size < 2 ^ 32) (hcut : data.length < size) :
      Records 1 (Clipboard.writeUInt32 id ++ (Clipboard.writeUInt32 size ++ data))

def Announced (data : List UInt8) : Prop :=
  ∃ count records, count < 2 ^ 32 ∧ data = Clipboard.writeUInt32 count ++ records ∧
    Records count records

theorem length_writeUInt32 (value : Nat) : (Clipboard.writeUInt32 value).length = 4 :=
  BigEndian.encode_length 4 value

theorem writeUInt32_append_inj {value other : Nat} {rest behind : List UInt8}
    (hvalue : value < 2 ^ 32) (hother : other < 2 ^ 32)
    (h : Clipboard.writeUInt32 value ++ rest = Clipboard.writeUInt32 other ++ behind) :
    value = other ∧ rest = behind := by
  have hlength : (Clipboard.writeUInt32 value).length = (Clipboard.writeUInt32 other).length := by
    rw [length_writeUInt32, length_writeUInt32]
  obtain ⟨hfield, hrest⟩ := List.append_inj h hlength
  have hdecode := congrArg BigEndian.decode hfield
  rw [Clipboard.writeUInt32, Clipboard.writeUInt32, BigEndian.decode_encode (by omega),
    BigEndian.decode_encode (by omega)] at hdecode
  exact ⟨hdecode, hrest⟩

theorem Records.length_ge {count : Nat} {bytes : List UInt8} (h : Records (count + 1) bytes) :
    8 ≤ bytes.length := by
  cases h with
  | record => simp only [List.length_append, length_writeUInt32]; omega
  | cut => simp only [List.length_append, length_writeUInt32]; omega

theorem records_succ_iff {count id size : Nat} {rest : List UInt8} (hid : id < 2 ^ 32)
    (hsize : size < 2 ^ 32) :
    Records (count + 1) (Clipboard.writeUInt32 id ++ (Clipboard.writeUInt32 size ++ rest)) ↔
      id < 2 ^ 31 ∧ (size ≤ rest.length ∧ Records count (rest.drop size) ∨
        Format.ofId? id = none ∧ rest.length < size ∧ count = 0) := by
  constructor
  · intro h
    generalize hbytes :
      Clipboard.writeUInt32 id ++ (Clipboard.writeUInt32 size ++ rest) = bytes at h
    cases h with
    | @record _ id' data rest' hid' hsize' hrest =>
      obtain ⟨rfl, hbehind⟩ := writeUInt32_append_inj hid (by omega) hbytes
      obtain ⟨rfl, rfl⟩ := writeUInt32_append_inj hsize hsize' hbehind
      refine ⟨hid', .inl ⟨by simp, ?_⟩⟩
      rwa [List.drop_left]
    | @cut id' size' data hid' hunknown hsize' hcut =>
      obtain ⟨rfl, hbehind⟩ := writeUInt32_append_inj hid (by omega) hbytes
      obtain ⟨rfl, rfl⟩ := writeUInt32_append_inj hsize hsize' hbehind
      exact ⟨hid', .inr ⟨hunknown, hcut, rfl⟩⟩
  · rintro ⟨hid', ⟨hinside, hrest⟩ | ⟨hunknown, hcut, rfl⟩⟩
    · have hdata : (rest.take size).length = size := List.length_take_of_le hinside
      have hrecord : Records (count + 1) (Clipboard.writeUInt32 id ++
          (Clipboard.writeUInt32 (rest.take size).length ++ (rest.take size ++ rest.drop size))) :=
        .record hid' (by omega) hrest
      rwa [hdata, List.take_append_drop] at hrecord
    · exact .cut hid' hunknown hsize hcut

theorem ofId?_eq_none_iff {id : Nat} : Format.ofId? id = none ↔ 3 ≤ id := by
  match id with
  | 0 | 1 | 2 => exact iff_of_false nofun (by omega)
  | n + 3 => exact iff_of_true rfl (by omega)

end IClipboard

namespace UnmarshallWalk

variable {data : List UInt8} (behind : Nat → UInt8)

variable {index : Nat}

theorem exists_readUInt32 (h : index + 4 ≤ data.length) :
    ∃ value, value < 2 ^ 32 ∧ readUInt32 (layOut data behind) index = value ∧
      data.drop index = Clipboard.writeUInt32 value ++ data.drop (index + 4) := by
  have htake : (data.drop index).take 4 =
      [layOut data behind index, layOut data behind (index + 1), layOut data behind (index + 2),
        layOut data behind (index + 3)] := by
    apply List.ext_getElem?
    intro position
    match position with
    | 0 | 1 | 2 | 3 =>
      simp only [List.getElem?_take, List.getElem?_drop, layOut]
      simp [List.getElem?_eq_getElem (show index < data.length by omega),
        List.getElem?_eq_getElem (show index + 1 < data.length by omega),
        List.getElem?_eq_getElem (show index + 2 < data.length by omega),
        List.getElem?_eq_getElem (show index + 3 < data.length by omega)]
    | n + 4 => simp
  have hlength : ((data.drop index).take 4).length = 4 := by
    rw [htake]
    rfl
  refine ⟨BigEndian.decode ((data.drop index).take 4), ?_, ?_, ?_⟩
  · have hlt := BigEndian.decode_lt ((data.drop index).take 4)
    rw [hlength] at hlt
    omega
  · rw [htake]
    rfl
  · have hencode := BigEndian.encode_decode ((data.drop index).take 4)
    rw [hlength] at hencode
    rw [Clipboard.writeUInt32, hencode, ← List.drop_drop, List.take_append_drop]

def AllSafe (length : Nat) (accesses : List UnmarshallAccess) : Prop :=
  ∀ access ∈ accesses, access.Safe length

variable {length : Nat}

theorem allSafe_cons {access : UnmarshallAccess} {rest : List UnmarshallAccess} :
    AllSafe length (access :: rest) ↔ access.Safe length ∧ AllSafe length rest :=
  List.forall_mem_cons

theorem allSafe_append {first rest : List UnmarshallAccess} :
    AllSafe length (first ++ rest) ↔ AllSafe length first ∧ AllSafe length rest :=
  List.forall_mem_append

theorem allSafe_nil : AllSafe length [] := nofun

theorem toFormat_of_lt {value : Nat} (h : value < 2 ^ 31) : toFormat value = value :=
  if_pos h

theorem allSafe_saved_iff {id size : Nat} (hid : id < 3) :
    AllSafe length [.read index size, .add id] ↔ index + size ≤ length := by
  rw [allSafe_cons, allSafe_cons]
  have hformat : (UnmarshallAccess.add id).Safe length := by
    constructor
    · omega
    · have hall : Format.all.length = 3 := rfl
      omega
  exact and_iff_left ⟨hformat, allSafe_nil⟩

theorem allSafe_formats_behind {memory : Nat → UInt8} {count : Nat} (hindex : length < index) :
    AllSafe length (formats memory count index).flatten ↔ count = 0 := by
  cases count with
  | zero => exact iff_of_true allSafe_nil rfl
  | succ count =>
    refine iff_of_false (fun h => ?_) nofun
    have hread : index + 4 ≤ length := h (.read index 4) (by simp [formats])
    omega

theorem allSafe_formats_iff {count : Nat} (hindex : index ≤ data.length) :
    AllSafe data.length (formats (layOut data behind) count index).flatten ↔
      Records count (data.drop index) := by
  induction count generalizing index with
  | zero => exact iff_of_true allSafe_nil .done
  | succ count ih =>
    unfold formats
    dsimp only
    rw [List.flatten_cons, List.cons_append, List.cons_append, allSafe_cons, allSafe_cons]
    by_cases hheader : index + 8 ≤ data.length
    · obtain ⟨id, hid, hread, hbytes⟩ := exists_readUInt32 behind
        (show index + 4 ≤ data.length by omega)
      obtain ⟨size, hsize, hread', hbytes'⟩ := exists_readUInt32 behind
        (show index + 4 + 4 ≤ data.length by omega)
      have hrest : (data.drop (index + 8)).length = data.length - (index + 8) := List.length_drop
      rw [hread, hread', hbytes, hbytes', records_succ_iff hid hsize, List.drop_drop, hrest,
        ofId?_eq_none_iff, allSafe_append]
      have hheads : (UnmarshallAccess.read index 4).Safe data.length ∧
          (UnmarshallAccess.read (index + 4) 4).Safe data.length := by
        constructor
        · show index + 4 ≤ data.length
          omega
        · exact hheader
      rw [← and_assoc, and_iff_right hheads]
      by_cases hsign : id < 2 ^ 31
      · rw [toFormat_of_lt hsign, and_iff_right hsign]
        by_cases hknown : id < 3
        · have hformat : (id : Int) < Format.all.length := by
            have hall : Format.all.length = 3 := rfl
            omega
          rw [if_pos hformat, allSafe_saved_iff hknown]
          by_cases hinside : index + 8 + size ≤ data.length
          · rw [ih hinside]
            have hfits : size ≤ data.length - (index + 8) := by omega
            have hnot : ¬ 3 ≤ id := by omega
            simp only [hinside, hfits, hnot, true_and, false_and, or_false]
          · have hshort : ¬ size ≤ data.length - (index + 8) := by omega
            have hnot : ¬ 3 ≤ id := by omega
            simp only [hinside, hshort, hnot, false_and, or_false]
        · have hformat : ¬ (id : Int) < Format.all.length := by
            have hall : Format.all.length = 3 := rfl
            omega
          rw [if_neg hformat, and_iff_right allSafe_nil]
          by_cases hinside : index + 8 + size ≤ data.length
          · rw [ih hinside]
            have hfits : size ≤ data.length - (index + 8) := by omega
            have hlong : ¬ data.length - (index + 8) < size := by omega
            simp only [hfits, hlong, true_and, false_and, and_false, or_false]
          · rw [allSafe_formats_behind (Nat.lt_of_not_le hinside)]
            have hshort : ¬ size ≤ data.length - (index + 8) := by omega
            have hcut : data.length - (index + 8) < size := by omega
            have hunknown : 3 ≤ id := by omega
            simp only [hshort, hcut, hunknown, true_and, false_and, false_or]
      · refine iff_of_false (fun h => ?_) fun h => hsign h.1
        have hnegative : toFormat id < 0 := by
          rw [toFormat, if_neg hsign]
          omega
        have hformat : toFormat id < Format.all.length := by omega
        rw [if_pos hformat] at h
        have hadd : 0 ≤ toFormat id := (h.1 (.add (toFormat id)) (by simp)).1
        omega
    · refine iff_of_false (fun h => hheader ?_) fun h => hheader ?_
      · exact h.2.1
      · have := h.length_ge
        rw [List.length_drop] at this
        omega

theorem length_formats (memory : Nat → UInt8) (count index : Nat) :
    (formats memory count index).length = count := by
  induction count generalizing index with
  | zero => rfl
  | succ count ih => exact congrArg (· + 1) (ih _)

/-- Nothing outside the string is read, there are no more rounds than the string announces, and only
formats that index the tables are added. -/
structure IsSafe (data : List UInt8) (behind : Nat → UInt8) : Prop where
  announced : (UnmarshallAccess.read 0 4).Safe data.length
  rounds : (unmarshall (layOut data behind)).2.length ≤ (unmarshall (layOut data behind)).1
  accesses : AllSafe data.length (unmarshall (layOut data behind)).2.flatten

theorem isSafe_iff {behind : Nat → UInt8} :
    IsSafe data behind ↔ (UnmarshallAccess.read 0 4).Safe data.length ∧
      AllSafe data.length (unmarshall (layOut data behind)).2.flatten :=
  ⟨fun h => ⟨h.announced, h.accesses⟩, fun h => ⟨h.1, (length_formats _ _ _).le, h.2⟩⟩

/-- **Untrusted data.** Unmarshalling is safe just when the string has the records it announces. -/
theorem isSafe_iff_announced (data : List UInt8) (behind : Nat → UInt8) :
    IsSafe data behind ↔ Announced data := by
  rw [isSafe_iff, unmarshall]
  dsimp only
  by_cases hcount : 0 + 4 ≤ data.length
  · obtain ⟨count, hlt, hread, hbytes⟩ := exists_readUInt32 behind hcount
    have hheader : (UnmarshallAccess.read 0 4).Safe data.length := hcount
    rw [hread, allSafe_formats_iff behind (by omega), and_iff_right hheader]
    rw [List.drop_zero] at hbytes
    constructor
    · exact fun h => ⟨count, data.drop 4, hlt, hbytes, h⟩
    · rintro ⟨announced, records, hannounced, hdata, hrecords⟩
      obtain ⟨rfl, hrest⟩ := writeUInt32_append_inj hlt hannounced (hbytes.symm.trans hdata)
      rw [Nat.zero_add] at hrest
      rwa [hrest]
  · refine iff_of_false (fun h => hcount h.1) ?_
    rintro ⟨count, records, -, rfl, -⟩
    simp [length_writeUInt32] at hcount

/-- One format whose number is negative as an `int`, without data. -/
theorem negative_format_not_safe :
    ¬ ∀ (data : List UInt8) (behind : Nat → UInt8), IsSafe data behind := by
  intro h
  have hadd : (UnmarshallAccess.add (-1)).Safe 12 :=
    (h [0, 0, 0, 1, 0xff, 0xff, 0xff, 0xff, 0, 0, 0, 0] fun _ => 0).accesses (.add (-1)) (by decide)
  exact absurd hadd (by decide)

end UnmarshallWalk

end DeskflowPlus
