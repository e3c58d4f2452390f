import DeskflowPlus.Transfer.QtTypes

/-!
# Strings and their UTF-8 form

A string without a lone surrogate spells a list of characters, and its UTF-8 form is that of the
characters one after the other. So what is written as text is read back as the same string, and
whatever is read is such a string.
-/

namespace DeskflowPlus.Transfer.QString

/-- Every surrogate belongs to a pair. -/
def isWellFormed : QString → Bool
  | [] => true
  | [unit] => !isHighSurrogate unit && !isLowSurrogate unit
  | unit :: next :: rest =>
    if isHighSurrogate unit then isLowSurrogate next && isWellFormed rest
    else !isLowSurrogate unit && isWellFormed (next :: rest)

/-- The string that spells these characters. -/
def ofChars (chars : List Char) : QString := chars.flatMap ofChar

def scalarToUtf8 (value : Nat) : QByteArray :=
  if value < 0x80 then [UInt8.ofNat value]
  else if value < 0x800 then [UInt8.ofNat (0xc0 + value / 0x40), UInt8.ofNat (0x80 + value % 0x40)]
  else if value < 0x10000 then [UInt8.ofNat (0xe0 + value / 0x1000),
    UInt8.ofNat (0x80 + value / 0x40 % 0x40), UInt8.ofNat (0x80 + value % 0x40)]
  else [UInt8.ofNat (0xf0 + value / 0x40000), UInt8.ofNat (0x80 + value / 0x1000 % 0x40),
    UInt8.ofNat (0x80 + value / 0x40 % 0x40), UInt8.ofNat (0x80 + value % 0x40)]

theorem utf8EncodeChar_eq (c : Char) : String.utf8EncodeChar c = scalarToUtf8 c.toNat := by
  have hbound : c.val.toNat < 0x110000 := by
    rcases c.valid with h | h
    · exact Nat.lt_trans h (by decide)
    · exact h.2
  unfold String.utf8EncodeChar scalarToUtf8 Char.toNat
  dsimp only
  generalize c.val.toNat = value at hbound ⊢
  by_cases h1 : value < 0x80
  · rw [if_pos (Nat.le_of_lt_succ h1), if_pos h1]
  by_cases h2 : value < 0x800
  · rw [if_neg (by omega), if_pos (Nat.le_of_lt_succ h2), if_neg h1, if_pos h2,
      Nat.mod_eq_of_lt (by omega : value / 64 < 32), Nat.add_comm 0xc0, Nat.add_comm 0x80]
  by_cases h3 : value < 0x10000
  · rw [if_neg (by omega), if_neg (by omega), if_pos (Nat.le_of_lt_succ h3), if_neg h1, if_neg h2,
      if_pos h3, Nat.mod_eq_of_lt (by omega : value / 4096 < 16), Nat.add_comm 0xe0,
      Nat.add_comm 0x80, Nat.add_comm 0x80]
  · rw [if_neg (by omega), if_neg (by omega), if_neg (by omega), if_neg h1, if_neg h2, if_neg h3,
      Nat.mod_eq_of_lt (by omega : value / 262144 < 8), Nat.add_comm 0xf0, Nat.add_comm 0x80,
      Nat.add_comm 0x80, Nat.add_comm 0x80]

theorem toNat_unit {value : Nat} (h : value < 0x10000) : (UInt16.ofNat value).toNat = value := by
  rw [UInt16.toNat_ofNat']
  omega

variable {unit : UInt16}

theorem isHighSurrogate_iff :
    isHighSurrogate unit = true ↔ 0xd800 ≤ unit.toNat ∧ unit.toNat < 0xdc00 := by
  unfold isHighSurrogate
  rw [decide_eq_true_iff, UInt16.le_iff_toNat_le, UInt16.lt_iff_toNat_lt]
  rfl

theorem isLowSurrogate_iff :
    isLowSurrogate unit = true ↔ 0xdc00 ≤ unit.toNat ∧ unit.toNat < 0xe000 := by
  unfold isLowSurrogate
  rw [decide_eq_true_iff, UInt16.le_iff_toNat_le, UInt16.lt_iff_toNat_lt]
  rfl

theorem unitToUtf8_eq (hhigh : isHighSurrogate unit = false) (hlow : isLowSurrogate unit = false) :
    unitToUtf8 unit = scalarToUtf8 unit.toNat := by
  unfold unitToUtf8 scalarToUtf8
  dsimp only
  rw [hhigh, hlow, if_pos (UInt16.toNat_lt unit)]
  rfl

theorem toUtf8_cons_of_not_high {rest : QString} (hhigh : isHighSurrogate unit = false) :
    toUtf8 (unit :: rest) = unitToUtf8 unit ++ toUtf8 rest := by
  cases rest with
  | nil => exact (List.append_nil _).symm
  | cons next rest =>
    show (if isHighSurrogate unit && isLowSurrogate next then _ else _) = _
    rw [hhigh]
    rfl

def pairValue (high low : UInt16) : Nat :=
  0x10000 + (high.toNat - 0xd800) * 0x400 + (low.toNat - 0xdc00)

theorem toUtf8_pair {high low : UInt16} {rest : QString} (hhigh : isHighSurrogate high = true)
    (hlow : isLowSurrogate low = true) :
    toUtf8 (high :: low :: rest) = scalarToUtf8 (pairValue high low) ++ toUtf8 rest := by
  have hvalue : 0x10000 ≤ pairValue high low := by
    unfold pairValue
    omega
  have hpair : toUtf8 (high :: low :: rest) =
      [UInt8.ofNat (0xf0 + pairValue high low / 0x40000),
        UInt8.ofNat (0x80 + pairValue high low / 0x1000 % 0x40),
        UInt8.ofNat (0x80 + pairValue high low / 0x40 % 0x40),
        UInt8.ofNat (0x80 + pairValue high low % 0x40)] ++ toUtf8 rest := by
    rw [toUtf8, hhigh, hlow]
    exact if_pos rfl
  unfold scalarToUtf8
  rw [hpair, if_neg (by omega), if_neg (by omega), if_neg (by omega)]

theorem ofChar_of_ge {c : Char} (h : 0x10000 ≤ c.toNat) : ∃ high low,
    ofChar c = [high, low] ∧ isHighSurrogate high = true ∧ isLowSurrogate low = true ∧
      pairValue high low = c.toNat := by
  have hbound : c.toNat < 0x110000 := by
    rcases c.valid with hlow | hhigh
    · exact Nat.lt_trans hlow (by decide)
    · exact hhigh.2
  unfold ofChar
  rw [if_neg (Nat.not_lt.mpr h)]
  generalize c.toNat = value at h hbound ⊢
  refine ⟨_, _, rfl, ?_, ?_, ?_⟩
  · rw [isHighSurrogate_iff, toNat_unit (by omega)]
    omega
  · rw [isLowSurrogate_iff, toNat_unit (by omega)]
    omega
  · unfold pairValue
    rw [toNat_unit (by omega), toNat_unit (by omega)]
    omega

theorem ofChar_of_lt {c : Char} (h : c.toNat < 0x10000) : ∃ unit,
    ofChar c = [unit] ∧ isHighSurrogate unit = false ∧ isLowSurrogate unit = false ∧
      unit.toNat = c.toNat := by
  have hscalar : c.toNat < 0xd800 ∨ 0xdfff < c.toNat ∧ c.toNat < 0x110000 := c.valid
  refine ⟨UInt16.ofNat c.toNat, if_pos h, ?_, ?_, toNat_unit h⟩
  · rw [← Bool.not_eq_true, isHighSurrogate_iff, toNat_unit h]
    omega
  · rw [← Bool.not_eq_true, isLowSurrogate_iff, toNat_unit h]
    omega

theorem toUtf8_ofChar (c : Char) (rest : QString) :
    toUtf8 (ofChar c ++ rest) = String.utf8EncodeChar c ++ toUtf8 rest := by
  rw [utf8EncodeChar_eq]
  by_cases h : c.toNat < 0x10000
  · obtain ⟨unit, hunit, hhigh, hlow, hvalue⟩ := ofChar_of_lt h
    rw [hunit, List.singleton_append, toUtf8_cons_of_not_high hhigh, unitToUtf8_eq hhigh hlow,
      hvalue]
  · obtain ⟨high, low, hpair, hhigh, hlow, hvalue⟩ := ofChar_of_ge (Nat.not_lt.mp h)
    rw [hpair, List.cons_append, List.singleton_append, toUtf8_pair hhigh hlow, hvalue]

theorem toUtf8_ofChars (chars : List Char) :
    toUtf8 (ofChars chars) = chars.flatMap String.utf8EncodeChar := by
  induction chars with
  | nil => rfl
  | cons c chars ih =>
    unfold ofChars at ih ⊢
    rw [List.flatMap_cons, List.flatMap_cons, toUtf8_ofChar, ih]

theorem toByteArray_ofChars (chars : List Char) :
    (⟨(toUtf8 (ofChars chars)).toArray⟩ : ByteArray) = chars.utf8Encode := by
  rw [toUtf8_ofChars, List.utf8Encode]
  exact ByteArray.ext List.data_toByteArray.symm

theorem isValidUtf8_ofChars (chars : List Char) :
    Cbor.isValidUtf8 (toUtf8 (ofChars chars)) = true := by
  unfold Cbor.isValidUtf8
  rw [toByteArray_ofChars, ByteArray.validateUTF8_eq_true_iff]
  exact ByteArray.isValidUTF8_utf8Encode

theorem fromUtf8_ofChars (chars : List Char) :
    fromUtf8 (toUtf8 (ofChars chars)) = ofChars chars := by
  have htext : String.fromUTF8? ⟨(toUtf8 (ofChars chars)).toArray⟩ =
      some (String.ofList chars) := by
    rw [toByteArray_ofChars]
    exact dif_pos ByteArray.isValidUTF8_utf8Encode
  unfold fromUtf8
  rw [htext]
  unfold literal
  dsimp only
  rw [String.toList_ofList]
  rfl

/-- What is read off UTF-8 spells characters. -/
theorem fromUtf8_eq_ofChars (utf8 : QByteArray) : ∃ chars, fromUtf8 utf8 = ofChars chars := by
  unfold fromUtf8
  split
  · rename_i text _
    exact ⟨text.toList, rfl⟩
  · exact ⟨[], rfl⟩

theorem exists_char_of_unit (hhigh : isHighSurrogate unit = false)
    (hlow : isLowSurrogate unit = false) : ∃ c, ofChar c = [unit] := by
  rw [← Bool.not_eq_true, isHighSurrogate_iff] at hhigh
  rw [← Bool.not_eq_true, isLowSurrogate_iff] at hlow
  have hunit := UInt16.toNat_lt unit
  have hvalid : unit.toNat.isValidChar := by
    unfold Nat.isValidChar
    omega
  refine ⟨Char.ofNatAux unit.toNat hvalid, ?_⟩
  have hvalue : (Char.ofNatAux unit.toNat hvalid).toNat = unit.toNat := rfl
  unfold ofChar
  rw [hvalue, if_pos hunit, UInt16.ofNat_toNat]

theorem exists_char_of_pair {high low : UInt16} (hhigh : isHighSurrogate high = true)
    (hlow : isLowSurrogate low = true) : ∃ c, ofChar c = [high, low] := by
  rw [isHighSurrogate_iff] at hhigh
  rw [isLowSurrogate_iff] at hlow
  have hvalid : (pairValue high low).isValidChar := by
    unfold Nat.isValidChar pairValue
    omega
  refine ⟨Char.ofNatAux _ hvalid, ?_⟩
  have hvalue : (Char.ofNatAux _ hvalid).toNat = pairValue high low := rfl
  have hfirst : (pairValue high low - 0x10000) / 0x400 = high.toNat - 0xd800 := by
    unfold pairValue
    omega
  have hsecond : (pairValue high low - 0x10000) % 0x400 = low.toNat - 0xdc00 := by
    unfold pairValue
    omega
  have hlarge : ¬ pairValue high low < 0x10000 := by
    unfold pairValue
    omega
  unfold ofChar
  rw [hvalue, if_neg hlarge]
  dsimp only
  rw [hfirst, hsecond, Nat.add_sub_cancel' hhigh.1, Nat.add_sub_cancel' hlow.1, UInt16.ofNat_toNat,
    UInt16.ofNat_toNat]

theorem exists_chars_of_isWellFormed {text : QString} (h : isWellFormed text = true) :
    ∃ chars, text = ofChars chars := by
  induction text using isWellFormed.induct with
  | case1 => exact ⟨[], rfl⟩
  | case2 unit =>
    simp only [isWellFormed, Bool.and_eq_true, Bool.not_eq_true'] at h
    obtain ⟨c, hc⟩ := exists_char_of_unit h.1 h.2
    exact ⟨[c], by rw [ofChars, List.flatMap_singleton, hc]⟩
  | case3 unit next rest hhigh ih =>
    rw [isWellFormed, if_pos hhigh, Bool.and_eq_true] at h
    obtain ⟨chars, rfl⟩ := ih h.2
    obtain ⟨c, hc⟩ := exists_char_of_pair hhigh h.1
    refine ⟨c :: chars, ?_⟩
    show _ = (c :: chars).flatMap ofChar
    rw [List.flatMap_cons, hc]
    rfl
  | case4 unit next rest hhigh ih =>
    rw [isWellFormed, if_neg hhigh, Bool.and_eq_true, Bool.not_eq_true'] at h
    obtain ⟨chars, hchars⟩ := ih h.2
    obtain ⟨c, hc⟩ := exists_char_of_unit (Bool.not_eq_true _ |>.mp hhigh) h.1
    refine ⟨c :: chars, ?_⟩
    show _ = (c :: chars).flatMap ofChar
    rw [List.flatMap_cons, hc, hchars]
    rfl

theorem isWellFormed_ofChars (chars : List Char) : isWellFormed (ofChars chars) = true := by
  induction chars with
  | nil => rfl
  | cons c chars ih =>
    rw [ofChars, List.flatMap_cons]
    change isWellFormed (ofChar c ++ ofChars chars) = true
    by_cases h : c.toNat < 0x10000
    · obtain ⟨unit, hunit, hhigh, hlow, -⟩ := ofChar_of_lt h
      rw [hunit, List.singleton_append]
      cases hrest : ofChars chars with
      | nil => rw [isWellFormed, hhigh, hlow]; rfl
      | cons next rest =>
        rw [hrest] at ih
        rw [isWellFormed, hhigh, hlow, ih]
        rfl
    · obtain ⟨high, low, hpair, hhigh, hlow, -⟩ := ofChar_of_ge (Nat.not_lt.mp h)
      rw [hpair, List.cons_append, List.singleton_append, isWellFormed, hhigh, hlow, ih]
      rfl

/-- **Text is read back.** -/
theorem fromUtf8_toUtf8 {text : QString} (h : isWellFormed text = true) :
    fromUtf8 text.toUtf8 = text := by
  obtain ⟨chars, rfl⟩ := exists_chars_of_isWellFormed h
  exact fromUtf8_ofChars chars

theorem isValidUtf8_toUtf8 {text : QString} (h : isWellFormed text = true) :
    Cbor.isValidUtf8 text.toUtf8 = true := by
  obtain ⟨chars, rfl⟩ := exists_chars_of_isWellFormed h
  exact isValidUtf8_ofChars chars

theorem isWellFormed_fromUtf8 (utf8 : QByteArray) : isWellFormed (fromUtf8 utf8) = true := by
  obtain ⟨chars, hchars⟩ := fromUtf8_eq_ofChars utf8
  rw [hchars]
  exact isWellFormed_ofChars chars

/-- Texts with one UTF-8 form are the same text. -/
theorem toUtf8_inj {first second : QString} (hfirst : isWellFormed first = true)
    (hsecond : isWellFormed second = true) (h : first.toUtf8 = second.toUtf8) : first = second := by
  rw [← fromUtf8_toUtf8 hfirst, h, fromUtf8_toUtf8 hsecond]

end DeskflowPlus.Transfer.QString
