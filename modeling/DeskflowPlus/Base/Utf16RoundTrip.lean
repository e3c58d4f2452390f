import DeskflowPlus.Base.MalformedUtf8
import DeskflowPlus.Transfer.QStringUtf8

/-!
# UTF-8 to UTF-16 and back

Each character is read off its own bytes and written as one word or a pair, from which its bytes are
written again. Only a first word U+FEFF does not come back, as it tells the order of the words.
-/

namespace DeskflowPlus

namespace Unicode

def encodeText (text : List Char) : List UInt8 := text.flatMap String.utf8EncodeChar

/-- `fromUTF8` takes U+FFFE and U+FFFF for malformed. -/
def Decodable (c : Char) : Prop := c.toNat ≠ 0xfffe ∧ c.toNat ≠ 0xffff

theorem shiftLeft_or {a b count : Nat} (h : b < 2 ^ count) : a <<< count ||| b = a * 2 ^ count + b := by
  rw [← Nat.shiftLeft_add_eq_or_of_lt h, Nat.shiftLeft_eq]

theorem utf8Byte_eq {c shift mask offset : Nat} (count : Nat) (hmask : mask = 2 ^ count - 1) :
    utf8Byte c shift mask offset = UInt8.ofNat (offset + c / 2 ^ shift % 2 ^ count) := by
  unfold utf8Byte
  rw [hmask, Nat.and_two_pow_sub_one_eq_mod, Nat.shiftRight_eq_div_pow, Nat.add_comm]

theorem utf8Byte_first {c shift mask offset : Nat} (count : Nat) (hmask : mask = 2 ^ count - 1)
    (hfits : c / 2 ^ shift < 2 ^ count) :
    utf8Byte c shift mask offset = UInt8.ofNat (offset + c / 2 ^ shift) := by
  rw [utf8Byte_eq count hmask, Nat.mod_eq_of_lt hfits]

theorem extract_eq {size : Nat} {first : UInt8} {following : List UInt8} (count : Nat)
    (hmask : leadMask size = 2 ^ count - 1) : extract size first following =
      following.foldl (fun c byte => c * 0x40 + byte.toNat % 0x40) (first.toNat % 2 ^ count) := by
  unfold extract
  rw [hmask, Nat.and_two_pow_sub_one_eq_mod]
  congr 1
  funext c byte
  have hmod : byte.toNat &&& 0x3f = byte.toNat % 0x40 := Nat.and_two_pow_sub_one_eq_mod byte.toNat 6
  rw [hmod]
  exact @shiftLeft_or c _ 6 (Nat.mod_lt _ (by decide))

variable {c : Char} {rest : List UInt8}

theorem toNat_lt : c.toNat < 0x110000 := by
  rcases c.valid with hlow | hhigh
  · exact Nat.lt_trans hlow (by decide)
  · exact hhigh.2

theorem not_surrogate : ¬ (0xd800 ≤ c.toNat ∧ c.toNat ≤ 0xdfff) := by
  have hvalid : c.toNat < 0xd800 ∨ 0xdfff < c.toNat ∧ c.toNat < 0x110000 := c.valid
  omega

theorem utf8Bytes_eq {value : Nat} (hvalue : value < 0x110000) :
    utf8Bytes value = Transfer.QString.scalarToUtf8 value := by
  have hlast : utf8Byte value 0 0x3f 0x80 = UInt8.ofNat (0x80 + value % 0x40) := by
    refine (utf8Byte_eq 6 rfl).trans ?_
    rw [Nat.pow_zero, Nat.div_one]
    rfl
  have hsecond : utf8Byte value 6 0x3f 0x80 = UInt8.ofNat (0x80 + value / 0x40 % 0x40) :=
    utf8Byte_eq 6 rfl
  have hthird : utf8Byte value 12 0x3f 0x80 = UInt8.ofNat (0x80 + value / 0x1000 % 0x40) :=
    utf8Byte_eq 6 rfl
  unfold utf8Bytes Transfer.QString.scalarToUtf8
  rw [hlast, hsecond, hthird]
  split_ifs with h1 h2 h3 h4
  · rfl
  · have hfirst : utf8Byte value 6 0x1f 0xc0 = UInt8.ofNat (0xc0 + value / 0x40) :=
      utf8Byte_first 5 rfl (by omega)
    rw [hfirst]
  · have hfirst : utf8Byte value 12 0x0f 0xe0 = UInt8.ofNat (0xe0 + value / 0x1000) :=
      utf8Byte_first 4 rfl (by omega)
    rw [hfirst]
  · have hfirst : utf8Byte value 18 0x07 0xf0 = UInt8.ofNat (0xf0 + value / 0x40000) :=
      utf8Byte_first 3 rfl (by omega)
    rw [hfirst]
  · omega
  · omega

theorem toUTF8_char : toUTF8 c.toNat = (String.utf8EncodeChar c, false) := by
  have hnot : ¬ (0xd800 ≤ c.toNat ∧ c.toNat ≤ 0xdfff ∨ 0x80000000 ≤ c.toNat) := by
    have hlt := @toNat_lt c
    have hsurrogate := @not_surrogate c
    omega
  unfold toUTF8
  rw [if_neg hnot, utf8Bytes_eq toNat_lt, Transfer.QString.utf8EncodeChar_eq]

theorem characters_sequence {first : UInt8} {following : List UInt8} {size : Nat}
    (hlength : encodingLength first = some size) (hcount : following.length = size - 1)
    (hall : ∀ byte ∈ following, isContinuation byte = true) :
    characters (first :: following ++ rest) =
      checkCharacter size (extract size first following) :: characters rest := by
  obtain ⟨hpositive, -⟩ := encodingLength_pos hlength
  have hnext : nextCharacter first following =
      (checkCharacter size (extract size first following), []) := by
    have hcontinuations : continuations size following = size - 1 := by
      unfold continuations
      rw [List.take_of_length_le (by omega), List.takeWhile_eq_self_iff.mpr hall, hcount]
    unfold nextCharacter
    rw [hlength]
    dsimp only
    rw [if_neg (by omega), hcontinuations, if_neg (Nat.lt_irrefl _),
      List.take_of_length_le (by omega), List.drop_of_length_le (by omega)]
  have hlacking : lacking first following = 0 := by
    unfold lacking
    rw [hlength, Option.getD_some]
    omega
  rw [List.cons_append, characters_cons, nextCharacter_append hlacking, hnext]
  rfl

theorem encodingLength_ofNat {n : Nat} (h : n < 0x100) : encodingLength (UInt8.ofNat n) =
    if n < 0x80 then some 1 else if n < 0xc0 then none else if n < 0xe0 then some 2
    else if n < 0xf0 then some 3 else if n < 0xf8 then some 4 else if n < 0xfc then some 5
    else if n < 0xfe then some 6 else none := by
  have hvalue : (UInt8.ofNat n).toNat = n := by
    rw [UInt8.toNat_ofNat']
    omega
  unfold encodingLength
  simp only [UInt8.lt_iff_toNat_lt, hvalue]
  rfl

theorem isContinuation_ofNat : ∀ n < 0x40, isContinuation (UInt8.ofNat (0x80 + n)) = true := by
  decide

theorem isContinuation_mod {n : Nat} : isContinuation (UInt8.ofNat (0x80 + n % 0x40)) = true :=
  isContinuation_ofNat _ (Nat.mod_lt _ (by decide))

theorem checkCharacter_char {size : Nat} (hc : Decodable c) (hmin : s_minChar size ≤ c.toNat) :
    checkCharacter size c.toNat = c.toNat := by
  have hsurrogate := @not_surrogate c
  obtain ⟨hfffe, hffff⟩ := hc
  unfold checkCharacter
  rw [if_neg (by omega), if_neg hsurrogate, if_neg (by omega)]

theorem characters_encoded (hc : Decodable c) :
    characters (String.utf8EncodeChar c ++ rest) = c.toNat :: characters rest := by
  have hlt := @toNat_lt c
  rw [Transfer.QString.utf8EncodeChar_eq]
  unfold Transfer.QString.scalarToUtf8
  split_ifs with h1 h2 h3
  · have hlength : encodingLength (UInt8.ofNat c.toNat) = some 1 := by
      rw [encodingLength_ofNat (by omega), if_pos h1]
    have hvalue : extract 1 (UInt8.ofNat c.toNat) [] = c.toNat := by
      rw [extract_eq 8 rfl]
      simp only [List.foldl, UInt8.toNat_ofNat']
      omega
    rw [characters_sequence hlength rfl (List.forall_mem_nil _), hvalue,
      checkCharacter_char hc (Nat.zero_le _)]
  · have hlength : encodingLength (UInt8.ofNat (0xc0 + c.toNat / 0x40)) = some 2 := by
      rw [encodingLength_ofNat (by omega), if_neg (by omega), if_neg (by omega), if_pos (by omega)]
    have hvalue : extract 2 (UInt8.ofNat (0xc0 + c.toNat / 0x40))
        [UInt8.ofNat (0x80 + c.toNat % 0x40)] = c.toNat := by
      rw [extract_eq 5 rfl]
      simp only [List.foldl, UInt8.toNat_ofNat']
      omega
    have hall : ∀ byte ∈ [UInt8.ofNat (0x80 + c.toNat % 0x40)], isContinuation byte = true :=
      List.forall_mem_singleton.mpr isContinuation_mod
    rw [characters_sequence hlength rfl hall, hvalue, @checkCharacter_char c 2 hc (Nat.not_lt.mp h1)]
  · have hlength : encodingLength (UInt8.ofNat (0xe0 + c.toNat / 0x1000)) = some 3 := by
      rw [encodingLength_ofNat (by omega), if_neg (by omega), if_neg (by omega), if_neg (by omega),
        if_pos (by omega)]
    have hvalue : extract 3 (UInt8.ofNat (0xe0 + c.toNat / 0x1000))
        [UInt8.ofNat (0x80 + c.toNat / 0x40 % 0x40), UInt8.ofNat (0x80 + c.toNat % 0x40)] = c.toNat := by
      rw [extract_eq 4 rfl]
      simp only [List.foldl, UInt8.toNat_ofNat']
      omega
    have hall : ∀ byte ∈ [UInt8.ofNat (0x80 + c.toNat / 0x40 % 0x40),
        UInt8.ofNat (0x80 + c.toNat % 0x40)], isContinuation byte = true :=
      List.forall_mem_cons.mpr ⟨isContinuation_mod, List.forall_mem_singleton.mpr isContinuation_mod⟩
    rw [characters_sequence hlength rfl hall, hvalue, @checkCharacter_char c 3 hc (Nat.not_lt.mp h2)]
  · have hlength : encodingLength (UInt8.ofNat (0xf0 + c.toNat / 0x40000)) = some 4 := by
      rw [encodingLength_ofNat (by omega), if_neg (by omega), if_neg (by omega), if_neg (by omega),
        if_neg (by omega), if_pos (by omega)]
    have hvalue : extract 4 (UInt8.ofNat (0xf0 + c.toNat / 0x40000))
        [UInt8.ofNat (0x80 + c.toNat / 0x1000 % 0x40), UInt8.ofNat (0x80 + c.toNat / 0x40 % 0x40),
          UInt8.ofNat (0x80 + c.toNat % 0x40)] = c.toNat := by
      rw [extract_eq 3 rfl]
      simp only [List.foldl, UInt8.toNat_ofNat']
      omega
    have hall : ∀ byte ∈ [UInt8.ofNat (0x80 + c.toNat / 0x1000 % 0x40),
        UInt8.ofNat (0x80 + c.toNat / 0x40 % 0x40), UInt8.ofNat (0x80 + c.toNat % 0x40)],
        isContinuation byte = true :=
      List.forall_mem_cons.mpr ⟨isContinuation_mod, List.forall_mem_cons.mpr
        ⟨isContinuation_mod, List.forall_mem_singleton.mpr isContinuation_mod⟩⟩
    rw [characters_sequence hlength rfl hall, hvalue, @checkCharacter_char c 4 hc (Nat.not_lt.mp h3)]

variable {text : List Char}

theorem characters_encodeText (htext : ∀ c ∈ text, Decodable c) :
    characters (encodeText text) = text.map Char.toNat := by
  induction text with
  | nil => exact characters.eq_1
  | cons c text ih =>
    obtain ⟨hc, htext⟩ := List.forall_mem_cons.mp htext
    unfold encodeText at ih ⊢
    rw [List.flatMap_cons, characters_encoded hc, ih htext, List.map_cons]

theorem utf16Words_eq (hc : Decodable c) : utf16Words c.toNat =
    (if c.toNat < 0x10000 then [c.toNat]
      else [(c.toNat - 0x10000) / 0x400 + 0xd800, (c.toNat - 0x10000) % 0x400 + 0xdc00], false) := by
  have hlt := @toNat_lt c
  have hmod : (c.toNat - 0x10000) &&& 0x3ff = (c.toNat - 0x10000) % 0x400 :=
    Nat.and_two_pow_sub_one_eq_mod _ 10
  have hdiv : (c.toNat - 0x10000) >>> 10 = (c.toNat - 0x10000) / 0x400 :=
    Nat.shiftRight_eq_div_pow _ 10
  have hvalid : c.toNat ≠ s_invalid := hc.2
  unfold utf16Words
  rw [if_neg hvalid, if_neg (by omega), hmod, hdiv]
  split_ifs <;> rfl

def textWords (text : List Char) : List Nat := text.flatMap fun c => (utf16Words c.toNat).1

theorem textWords_lt (htext : ∀ c ∈ text, Decodable c) {word : Nat} (hword : word ∈ textWords text) :
    word < 0x10000 := by
  obtain ⟨c, hc, hword⟩ := List.mem_flatMap.mp hword
  have hlt := @toNat_lt c
  rw [utf16Words_eq (htext c hc)] at hword
  dsimp only at hword
  split_ifs at hword with hsmall
  · rw [List.mem_singleton] at hword
    omega
  · rw [List.mem_cons, List.mem_singleton] at hword
    omega

variable {list : List Nat}

theorem words_wordBytes (hlist : ∀ word ∈ list, word < 0x10000) :
    words false (list.flatMap wordBytes) = list := by
  induction list with
  | nil => rfl
  | cons word list ih =>
    obtain ⟨hword, hlist⟩ := List.forall_mem_cons.mp hlist
    have hvalue : (UInt8.ofNat word).toNat + 0x100 * (UInt8.ofNat (word / 0x100)).toNat = word := by
      rw [UInt8.toNat_ofNat', UInt8.toNat_ofNat']
      omega
    show _ :: words false (list.flatMap wordBytes) = _
    rw [ih hlist]
    exact congrArg (· :: list) hvalue

theorem joinResults_false {x : List UInt8} {y : List UInt8 × Bool} :
    joinResults (x, false) y = (x ++ y.1, y.2) := rfl

theorem convertWords_cons {word : Nat} (hword : word < 0xd800 ∨ 0xdfff < word) :
    convertWords (word :: list) = joinResults (toUTF8 word) (convertWords list) := by
  rcases list with _ | ⟨next, list⟩
  · rw [convertWords.eq_2, if_pos hword, convertWords.eq_1, joinResults, List.append_nil, Bool.or_false]
  · rw [convertWords, if_pos hword]

theorem convertWords_pair {high low : Nat} (hhigh : high < 0x400) (hlow : low < 0x400) :
    convertWords ((high + 0xd800) :: (low + 0xdc00) :: list) =
      joinResults (toUTF8 (high * 0x400 + low + 0x10000)) (convertWords list) := by
  have hpair : (high + 0xd800 - 0xd800) <<< 10 ||| (low + 0xdc00 - 0xdc00) = high * 0x400 + low := by
    rw [Nat.add_sub_cancel, Nat.add_sub_cancel]
    exact shiftLeft_or hlow
  rw [convertWords, if_neg (by omega), if_pos (by omega), if_neg (by omega), hpair]

theorem convertWords_textWords (htext : ∀ c ∈ text, Decodable c) :
    convertWords (textWords text) = (encodeText text, false) := by
  induction text with
  | nil => rfl
  | cons c text ih =>
    obtain ⟨hc, htext⟩ := List.forall_mem_cons.mp htext
    have hfirst : convertWords (textWords (c :: text)) =
        joinResults (toUTF8 c.toNat) (convertWords (textWords text)) := by
      unfold textWords
      rw [List.flatMap_cons, utf16Words_eq hc]
      have hlt := @toNat_lt c
      have hsurrogate := @not_surrogate c
      dsimp only
      split_ifs with hsmall
      · exact convertWords_cons (by omega)
      · have hvalue : (c.toNat - 0x10000) / 0x400 * 0x400 + (c.toNat - 0x10000) % 0x400 + 0x10000 =
            c.toNat := by omega
        rw [List.cons_append, List.cons_append, List.nil_append,
          convertWords_pair (by omega) (by omega), hvalue]
    rw [hfirst, toUTF8_char, ih htext, joinResults_false]
    rfl

def wideText (text : List Char) : List UInt8 := (textWords text).flatMap wordBytes

def withoutMark : List Char → List Char
  | c :: text => if c.toNat = 0xfeff then text else c :: text
  | [] => []

theorem length_wordBytes : (list.flatMap wordBytes).length = 2 * list.length := by
  induction list with
  | nil => rfl
  | cons word list ih =>
    rw [List.flatMap_cons, List.length_append, ih, List.length_cons]
    show 2 + _ = _
    omega

theorem length_utf16Words (hc : Decodable c) :
    (utf16Words c.toNat).1.length ≤ (String.utf8EncodeChar c).length := by
  rw [utf16Words_eq hc, Transfer.QString.utf8EncodeChar_eq]
  unfold Transfer.QString.scalarToUtf8
  split_ifs <;> simp only [List.length_cons, List.length_nil] <;> omega

theorem length_textWords (htext : ∀ c ∈ text, Decodable c) :
    (textWords text).length ≤ (encodeText text).length := by
  induction text with
  | nil => exact Nat.le_refl _
  | cons c text ih =>
    obtain ⟨hc, htext⟩ := List.forall_mem_cons.mp htext
    have hfirst := length_utf16Words hc
    have hrest := ih htext
    unfold textWords encodeText at hrest ⊢
    rw [List.flatMap_cons, List.flatMap_cons, List.length_append, List.length_append]
    omega

theorem UTF8ToUTF16_encodeText (htext : ∀ c ∈ text, Decodable c)
    (hlength : (encodeText text).length < 2 ^ 32) :
    UTF8ToUTF16 (encodeText text) = some (wideText text, false) := by
  have hall : (encodeText text).take ((encodeText text).length % 2 ^ 32) = encodeText text := by
    rw [Nat.mod_eq_of_lt hlength, List.take_length]
  have herrors : (text.map Char.toNat).any (fun c => (utf16Words c).2) = false := by
    rw [List.any_map, List.any_eq_false]
    intro c hc
    dsimp only [Function.comp]
    rw [utf16Words_eq (htext c hc)]
    exact Bool.false_ne_true
  unfold UTF8ToUTF16
  rw [hall, decode_eq, characters_encodeText htext, Option.map_some, herrors, List.flatMap_map,
    wideText, textWords, List.flatMap_assoc]

theorem textWords_cons (hc : Decodable c) (hsmall : c.toNat < 0x10000) :
    textWords (c :: text) = c.toNat :: textWords text := by
  unfold textWords
  rw [List.flatMap_cons, utf16Words_eq hc]
  dsimp only
  rw [if_pos hsmall]
  rfl

theorem head?_textWords (hc : Decodable c) : (textWords (c :: text)).head? = some c.toNat ∨
    ∃ word, (textWords (c :: text)).head? = some word ∧ word ≠ 0xfeff ∧ word ≠ 0xfffe := by
  by_cases hsmall : c.toNat < 0x10000
  · rw [textWords_cons hc hsmall]
    exact .inl rfl
  · have hlt := @toNat_lt c
    right
    unfold textWords
    rw [List.flatMap_cons, utf16Words_eq hc]
    dsimp only
    rw [if_neg hsmall]
    exact ⟨_, rfl, by omega, by omega⟩

theorem UTF16ToUTF8_wideText (htext : ∀ c ∈ text, Decodable c)
    (hlength : (wideText text).length < 2 ^ 32) :
    UTF16ToUTF8 (wideText text) = (encodeText (withoutMark text), false) := by
  have hall : (wideText text).take ((wideText text).length % 2 ^ 32) = wideText text := by
    rw [Nat.mod_eq_of_lt hlength, List.take_length]
  have hwords : words false (wideText text) = textWords text :=
    words_wordBytes fun _ => textWords_lt htext
  have hconvert := convertWords_textWords htext
  unfold UTF16ToUTF8
  dsimp only
  rw [hall, hwords]
  rcases text with _ | ⟨c, text⟩
  · exact hconvert
  obtain ⟨hc, htail⟩ := List.forall_mem_cons.mp htext
  by_cases hmark : c.toNat = 0xfeff
  · have hfirst : textWords (c :: text) = 0xfeff :: textWords text := by
      rw [textWords_cons hc (by omega), hmark]
    have hdrop : (wideText (c :: text)).drop 2 = wideText text := by
      rw [wideText, hfirst]
      rfl
    have hrest : words false (wideText text) = textWords text :=
      words_wordBytes fun _ => textWords_lt htail
    rw [hfirst, hdrop, withoutMark, if_pos hmark]
    show convertWords (words false (wideText text)) = _
    rw [hrest, convertWords_textWords htail]
  · have hhead : (textWords (c :: text)).head? ≠ some 0xfeff ∧
        (textWords (c :: text)).head? ≠ some 0xfffe := by
      rcases @head?_textWords c text hc with hhead | ⟨word, hhead, hne⟩
      · rw [hhead]
        exact ⟨fun h => hmark (Option.some.inj h), fun h => hc.1 (Option.some.inj h)⟩
      · rw [hhead]
        exact ⟨fun h => hne.1 (Option.some.inj h), fun h => hne.2 (Option.some.inj h)⟩
    rw [withoutMark, if_neg hmark]
    split
    · exact absurd ‹_› hhead.1
    · exact absurd ‹_› hhead.2
    · exact hconvert

/-- **There and back.** A text comes back as it is, but for a byte-order mark at its start, and without
an error either way. -/
theorem utf16RoundTrip (text : List Char) (htext : ∀ c ∈ text, Decodable c)
    (hlength : (encodeText text).length < 2 ^ 31) : ∃ wide,
      UTF8ToUTF16 (encodeText text) = some (wide, false) ∧
        UTF16ToUTF8 wide = (encodeText (withoutMark text), false) := by
  have hwide : (wideText text).length < 2 ^ 32 := by
    have hwords := length_textWords htext
    rw [wideText, length_wordBytes]
    omega
  exact ⟨wideText text, UTF8ToUTF16_encodeText htext (by omega), UTF16ToUTF8_wideText htext hwide⟩

theorem utf16RoundTrip_marked : ∃ wide, UTF8ToUTF16 (encodeText ['\uFEFF', 'a']) = some (wide, false) ∧
    UTF16ToUTF8 wide = (encodeText (withoutMark ['\uFEFF', 'a']), false) := by
  refine utf16RoundTrip _ (fun c hc => ?_) (by decide)
  rw [List.mem_cons, List.mem_singleton] at hc
  rcases hc with rfl | rfl <;> unfold Decodable <;> decide

/-- The mark does not come back. -/
theorem mark_lost : ¬ ∀ text, (∀ c ∈ text, Decodable c) → (encodeText text).length < 2 ^ 31 →
    ∃ wide, UTF8ToUTF16 (encodeText text) = some (wide, false) ∧
      UTF16ToUTF8 wide = (encodeText text, false) := by
  intro h
  have hmark : ∀ c ∈ ['\uFEFF'], Decodable c :=
    List.forall_mem_singleton.mpr ⟨by decide, by decide⟩
  obtain ⟨wide, hwide, hback⟩ := h ['\uFEFF'] hmark (by decide)
  have hbytes : some (wide, false) = some ([0xff, 0xfe], false) := hwide.symm.trans (by decide)
  obtain rfl := (Prod.mk.inj (Option.some.inj hbytes)).1
  exact absurd hback (by decide)

end Unicode

end DeskflowPlus
