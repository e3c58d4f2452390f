import DeskflowPlus.Client.KeyNames
import DeskflowPlus.Client.ModifierKeys
import Mathlib.Data.List.Nodup

/-!
# Names that are parsed back

Names are words without separators, and no two of them are the same, but for that of the AltGr key,
which is also the name of its modifier. An escape is parsed back where its number has four digits.
-/

namespace DeskflowPlus

namespace KeyMap

section Tables

variable {α : Type} {table : List (String × α)} {name : List Char}

def distinct : List Nat → Bool
  | [] => true
  | code :: codes => !codes.contains code && distinct codes

theorem nodup_of_distinct {codes : List Nat} (h : distinct codes = true) : codes.Nodup := by
  induction codes with
  | nil => exact List.nodup_nil
  | cons code codes ih =>
    rw [distinct, Bool.and_eq_true, Bool.not_eq_true', List.contains_eq_mem, decide_eq_false_iff_not]
      at h
    exact List.nodup_cons.mpr ⟨h.1, ih h.2⟩

/-- Distinct numbers for distinct names. -/
def nameCode (name : List Char) : Nat := name.foldl (fun code c => 128 * code + c.toNat) 1

def codes (table : List (String × α)) : List Nat :=
  table.map fun entry => nameCode (caseless entry.1.toList)

def DistinctNames (table : List (String × α)) : Prop := (codes table).Nodup

theorem mem_codes {entry : String × α} (h : entry ∈ table)
    (hname : caseless entry.1.toList = caseless name) : nameCode (caseless name) ∈ codes table :=
  hname ▸ List.mem_map_of_mem h

theorem findName_eq_none (h : ∀ entry ∈ table, caseless entry.1.toList ≠ caseless name) :
    findName table name = none := by
  unfold findName
  rw [Option.map_eq_none_iff, List.find?_eq_none]
  intro entry hentry
  rw [decide_eq_true_eq]
  exact h entry (List.mem_reverse.mp hentry)

theorem findName_of_mem (hdistinct : DistinctNames table) {entry : String × α} (h : entry ∈ table) :
    findName table entry.1.toList = some entry.2 := by
  have hsame {other : String × α} (hother : other ∈ table)
      (hname : caseless other.1.toList = caseless entry.1.toList) : other = entry :=
    List.inj_on_of_nodup_map hdistinct hother h (congrArg nameCode hname)
  unfold findName
  rcases hfound : table.reverse.find? fun other => caseless other.1.toList = caseless entry.1.toList with
    _ | other
  · have hnone := List.find?_eq_none.mp hfound entry (List.mem_reverse.mpr h)
    exact absurd (decide_eq_true rfl) hnone
  · have hname := List.find?_some hfound
    rw [decide_eq_true_eq] at hname
    rw [hfound, Option.map_some, hsame (List.mem_reverse.mp (List.mem_of_find?_eq_some hfound)) hname]

theorem mem_of_nameOf {table : List (String × UInt32)} {value : UInt32}
    (h : nameOf table value = some name) : ∃ entry ∈ table, entry.2 = value ∧ entry.1.toList = name := by
  obtain ⟨entry, hfound, rfl⟩ := Option.map_eq_some_iff.mp h
  have hvalue := List.find?_some hfound
  rw [decide_eq_true_eq] at hvalue
  exact ⟨entry, List.mem_reverse.mp (List.mem_of_find?_eq_some hfound), hvalue, rfl⟩

theorem nameOf_eq_none {table : List (String × UInt32)} {value : UInt32}
    (h : nameOf table value = none) : ∀ entry ∈ table, entry.2 ≠ value := by
  intro entry hentry
  have hnone := List.find?_eq_none.mp (Option.map_eq_none_iff.mp h) entry (List.mem_reverse.mpr hentry)
  rw [decide_eq_true_eq] at hnone
  exact hnone

end Tables

/-- A component: not empty and without a separator. -/
def IsWord (text : List Char) : Prop := text ≠ [] ∧ ∀ c ∈ text, isSeparator c = false

instance (text : List Char) : Decidable (IsWord text) := inferInstanceAs (Decidable (_ ∧ _))

variable {word rest : List Char} {mask mod : KeyModifierMask}

variable {c : Char}

theorem isBlank_of_word (hword : IsWord word) (hc : c ∈ word) : isBlank c = false := by
  have hseparator := hword.2 c hc
  unfold isSeparator at hseparator
  rw [decide_eq_false_iff_not, not_or] at hseparator
  exact Bool.eq_false_iff.mpr hseparator.1

theorem dropWhile_isBlank_word (hword : IsWord word) :
    (word ++ rest).dropWhile isBlank = word ++ rest := by
  rcases word with _ | ⟨c, word⟩
  · exact absurd rfl hword.1
  · rw [List.cons_append]
    exact List.dropWhile_cons_of_neg (Bool.eq_false_iff.mp (isBlank_of_word hword List.mem_cons_self))

theorem dropWhile_isBlank_of_word (hword : IsWord word) : word.dropWhile isBlank = word := by
  have hfront := @dropWhile_isBlank_word word [] hword
  rwa [List.append_nil] at hfront

theorem trim_word (hword : IsWord word) : trim word = word := by
  unfold trim
  rw [dropWhile_isBlank_of_word hword, List.rdropWhile_eq_self_iff]
  intro hne
  exact Bool.eq_false_iff.mp (isBlank_of_word hword (List.getLast_mem hne))

theorem takeWhile_word (hword : IsWord word) (hrest : ∀ c ∈ rest.head?, isSeparator c = true) :
    (word ++ rest).takeWhile (fun c => !isSeparator c) = word ∧
      (word ++ rest).dropWhile (fun c => !isSeparator c) = rest := by
  have hall (c : Char) (hc : c ∈ word) : (!isSeparator c) = true := by
    rw [hword.2 c hc]
    rfl
  rw [List.takeWhile_append_of_pos hall, List.dropWhile_append_of_pos hall]
  rcases rest with _ | ⟨c, rest⟩
  · exact ⟨List.append_nil _, rfl⟩
  · have hstop : ¬ (!isSeparator c) = true := by
      rw [hrest c rfl]
      nofun
    rw [List.takeWhile_cons_of_neg (p := fun c => !isSeparator c) hstop,
      List.dropWhile_cons_of_neg (p := fun c => !isSeparator c) hstop, List.append_nil]
    exact ⟨rfl, rfl⟩

theorem parseModifiersFrom_word (hword : IsWord word) (hkey : findName kModifierNameMap word = none) :
    parseModifiersFrom word mask = some (word, mask) := by
  have htake := (@takeWhile_word word [] hword nofun).1
  rw [List.append_nil] at htake
  rw [parseModifiersFrom, if_neg hword.1]
  dsimp only
  rw [htake, if_neg hword.1, hkey, trim_word hword]

theorem parseModifiersFrom_last (hword : IsWord word) (hmod : findName kModifierNameMap word = some mod) :
    parseModifiersFrom word mask = if mask &&& mod ≠ 0 then none else some ([], mask ||| mod) := by
  have htake := @takeWhile_word word [] hword nofun
  rw [List.append_nil] at htake
  rw [parseModifiersFrom, if_neg hword.1]
  dsimp only
  rw [htake.1, htake.2, if_neg hword.1, hmod]
  rfl

theorem parseModifiersFrom_more (hword : IsWord word) (hmod : findName kModifierNameMap word = some mod)
    (hmask : mask &&& mod = 0) (hrest : rest.dropWhile isBlank = rest) :
    parseModifiersFrom (word ++ '+' :: rest) mask = parseModifiersFrom rest (mask ||| mod) := by
  have htake := @takeWhile_word word ('+' :: rest) hword fun c hc => Option.some.inj hc ▸ rfl
  have hne : word ++ '+' :: rest ≠ [] := List.append_ne_nil_of_left_ne_nil hword.1 _
  have hplus : ('+' :: rest).dropWhile isBlank = '+' :: rest := List.dropWhile_cons_of_neg nofun
  rw [parseModifiersFrom, if_neg hne]
  dsimp only
  rw [htake.1, htake.2, if_neg hword.1, hmod]
  dsimp only
  rw [if_neg (not_not.mpr hmask), hplus, if_neg (List.cons_ne_nil _ _), if_neg nofun, List.tail_cons,
    hrest]

def IsName (name : List Char) : Prop := 2 ≤ name.length ∧ IsWord name ∧ name.head? ≠ some '\\'

def checkName : List Char → Bool
  | first :: second :: rest =>
    first.toNat != 92 && (first :: second :: rest).all fun c => !isSeparator c
  | _ => false

theorem isName_of_checkName {name : List Char} : checkName name = true → IsName name := by
  fun_cases checkName name with
  | case1 first second rest =>
    intro h
    obtain ⟨hfirst, hall⟩ := Bool.and_eq_true_iff.mp h
    refine ⟨by simp, ⟨List.cons_ne_nil _ _, fun c hc => ?_⟩, fun hhead => ?_⟩
    · have hseparator := List.all_eq_true.mp hall c hc
      rwa [Bool.not_eq_true'] at hseparator
    · obtain rfl : first = '\\' := Option.some.inj hhead
      cases hfirst
  | case2 => exact nofun

def allNames (table : List (String × α)) : Bool := table.all fun entry => checkName entry.1.toList

theorem isName_of_allNames {table : List (String × α)} (h : allNames table = true)
    {entry : String × α} (hentry : entry ∈ table) : IsName entry.1.toList :=
  isName_of_checkName (List.all_eq_true.mp h entry hentry)

theorem nodup_codes : (codes kKeyNameMap.tail ++ codes kModifierNameMap).Nodup :=
  nodup_of_distinct (by decide +kernel)

theorem allNames_keys : allNames kKeyNameMap.tail = true := by decide +kernel

theorem allNames_modifiers : allNames kModifierNameMap = true := by decide +kernel

theorem ids_checked :
    (∀ entry ∈ kKeyNameMap, entry.2.toNat ≤ 0xffff ∧ (entry.2 = kKeyAltGr → entry.1 = "AltGr")) ∧
      (∃ entry ∈ kKeyNameMap, entry.2 = 41) ∧ ∃ entry ∈ kKeyNameMap, entry.2 = 43 := by
  decide +kernel

theorem altGr_mem : ("AltGr", KeyModifierAltGr) ∈ kModifierNameMap := by decide

variable {entry : String × KeyID}

theorem mem_kKeyNameMap (h : entry ∈ kKeyNameMap) :
    entry = ("AltGr", kKeyAltGr) ∨ entry ∈ kKeyNameMap.tail := List.mem_cons.mp h

theorem distinctNames_modifiers : DistinctNames kModifierNameMap :=
  (List.nodup_append.mp nodup_codes).2.1

theorem distinctNames_keys : DistinctNames kKeyNameMap := by
  obtain ⟨htail, -, hdisjoint⟩ := List.nodup_append.mp nodup_codes
  refine List.nodup_cons.mpr ⟨fun hmem => ?_, htail⟩
  exact hdisjoint _ hmem _ (mem_codes altGr_mem rfl) rfl

theorem isName_of_mem_keys (h : entry ∈ kKeyNameMap) :
    IsName entry.1.toList := by
  rcases mem_kKeyNameMap h with rfl | htail
  · have haltGr : IsName "AltGr".toList := isName_of_allNames allNames_modifiers altGr_mem
    exact haltGr
  · exact isName_of_allNames allNames_keys htail

theorem findName_modifier_of_key (h : entry ∈ kKeyNameMap) (haltGr : entry.2 ≠ kKeyAltGr) :
    findName kModifierNameMap entry.1.toList = none := by
  rcases mem_kKeyNameMap h with rfl | htail
  · exact absurd rfl haltGr
  · obtain ⟨-, -, hdisjoint⟩ := List.nodup_append.mp nodup_codes
    refine findName_eq_none fun modifier hmodifier hname => ?_
    exact hdisjoint _ (mem_codes htail rfl) _ (mem_codes hmodifier hname) rfl

theorem findName_altGr : findName kModifierNameMap "AltGr".toList = some KeyModifierAltGr :=
  findName_of_mem distinctNames_modifiers altGr_mem

def HasName (bit : Nat) : Prop := ∃ entry ∈ kModifierNameMap, entry.2 = bitMask bit

theorem formatModifier_of_hasName {bit : Nat} (h : HasName bit) :
    ∃ name, formatModifier (bitMask bit) = name ++ ['+'] ∧ IsWord name ∧
      findName kModifierNameMap name = some (bitMask bit) := by
  obtain ⟨entry, hentry, hmask⟩ := h
  rcases hname : nameOf kModifierNameMap (bitMask bit) with _ | name
  · exact absurd hmask (nameOf_eq_none hname entry hentry)
  · obtain ⟨found, hfound, hvalue, rfl⟩ := mem_of_nameOf hname
    refine ⟨found.1.toList, ?_, (isName_of_allNames allNames_modifiers hfound).2.1, ?_⟩
    · unfold formatModifier
      rw [hname]
    · rw [← hvalue]
      exact findName_of_mem distinctNames_modifiers hfound

def withBits (bits : List Nat) (mask : KeyModifierMask) : KeyModifierMask :=
  bits.foldl (fun mask bit => mask ||| bitMask bit) mask

theorem hasBit_withBits {bits : List Nat} (hbits : ∀ bit ∈ bits, bit < kKeyModifierNumBits)
    {other : Nat} : hasBit (withBits bits mask) other = (hasBit mask other || decide (other ∈ bits)) := by
  induction bits generalizing mask with
  | nil => simp [withBits]
  | cons bit bits ih =>
    obtain ⟨hbit, hrest⟩ := List.forall_mem_cons.mp hbits
    have hstep : withBits (bit :: bits) mask = withBits bits (mask ||| bitMask bit) := rfl
    rw [hstep, ih hrest, hasBit_or, hasBit_bitMask hbit, Bool.or_assoc]
    simp [List.mem_cons]

theorem parseModifiersFrom_modifiers {bits : List Nat}
    (hbits : ∀ bit ∈ bits, bit < kKeyModifierNumBits ∧ HasName bit) (hnodup : bits.Nodup)
    (hmask : ∀ bit ∈ bits, hasBit mask bit = false) (hrest : rest.dropWhile isBlank = rest) :
    ((bits.flatMap fun bit => formatModifier (bitMask bit)) ++ rest).dropWhile isBlank =
        (bits.flatMap fun bit => formatModifier (bitMask bit)) ++ rest ∧
      parseModifiersFrom ((bits.flatMap fun bit => formatModifier (bitMask bit)) ++ rest) mask =
        parseModifiersFrom rest (withBits bits mask) := by
  induction bits generalizing mask with
  | nil => exact ⟨hrest, rfl⟩
  | cons bit bits ih =>
    obtain ⟨⟨hbit, hnamed⟩, hbits⟩ := List.forall_mem_cons.mp hbits
    obtain ⟨hunset, hmask⟩ := List.forall_mem_cons.mp hmask
    obtain ⟨hfresh, hnodup⟩ := List.nodup_cons.mp hnodup
    obtain ⟨name, hformat, hword, hname⟩ := formatModifier_of_hasName hnamed
    have hlater (other : Nat) (hother : other ∈ bits) : hasBit (mask ||| bitMask bit) other = false := by
      rw [hasBit_or, hmask other hother, hasBit_bitMask hbit, Bool.false_or, decide_eq_false_iff_not]
      rintro rfl
      exact hfresh hother
    obtain ⟨hfront, hparsed⟩ := ih hbits hnodup hlater
    rw [List.flatMap_cons, hformat, List.append_assoc, List.append_assoc, List.singleton_append]
    refine ⟨dropWhile_isBlank_word hword, ?_⟩
    rw [parseModifiersFrom_more hword hname ((and_bitMask_eq_zero_iff hbit).mpr hunset) hfront, hparsed]
    rfl

def IsNamed (mask : KeyModifierMask) : Prop := ∀ bit, hasBit mask bit = true → HasName bit

def bitsOf (mask : KeyModifierMask) : List Nat :=
  (List.range kKeyModifierNumBits).filter fun bit => hasBit mask bit

theorem mem_bitsOf {bit : Nat} :
    bit ∈ bitsOf mask ↔ bit < kKeyModifierNumBits ∧ hasBit mask bit = true := by
  unfold bitsOf
  rw [List.mem_filter, List.mem_range]

theorem lt_of_hasName {bit : Nat} (hbit : bit < 32) (h : HasName bit) : bit < kKeyModifierNumBits := by
  have hall : ∀ bit < 32, (∃ entry ∈ kModifierNameMap, entry.2 = bitMask bit) →
      bit < kKeyModifierNumBits := by decide
  exact hall bit hbit h

theorem flatMap_ite {bits : List Nat} (hbits : ∀ bit ∈ bits, bit < kKeyModifierNumBits)
    (text : Nat → List Char) :
    (bits.flatMap fun bit => if mask &&& bitMask bit ≠ 0 then text bit else []) =
      (bits.filter fun bit => hasBit mask bit).flatMap text := by
  induction bits with
  | nil => rfl
  | cons bit bits ih =>
    obtain ⟨hbit, hrest⟩ := List.forall_mem_cons.mp hbits
    rw [List.flatMap_cons, ih hrest]
    rcases hset : hasBit mask bit with _ | _
    · rw [if_neg (not_not.mpr ((and_bitMask_eq_zero_iff hbit).mpr hset)), List.filter_cons_of_neg]
      · rfl
      · rw [hset]
        nofun
    · rw [if_pos, List.filter_cons_of_pos hset, List.flatMap_cons]
      rw [Ne, and_bitMask_eq_zero_iff hbit, hset]
      nofun

theorem formatModifiers_eq :
    formatModifiers mask = (bitsOf mask).flatMap fun bit => formatModifier (bitMask bit) :=
  flatMap_ite (fun _ hbit => List.mem_range.mp hbit) _

theorem withBits_bitsOf (hnamed : IsNamed mask) : withBits (bitsOf mask) 0 = mask := by
  refine hasBit_ext fun bit hbit => ?_
  rw [hasBit_withBits fun _ h => (mem_bitsOf.mp h).1, hasBit_zero, Bool.false_or, Bool.eq_iff_iff,
    decide_eq_true_iff, mem_bitsOf]
  exact ⟨fun h => h.2, fun h => ⟨lt_of_hasName hbit (hnamed bit h), h⟩⟩

theorem nodup_bitsOf : (bitsOf mask).Nodup := List.nodup_range.filter _

theorem parseModifiers_append (hnamed : IsNamed mask) (hword : IsWord word) :
    parseModifiers (formatModifiers mask ++ word) = parseModifiersFrom word mask := by
  obtain ⟨hfront, hparsed⟩ := @parseModifiersFrom_modifiers word 0 (bitsOf mask)
    (fun bit h => ⟨(mem_bitsOf.mp h).1, hnamed bit (mem_bitsOf.mp h).2⟩) nodup_bitsOf
    (fun _ _ => hasBit_zero) (dropWhile_isBlank_of_word hword)
  unfold parseModifiers
  rw [formatModifiers_eq, hfront, hparsed, withBits_bitsOf hnamed]

theorem parseModifiers_dropLast (hnamed : IsNamed mask) :
    parseModifiers (formatModifiers mask).dropLast = some ([], mask) := by
  rw [formatModifiers_eq]
  rcases List.eq_nil_or_concat (bitsOf mask) with hnone | ⟨bits, bit, hbits⟩
  · have hmask := withBits_bitsOf hnamed
    rw [hnone] at hmask
    rw [hnone, List.flatMap_nil, List.dropLast_nil, parseModifiers, List.dropWhile_nil,
      parseModifiersFrom, if_pos rfl, ← hmask]
    rfl
  · rw [List.concat_eq_append] at hbits
    have hall (other : Nat) (hother : other ∈ bits ++ [bit]) :
        other < kKeyModifierNumBits ∧ HasName other := by
      have hset := mem_bitsOf.mp (hbits ▸ hother)
      exact ⟨hset.1, hnamed other hset.2⟩
    have hnodup : (bits ++ [bit]).Nodup := hbits ▸ nodup_bitsOf
    have hlast := hall bit (List.mem_append_right _ List.mem_cons_self)
    obtain ⟨hinit, -, hdisjoint⟩ := List.nodup_append.mp hnodup
    obtain ⟨name, hformat, hword, hname⟩ := formatModifier_of_hasName hlast.2
    have hinit' (other : Nat) (hother : other ∈ bits) := hall other (List.mem_append_left _ hother)
    obtain ⟨hfront, hparsed⟩ := @parseModifiersFrom_modifiers name 0 bits hinit' hinit
      (fun _ _ => hasBit_zero) (dropWhile_isBlank_of_word hword)
    have hunset : withBits bits 0 &&& bitMask bit = 0 := by
      rw [and_bitMask_eq_zero_iff hlast.1, hasBit_withBits fun other hother => (hinit' other hother).1,
        hasBit_zero, Bool.false_or, decide_eq_false_iff_not]
      exact fun hmem => hdisjoint bit hmem bit List.mem_cons_self rfl
    have hmask : withBits bits 0 ||| bitMask bit = mask := by
      rw [← withBits_bitsOf hnamed, hbits]
      unfold withBits
      rw [List.foldl_append, List.foldl_cons, List.foldl_nil]
    rw [hbits, List.flatMap_append, List.flatMap_singleton, hformat, ← List.append_assoc,
      List.dropLast_concat, parseModifiers, hfront, hparsed, parseModifiersFrom_last hword hname,
      if_neg (not_not.mpr hunset), hmask]

theorem toNat_of_isHexDigit (h : isHexDigit c = true) : 48 ≤ c.toNat := by
  simp only [isHexDigit, Char.isDigit, Bool.or_eq_true, Bool.and_eq_true, decide_eq_true_eq, ge_iff_le,
    Char.le_def, UInt32.le_iff_toNat_le] at h
  have hzero : '0'.val.toNat = 48 := rfl
  have hlower : 'a'.val.toNat = 97 := rfl
  have hupper : 'A'.val.toNat = 65 := rfl
  unfold Char.toNat
  omega

theorem isSeparator_of_isHexDigit (h : isHexDigit c = true) : isSeparator c = false := by
  have hlow := toNat_of_isHexDigit h
  unfold isSeparator isBlank
  simp only [decide_eq_true_eq, decide_eq_false_iff_not, not_or]
  refine ⟨⟨?_, ?_⟩, ?_, ?_⟩
  all_goals
    rintro rfl
    exact absurd hlow (by decide)

theorem isSpace_of_isHexDigit (h : isHexDigit c = true) : isSpace c = false := by
  have hlow := toNat_of_isHexDigit h
  unfold isSpace
  rw [decide_eq_false_iff_not, not_or]
  refine ⟨?_, by omega⟩
  rintro rfl
  exact absurd hlow (by decide)

theorem splitSign_of_isHexDigit (h : isHexDigit c = true) :
    splitSign (c :: rest) = (false, c :: rest) := by
  unfold splitSign
  split
  · rename_i hminus
    obtain rfl := (List.cons.inj hminus).1
    cases h
  · rename_i hplus
    obtain rfl := (List.cons.inj hplus).1
    cases h
  · rfl

theorem dropHexPrefix_of_isHexDigit {digits : List Char}
    (hdigits : ∀ c ∈ digits, isHexDigit c = true) : dropHexPrefix digits = digits := by
  unfold dropHexPrefix
  split
  · rename_i x digit rest
    refine if_neg fun h => ?_
    have hx : isHexDigit x = true := hdigits x (List.mem_cons_of_mem _ List.mem_cons_self)
    rcases h.1 with rfl | rfl <;> cases hx
  · rfl

theorem strtolHex_of_hex {digits : List Char} (hne : digits ≠ [])
    (hdigits : ∀ c ∈ digits, isHexDigit c = true) : strtolHex digits = ((hexValue digits : Int), []) := by
  rcases digits with _ | ⟨c, digits⟩
  · exact absurd rfl hne
  have hc : isHexDigit c = true := hdigits c List.mem_cons_self
  have htake : (c :: digits).takeWhile isHexDigit = c :: digits := List.takeWhile_eq_self_iff.mpr hdigits
  have hdrop : (c :: digits).dropWhile isHexDigit = [] := List.dropWhile_eq_nil_iff.mpr hdigits
  unfold strtolHex
  rw [List.dropWhile_cons_of_neg (Bool.eq_false_iff.mp (isSpace_of_isHexDigit hc)),
    splitSign_of_isHexDigit hc]
  dsimp only
  rw [dropHexPrefix_of_isHexDigit hdigits, htake, hdrop, if_neg (List.cons_ne_nil _ _)]
  rfl

theorem findName_of_length {table : List (String × UInt32)}
    (hnames : ∀ entry ∈ table, IsName entry.1.toList) {text : List Char} (hlength : text.length < 2) :
    findName table text = none := by
  refine findName_eq_none fun entry hentry hname => ?_
  have hlong := (hnames entry hentry).1
  have hsame := congrArg List.length hname
  unfold caseless at hsame
  rw [List.length_map, List.length_map] at hsame
  omega

theorem toLower_backslash (h : c.toLower = '\\') : c = '\\' := by
  unfold Char.toLower at h
  split at h
  · rename_i hupper
    have hvalue : (c.val + ('a'.val - 'A'.val)).toNat = 92 := congrArg Char.toNat h
    have hlow : 65 ≤ c.val.toNat := UInt32.le_iff_toNat_le.mp hupper.1
    have hhigh : c.val.toNat ≤ 90 := UInt32.le_iff_toNat_le.mp hupper.2
    have hshift : ('a'.val - 'A'.val).toNat = 32 := rfl
    rw [UInt32.toNat_add, hshift] at hvalue
    omega
  · exact h

theorem findName_escape {table : List (String × UInt32)} (hnames : ∀ entry ∈ table, IsName entry.1.toList)
    {text : List Char} : findName table ('\\' :: text) = none := by
  refine findName_eq_none fun entry hentry hname => ?_
  obtain ⟨-, -, hhead⟩ := hnames entry hentry
  rcases htext : entry.1.toList with _ | ⟨c, rest⟩
  · rw [htext] at hname
    cases hname
  · rw [htext] at hname hhead
    have hlower : c.toLower = '\\' := (List.cons.inj hname).1
    exact hhead (congrArg some (toLower_backslash hlower))

variable {key : KeyID}

theorem keyText_cases (key : KeyID) :
    (∃ entry ∈ kKeyNameMap, entry.2 = key ∧ keyText key = entry.1.toList) ∨
      (key.toNat < 127 ∧ ∃ c, c.toNat = key.toNat ∧ isGraph c = true ∧ isSeparator c = false ∧
        keyText key = [c]) ∨
      ((∀ entry ∈ kKeyNameMap, entry.2 ≠ key) ∧ keyText key = '\\' :: 'u' :: padHex 4 key.toNat) := by
  unfold keyText
  rcases hname : nameOf kKeyNameMap key with _ | name
  · dsimp only
    by_cases hcharacter : 33 ≤ key ∧ key < 127
    · refine .inr (.inl ?_)
      rw [if_pos hcharacter]
      have hlow : 33 ≤ key.toNat := UInt32.le_iff_toNat_le.mp hcharacter.1
      have hhigh : key.toNat < 127 := UInt32.lt_iff_toNat_lt.mp hcharacter.2
      have hall : ∀ n < 127, 33 ≤ n → (Char.ofNat n).toNat = n ∧ isGraph (Char.ofNat n) = true ∧
          (isSeparator (Char.ofNat n) = true → n = 41 ∨ n = 43) := by decide
      obtain ⟨hvalue, hgraph, hseparator⟩ := hall key.toNat hhigh hlow
      refine ⟨hhigh, _, hvalue, hgraph, Bool.eq_false_iff.mpr fun h => ?_, rfl⟩
      have hnamed : ∃ entry ∈ kKeyNameMap, entry.2 = key := by
        rcases hseparator h with hkey | hkey
        · obtain rfl : key = 41 := UInt32.toNat_inj.mp hkey
          exact ids_checked.2.1
        · obtain rfl : key = 43 := UInt32.toNat_inj.mp hkey
          exact ids_checked.2.2
      obtain ⟨entry, hentry, hkey⟩ := hnamed
      exact nameOf_eq_none hname entry hentry hkey
    · rw [if_neg hcharacter]
      exact .inr (.inr ⟨nameOf_eq_none hname, rfl⟩)
  · obtain ⟨entry, hentry, hkey, rfl⟩ := mem_of_nameOf hname
    exact .inl ⟨entry, hentry, hkey, rfl⟩

theorem isWord_keyText : IsWord (keyText key) := by
  rcases keyText_cases key with ⟨entry, hentry, -, htext⟩ | ⟨-, c, -, -, hseparator, htext⟩ |
    ⟨-, htext⟩
  · rw [htext]
    exact (isName_of_mem_keys hentry).2.1
  · rw [htext]
    exact ⟨List.cons_ne_nil _ _, List.forall_mem_singleton.mpr hseparator⟩
  · rw [htext]
    refine ⟨List.cons_ne_nil _ _, List.forall_mem_cons.mpr ⟨rfl, List.forall_mem_cons.mpr ⟨rfl, ?_⟩⟩⟩
    exact fun c hc => isSeparator_of_isHexDigit (isHexDigit_of_mem_padHex hc)

theorem findName_modifier_keyText (haltGr : key ≠ kKeyAltGr) :
    findName kModifierNameMap (keyText key) = none := by
  rcases keyText_cases key with ⟨entry, hentry, rfl, htext⟩ | ⟨-, c, -, -, -, htext⟩ | ⟨-, htext⟩
  · rw [htext]
    exact findName_modifier_of_key hentry haltGr
  · rw [htext]
    exact findName_of_length (fun _ => isName_of_allNames allNames_modifiers) (by simp)
  · rw [htext]
    exact findName_escape fun _ => isName_of_allNames allNames_modifiers

theorem keyText_altGr : keyText kKeyAltGr = "AltGr".toList := by
  rcases keyText_cases kKeyAltGr with ⟨entry, hentry, hkey, htext⟩ | ⟨hsmall, -⟩ | ⟨hnone, -⟩
  · rw [htext, (ids_checked.1 entry hentry).2 hkey]
  · exact absurd hsmall (by decide)
  · exact absurd rfl (hnone ("AltGr", kKeyAltGr) List.mem_cons_self)

theorem ofInt_toNat : UInt32.ofInt (key.toNat : Int) = key := by
  have hbound := key.toNat_lt
  apply UInt32.toNat_inj.mp
  rw [UInt32.ofInt, UInt32.toNat_ofNat']
  omega

theorem parseKey_of_unnamed {text : List Char} (hnone : findName kKeyNameMap text = none) :
    parseKey text = parseUnnamed text := by
  unfold parseKey
  rw [hnone, Option.none_or]

theorem parseKey_keyText : parseKey (keyText key) = if key.toNat ≤ 0xffff then some key else none := by
  rcases keyText_cases key with ⟨entry, hentry, rfl, htext⟩ | ⟨hsmall, c, hvalue, hgraph, -, htext⟩ |
    ⟨-, htext⟩
  · unfold parseKey
    rw [htext, if_pos (ids_checked.1 entry hentry).1, findName_of_mem distinctNames_keys hentry,
      Option.some_or]
  · have hunnamed : findName kKeyNameMap [c] = none :=
      findName_of_length (fun _ => isName_of_mem_keys) (by simp)
    rw [htext, if_pos (by omega), parseKey_of_unnamed hunnamed, parseUnnamed, if_pos hgraph, hvalue,
      UInt32.ofNat_toNat]
  · have hunnamed : findName kKeyNameMap ('\\' :: 'u' :: padHex 4 key.toNat) = none :=
      findName_escape fun _ => isName_of_mem_keys
    rw [htext, parseKey_of_unnamed hunnamed, parseUnnamed]
    have hlength := @length_padHex key.toNat 4
    have hfits := @length_padHex_le_iff key.toNat 4 (by decide)
    by_cases hsmall : key.toNat ≤ 0xffff
    · have hfour : (padHex 4 key.toNat).length = 4 := by omega
      have hne : padHex 4 key.toNat ≠ [] := List.ne_nil_of_length_pos (by omega)
      rw [if_pos hfour, strtolHex_of_hex hne fun _ => isHexDigit_of_mem_padHex, if_pos hsmall,
        hexValue_padHex]
      dsimp only
      rw [ofInt_toNat]
      rfl
    · have hlonger : ¬ (padHex 4 key.toNat).length = 4 := by omega
      rw [if_neg hlonger, if_neg hsmall]

theorem parseKey_nil : parseKey [] = some kKeyNone :=
  parseKey_of_unnamed (findName_of_length (fun _ => isName_of_mem_keys) (by decide))

def ParsesBack (key : KeyID) (mask : KeyModifierMask) : Prop :=
  ((parseModifiers (formatKey key mask)).bind fun parsed =>
    (parseKey parsed.1).map fun parsedKey => (parsedKey, parsed.2)) = some (key, mask)

theorem not_parsesBack_altGr (hnamed : IsNamed mask) : ¬ ParsesBack kKeyAltGr mask := by
  have haltGr : IsWord "AltGr".toList := keyText_altGr ▸ isWord_keyText
  unfold ParsesBack formatKey
  rw [if_pos (by decide), keyText_altGr, parseModifiers_append hnamed haltGr,
    parseModifiersFrom_last haltGr findName_altGr]
  split_ifs
  · nofun
  · rw [Option.bind_some, parseKey_nil]
    intro h
    exact absurd (Prod.mk.inj (Option.some.inj h)).1 (by decide)

/-- **Names are parsed back**, but for AltGr and the keys whose number needs more than four digits. -/
theorem parsesBack_iff (hnamed : IsNamed mask) :
    ParsesBack key mask ↔ key ≠ kKeyAltGr ∧ key.toNat ≤ 0xffff := by
  by_cases haltGr : key = kKeyAltGr
  · rw [haltGr]
    exact iff_of_false (not_parsesBack_altGr hnamed) fun h => h.1 rfl
  by_cases hnone : key = kKeyNone
  · subst hnone
    refine iff_of_true ?_ ⟨haltGr, by decide⟩
    unfold ParsesBack formatKey
    rw [if_neg (not_not.mpr rfl), parseModifiers_dropLast hnamed, Option.bind_some, parseKey_nil]
    rfl
  unfold ParsesBack formatKey
  rw [if_pos hnone, parseModifiers_append hnamed isWord_keyText,
    parseModifiersFrom_word isWord_keyText (findName_modifier_keyText haltGr), Option.bind_some,
    parseKey_keyText]
  split_ifs with hsmall
  · exact iff_of_true rfl ⟨haltGr, hsmall⟩
  · exact iff_of_false nofun fun h => hsmall h.2

/-- A letter with shift and control. -/
theorem parsesBack_iff_letter : ParsesBack 97 3 ↔ (97 : KeyID) ≠ kKeyAltGr ∧ (97 : KeyID).toNat ≤ 0xffff :=
  parsesBack_iff fun bit hbit => by
    have hall : ∀ bit < 32, hasBit 3 bit = true → ∃ entry ∈ kModifierNameMap, entry.2 = bitMask bit := by
      decide
    exact hall bit (hasBit_lt hbit) hbit

/-- A key beyond 16 bits and the AltGr key. -/
theorem emoji_not_parsed_back : ¬ ParsesBack 0x1F600 0 ∧ ¬ ParsesBack kKeyAltGr 0 := by
  have hnamed : IsNamed 0 := fun bit hbit => absurd (hasBit_zero.symm.trans hbit) nofun
  refine ⟨?_, not_parsesBack_altGr hnamed⟩
  unfold ParsesBack formatKey
  rw [if_pos (by decide), parseModifiers_append hnamed isWord_keyText,
    parseModifiersFrom_word isWord_keyText (findName_modifier_keyText (by decide)), Option.bind_some,
    parseKey_keyText, if_neg (by decide)]
  nofun

end KeyMap

end DeskflowPlus
