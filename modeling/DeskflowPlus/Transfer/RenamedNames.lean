import DeskflowPlus.Transfer.FileReception
import DeskflowPlus.Transfer.QStringArg
import Mathlib.Data.List.TakeWhile
import Mathlib.Data.Nat.Digits.Lemmas

/-!
# Names of renamed files

A renamed file gets a number between its stem and its extension. The name is spelled by three
replacements in a row, and each of them also finds the place markers that the stem brings in. So the
name is the expected one only if the stem has no marker as low as those of the format.
-/

namespace DeskflowPlus.Transfer

/-- The numbers of a locale, for what a marker with an L stands for. -/
structure QLocale where
  toText : QString → QString
  ne_nil : ∀ digits, digits ≠ [] → toText digits ≠ []
  percent_not_mem : ∀ digits, 0x25 ∉ digits → 0x25 ∉ toText digits

/-- `QString::arg` as the names use it: texts of digits are the numbers. -/
def QLocale.arg (locale : QLocale) : ConflictResolver.Arg := fun format text =>
  QString.arg format text
    (if text ≠ [] ∧ text.all (fun unit => (QString.qArgDigitValue unit).isSome) then
      locale.toText text
    else text)

namespace ConflictResolver

/-- The stem and the extension; a dot at either end of the name starts none. -/
def splitName (fileName : QString) : QString × QString :=
  match lastDot fileName with
  | some dot =>
    if 0 < dot ∧ dot + 1 < fileName.length then (fileName.take dot, fileName.drop dot)
    else (fileName, [])
  | none => (fileName, [])

def indexText (index : Nat) : QString := QString.literal (toString index)

variable {index : Nat}

theorem renamedFileName_eq (arg : Arg) (fileName : QString) (h : index ≠ 0) :
    renamedFileName arg fileName index =
      arg (arg (arg (QString.literal "%1 (%2)%3") (splitName fileName).1) (indexText index))
        (splitName fileName).2 := by
  unfold renamedFileName
  rw [if_neg h]
  rfl

variable {fileName : QString}

theorem splitName_append (fileName : QString) :
    (splitName fileName).1 ++ (splitName fileName).2 = fileName := by
  unfold splitName
  split
  · split
    · exact List.take_append_drop _ _
    · exact List.append_nil _
  · exact List.append_nil _

theorem splitName_extension (fileName : QString) :
    (splitName fileName).2 = [] ∨ ∃ tail, (splitName fileName).2 = 0x2e :: tail := by
  unfold splitName
  split
  · rename_i dot hdot
    split
    · rename_i hrange
      right
      unfold lastDot at hdot
      split at hdot
      · rename_i hmem
        obtain rfl := Option.some.inj hdot
        have hindex : fileName.reverse.idxOf 0x2e < fileName.reverse.length :=
          List.idxOf_lt_length_of_mem (List.mem_reverse.mpr hmem)
        have hlast := List.getElem_idxOf hindex
        rw [List.getElem_reverse] at hlast
        exact ⟨_, by rw [List.drop_eq_getElem_cons (Nat.lt_of_succ_lt hrange.2), hlast]⟩
      · cases hdot
    · exact .inl rfl
  · exact .inl rfl

theorem isDigit_of_mem_toString {c : Char} (h : c ∈ (toString index).toList) :
    0x30 ≤ c.toNat ∧ c.toNat ≤ 0x39 := by
  have hdigits : (toString index).toList = Nat.toDigits 10 index := Nat.toList_repr
  rw [hdigits] at h
  have hdigit := Nat.isDigit_of_mem_toDigits (by decide) (by decide) h
  rw [Char.isDigit, Bool.and_eq_true, decide_eq_true_iff, decide_eq_true_iff] at hdigit
  exact ⟨UInt32.le_iff_toNat_le.mp hdigit.1, UInt32.le_iff_toNat_le.mp hdigit.2⟩

theorem indexText_eq_map (index : Nat) :
    indexText index = (toString index).toList.map fun c => UInt16.ofNat c.toNat := by
  have hall : ∀ c ∈ (toString index).toList, c.toNat ≤ 0x39 :=
    fun c hc => (isDigit_of_mem_toString hc).2
  unfold indexText QString.literal
  generalize (toString index).toList = chars at hall
  induction chars with
  | nil => rfl
  | cons c chars ih =>
    have hc := hall c List.mem_cons_self
    have hunit : QString.ofChar c = [UInt16.ofNat c.toNat] := if_pos (by omega)
    rw [List.flatMap_cons, hunit, ih fun other hother => hall other (List.mem_cons_of_mem _ hother)]
    rfl

theorem digit_of_mem_indexText {unit : UInt16} (h : unit ∈ indexText index) :
    0x30 ≤ unit.toNat ∧ unit.toNat ≤ 0x39 := by
  rw [indexText_eq_map] at h
  obtain ⟨c, hc, rfl⟩ := List.mem_map.mp h
  have hdigit := isDigit_of_mem_toString hc
  rw [UInt16.toNat_ofNat']
  omega

theorem percent_not_mem_indexText (index : Nat) : 0x25 ∉ indexText index :=
  fun h => absurd (digit_of_mem_indexText h).1 (by decide)

theorem slash_not_mem_indexText (index : Nat) : 0x2f ∉ indexText index :=
  fun h => absurd (digit_of_mem_indexText h).1 (by decide)

theorem indexText_injective : Function.Injective indexText := by
  intro left right h
  rw [indexText_eq_map, indexText_eq_map] at h
  have hread (index : Nat) : ((toString index).toList.map fun c => UInt16.ofNat c.toNat).map
      (fun unit => Char.ofNat unit.toNat) = (toString index).toList := by
    rw [List.map_map]
    refine (List.map_congr_left fun c hc => ?_).trans (List.map_id _)
    have hdigit := isDigit_of_mem_toString hc
    show Char.ofNat (UInt16.ofNat c.toNat).toNat = c
    rw [UInt16.toNat_ofNat', Nat.mod_eq_of_lt (by omega), Char.ofNat_toNat]
  have hdigits : Nat.toDigits 10 left = Nat.toDigits 10 right := by
    rw [← Nat.toList_repr, ← Nat.toList_repr]
    exact (hread left).symm.trans ((congrArg _ h).trans (hread right))
  calc left
      = Nat.ofDigitChars 10 (Nat.toDigits 10 left) 0 := Nat.ofDigitChars_ten_toDigits.symm
    _ = Nat.ofDigitChars 10 (Nat.toDigits 10 right) 0 := by rw [hdigits]
    _ = right := Nat.ofDigitChars_ten_toDigits

open QString

variable {stem extension text localized : QString}

/-- The format behind its first marker. -/
def formatTail : QString := literal " (%2)%3"

def tailPieces : List ArgPiece :=
  [.plain 0x20, .plain 0x28, .marker ⟨false, 2, none⟩, .plain 0x29, .marker ⟨false, 3, none⟩]

theorem pieces_formatTail : pieces formatTail = tailPieces := by decide

theorem endsMarkers_of_space (rest : QString) : EndsMarkers (0x20 :: rest) := by
  intro unit hunit
  obtain rfl := Option.some.inj hunit
  decide

theorem pieces_append_formatTail (text : QString) :
    pieces (text ++ formatTail) = pieces text ++ tailPieces := by
  rw [← pieces_formatTail]
  exact pieces_append (endsMarkers_of_space _) text

theorem arg_format (stem localized : QString) :
    QString.arg (literal "%1 (%2)%3") stem localized = stem ++ formatTail := by
  have hpieces : pieces (literal "%1 (%2)%3") = .marker ⟨false, 1, none⟩ :: tailPieces := by decide
  have hmem : 1 ∈ numbers (pieces (literal "%1 (%2)%3")) := by decide
  have hleast : ∀ other ∈ numbers (pieces (literal "%1 (%2)%3")), 1 ≤ other := by decide
  rw [arg_eq hmem hleast, hpieces]
  rfl

/-- The format with the index, behind the stem. -/
def indexTail (text : QString) : QString := 0x20 :: 0x28 :: (text ++ literal ")%3")

theorem pieces_append_indexTail (h : 0x25 ∉ text) (stem : QString) :
    pieces (stem ++ indexTail text) = pieces stem ++
      ((0x20 :: 0x28 :: (text ++ [0x29])).map ArgPiece.plain ++ [.marker ⟨false, 3, none⟩]) := by
  have htext : 0x25 ∉ (0x20 :: 0x28 :: (text ++ [0x29]) : QString) := by
    simpa using h
  have htail : indexTail text = (0x20 :: 0x28 :: (text ++ [0x29])) ++ [0x25, 0x33] := by
    rw [List.cons_append, List.cons_append, List.append_assoc]
    rfl
  have hsplit : pieces (stem ++ indexTail text) = pieces stem ++ pieces (indexTail text) :=
    pieces_append (endsMarkers_of_space _) stem
  rw [hsplit, htail, pieces_append_of_not_mem htext]
  rfl

theorem arg_formatTail (h : ∀ number ∈ numbers (pieces stem), 2 < number) :
    QString.arg (stem ++ formatTail) text localized = stem ++ indexTail text := by
  have hpieces := pieces_append_formatTail stem
  have hmem : 2 ∈ numbers (pieces (stem ++ formatTail)) := by
    rw [hpieces, numbers_append]
    exact List.mem_append_right _ (by decide)
  have hleast : ∀ other ∈ numbers (pieces (stem ++ formatTail)), 2 ≤ other := by
    rw [hpieces, numbers_append]
    intro other hother
    rcases List.mem_append.mp hother with hstem | htail
    · exact Nat.le_of_lt (h other hstem)
    · have hall : ∀ other ∈ numbers tailPieces, 2 ≤ other := by decide
      exact hall other htail
  have hnot : 2 ∉ numbers (pieces stem) := fun hmem => Nat.lt_irrefl 2 (h 2 hmem)
  rw [arg_eq hmem hleast, hpieces, List.flatMap_append, flatMap_substitute_of_not_mem hnot,
    spelled_pieces]
  rfl

theorem arg_indexTail_eq (h : ∀ number ∈ numbers (pieces stem), 2 < number) (htext : 0x25 ∉ text) :
    QString.arg (stem ++ indexTail text) extension localized =
      (pieces (stem ++ indexTail text)).flatMap
        (ArgPiece.substitute 3 extension localized) := by
  have hpieces := pieces_append_indexTail htext stem
  refine arg_eq ?_ ?_
  · rw [hpieces, numbers_append, numbers_append]
    exact List.mem_append_right _ (List.mem_append_right _ (by decide))
  · rw [hpieces, numbers_append, numbers_append, numbers_map_plain, List.nil_append]
    intro other hother
    rcases List.mem_append.mp hother with hstem | htail
    · exact h other hstem
    · exact Nat.le_of_eq (List.mem_singleton.mp htail).symm

theorem arg_indexTail (h : ∀ number ∈ numbers (pieces stem), 3 < number) (htext : 0x25 ∉ text) :
    QString.arg (stem ++ indexTail text) extension localized =
      stem ++ (0x20 :: 0x28 :: (text ++ 0x29 :: extension)) := by
  have hnot : 3 ∉ numbers (pieces stem) := fun hmem => Nat.lt_irrefl 3 (h 3 hmem)
  have hplain : 3 ∉ numbers ((0x20 :: 0x28 :: (text ++ [0x29])).map ArgPiece.plain) := by
    rw [numbers_map_plain]
    exact List.not_mem_nil
  rw [arg_indexTail_eq (fun number hnumber => Nat.lt_of_succ_lt (h number hnumber)) htext,
    pieces_append_indexTail htext, List.flatMap_append, List.flatMap_append,
    flatMap_substitute_of_not_mem hnot, flatMap_substitute_of_not_mem hplain, spelled_pieces,
    spelled_map_plain]
  show stem ++ (0x20 :: 0x28 :: (text ++ [0x29]) ++ (extension ++ [])) = _
  rw [List.append_nil, List.cons_append, List.cons_append, List.append_assoc]
  rfl

def expectedName (fileName : QString) (index : Nat) : QString :=
  (splitName fileName).1 ++
    (0x20 :: 0x28 :: (indexText index ++ 0x29 :: (splitName fileName).2))

variable {locale : QLocale}

theorem arg_extension (format fileName : QString) :
    locale.arg format (splitName fileName).2 =
      QString.arg format (splitName fileName).2 (splitName fileName).2 := by
  unfold QLocale.arg
  rcases splitName_extension fileName with hnil | ⟨tail, htail⟩
  · rw [hnil]
    rfl
  · rw [htail, if_neg]
    rintro ⟨-, hdigits⟩
    rw [List.all_cons, Bool.and_eq_true] at hdigits
    exact absurd hdigits.1 (by decide)

theorem exists_arg_indexText (index : Nat) : ∃ localized, localized ≠ [] ∧ 0x25 ∉ localized ∧
    ∀ format, locale.arg format (indexText index) =
      QString.arg format (indexText index) localized := by
  have hne : indexText index ≠ [] := by
    rw [indexText_eq_map]
    have hdigits : (toString index).toList = Nat.toDigits 10 index := Nat.toList_repr
    rw [hdigits, Ne, List.map_eq_nil_iff]
    exact Nat.toDigits_ne_nil
  refine ⟨_, ?_, ?_, fun format => rfl⟩
  · split
    · exact locale.ne_nil _ hne
    · exact hne
  · split
    · exact locale.percent_not_mem _ (percent_not_mem_indexText index)
    · exact percent_not_mem_indexText index

theorem renamedFileName_of_markers {index : Nat} (hindex : index ≠ 0)
    (h : ∀ number ∈ numbers (pieces (splitName fileName).1), 3 < number) :
    renamedFileName locale.arg fileName index = expectedName fileName index := by
  rw [renamedFileName_eq _ _ hindex]
  unfold QLocale.arg
  rw [arg_format, arg_formatTail fun number hnumber => Nat.lt_of_succ_lt (h number hnumber),
    arg_indexTail h (percent_not_mem_indexText index)]
  rfl

theorem ne_of_replaced_twice {front new rest front' back rest' tail : QString}
    (h : front ++ (new ++ rest) = front' ++ 0x25 :: back) (hnew : new ≠ []) (hpercent : 0x25 ∉ new)
    (hextension : extension.head? ≠ some 0x25) (hne : extension ≠ []) :
    front' ++ (extension ++ rest') ≠ front ++ 0x25 :: tail := by
  obtain ⟨unit, new, rfl⟩ := List.exists_cons_of_ne_nil hnew
  obtain ⟨dot, extension, rfl⟩ := List.exists_cons_of_ne_nil hne
  induction front generalizing front' with
  | nil =>
    have hunit : unit ≠ 0x25 := (List.ne_and_not_mem_of_not_mem_cons hpercent).1.symm
    cases front' with
    | nil => exact fun _ => hunit (List.cons.inj h).1
    | cons unit' front' =>
      intro heq
      exact hunit ((List.cons.inj h).1.trans (List.cons.inj heq).1)
  | cons unit' front ih =>
    cases front' with
    | nil =>
      intro heq
      exact hextension (congrArg some ((List.cons.inj heq).1.trans (List.cons.inj h).1))
    | cons unit'' front' =>
      intro heq
      exact ih (List.cons.inj h).2 (List.cons.inj heq).2

theorem three_mem (front : QString) : 3 ∈ numbers (pieces (front ++ [0x29, 0x25, 0x33])) := by
  have hends : EndsMarkers [0x29, 0x25, 0x33] := by
    intro unit hunit
    obtain rfl := Option.some.inj hunit
    decide
  rw [pieces_append hends, numbers_append]
  exact List.mem_append_right _ (by decide)

/-- The second replacement, for a stem with a marker that it finds first. -/
structure Replaced (stem text localized : QString) (number : Nat) (result : QString) : Prop where
  mem : number ∈ numbers (pieces stem)
  le_two : number ≤ 2
  result_eq : result = (pieces (stem ++ formatTail)).flatMap
    (ArgPiece.substitute number text localized)
  least : ∀ other ∈ numbers (pieces stem), number ≤ other

theorem exists_replaced (text localized : QString)
    (h : ∃ number ∈ numbers (pieces stem), number ≤ 2) :
    ∃ number, Replaced stem text localized number
      (QString.arg (stem ++ formatTail) text localized) := by
  obtain ⟨low, hlow, hle⟩ := h
  have hpieces := pieces_append_formatTail stem
  have hmem : low ∈ numbers (pieces (stem ++ formatTail)) := by
    rw [hpieces, numbers_append]
    exact List.mem_append_left _ hlow
  obtain ⟨number, hnumber, hleast, heq⟩ := exists_arg_eq text localized (List.ne_nil_of_mem hmem)
  have hnumberLow := hleast low hmem
  rw [hpieces, numbers_append] at hnumber hleast
  refine ⟨number, ?_, by omega, heq, fun other hother =>
    hleast other (List.mem_append_left _ hother)⟩
  rcases List.mem_append.mp hnumber with hstem | htail
  · exact hstem
  · have hall : ∀ other ∈ numbers tailPieces, 2 ≤ other := by decide
    have htwo := hall number htail
    obtain rfl : low = number := by omega
    exact hlow

theorem Replaced.exists_tail {number : Nat} {result : QString}
    (h : Replaced stem text localized number result) :
    ∃ middle, result = (pieces stem).flatMap (ArgPiece.substitute number text localized) ++
        (0x20 :: 0x28 :: (middle ++ [0x29, 0x25, 0x33])) ∧
      (number ≠ 2 → middle = [0x25, 0x32]) := by
  have hthree : (3 : Nat) ≠ number := by
    have hle := h.le_two
    omega
  have hlast : ArgPiece.substitute number text localized (.marker ⟨false, 3, none⟩) =
      [0x25, 0x33] := if_neg hthree
  refine ⟨ArgPiece.substitute number text localized (.marker ⟨false, 2, none⟩), ?_, ?_⟩
  · rw [h.result_eq, pieces_append_formatTail, List.flatMap_append]
    simp only [tailPieces, List.flatMap_cons, List.flatMap_nil, hlast, List.append_nil]
    rfl
  · exact fun hne => if_neg hne.symm

theorem ne_of_append_percent {front back new rest tail : QString} (hne : new ≠ [])
    (hhead : new.head? ≠ some 0x25) : front ++ (new ++ rest) ≠ front ++ 0x25 :: back ++ tail := by
  obtain ⟨unit, new, rfl⟩ := List.exists_cons_of_ne_nil hne
  intro heq
  rw [List.append_assoc] at heq
  exact hhead (congrArg some (List.cons.inj (List.append_cancel_left heq)).1)

theorem ne_of_marker_of_extension (hlocalized : localized ≠ []) (hpercent : 0x25 ∉ localized)
    (htext : text ≠ []) (htextPercent : 0x25 ∉ text) (hne : extension ≠ [])
    (hextension : extension.head? ≠ some 0x25)
    (h : ∃ number ∈ numbers (pieces stem), number ≤ 3) :
    QString.arg (QString.arg (stem ++ formatTail) text localized) extension extension ≠
      stem ++ (0x20 :: 0x28 :: (text ++ 0x29 :: extension)) := by
  by_cases hlow : ∃ number ∈ numbers (pieces stem), number ≤ 2
  · obtain ⟨number, hreplaced⟩ := exists_replaced text localized hlow
    obtain ⟨middle, hresult, -⟩ := hreplaced.exists_tail
    obtain ⟨front, back, new, rest, hstem, hnew, hcases⟩ :=
      @exists_first_replaced (pieces stem) _ text localized hreplaced.mem
    rw [spelled_pieces] at hstem
    have hthree : 3 ∈ numbers (pieces (QString.arg (stem ++ formatTail) text localized)) := by
      rw [hresult, ← List.cons_append, ← List.cons_append, ← List.append_assoc]
      exact three_mem _
    obtain ⟨last, hlast, -, heq⟩ := exists_arg_eq extension extension (List.ne_nil_of_mem hthree)
    obtain ⟨front', back', new', rest', hsecond, hnew', hcases'⟩ :=
      @exists_first_replaced _ _ extension extension hlast
    rw [spelled_pieces, hresult, hnew, List.append_assoc, List.append_assoc] at hsecond
    rw [heq, hnew', hcases'.elim id id, hstem, List.append_assoc]
    rcases hcases with rfl | rfl
    · exact ne_of_replaced_twice hsecond htext htextPercent hextension hne
    · exact ne_of_replaced_twice hsecond hlocalized hpercent hextension hne
  · -- the stem has the marker of the extension
    have hhigh : ∀ number ∈ numbers (pieces stem), 2 < number := fun number hnumber =>
      Nat.lt_of_not_le fun hle => hlow ⟨number, hnumber, hle⟩
    obtain ⟨number, hnumber, hle⟩ := h
    obtain rfl : number = 3 := Nat.le_antisymm hle (hhigh number hnumber)
    obtain ⟨front, back, new, rest, hstem, hnew, hcases⟩ :=
      @exists_first_replaced (pieces stem) _ extension extension hnumber
    rw [spelled_pieces] at hstem
    rw [arg_formatTail hhigh, arg_indexTail_eq hhigh htextPercent,
      pieces_append_indexTail htextPercent, List.flatMap_append, hnew, hcases.elim id id,
      List.append_assoc, List.append_assoc, hstem]
    exact ne_of_append_percent hne hextension

theorem ne_of_marker_of_no_extension (hpercent : 0x25 ∉ localized) (htextPercent : 0x25 ∉ text)
    (h : ∃ number ∈ numbers (pieces stem), number ≤ 3) :
    QString.arg (QString.arg (stem ++ formatTail) text localized) [] [] ≠
      stem ++ (0x20 :: 0x28 :: (text ++ [0x29])) := by
  intro heq
  have hexpected : (stem ++ (0x20 :: 0x28 :: (text ++ [0x29]))).count 0x25 = stem.count 0x25 := by
    have htail : 0x25 ∉ (0x20 :: 0x28 :: (text ++ [0x29]) : QString) := by simpa using htextPercent
    rw [List.count_append, List.count_eq_zero.mpr htail, Nat.add_zero]
  have hnil : (0x25 : UInt16) ∉ [] := List.not_mem_nil
  by_cases hlow : ∃ number ∈ numbers (pieces stem), number ≤ 2
  · obtain ⟨number, hreplaced⟩ := exists_replaced text localized hlow
    obtain ⟨middle, hresult, hmiddle⟩ := hreplaced.exists_tail
    have hthree : 3 ∈ numbers (pieces (QString.arg (stem ++ formatTail) text localized)) := by
      rw [hresult, ← List.cons_append, ← List.cons_append, ← List.append_assoc]
      exact three_mem _
    obtain ⟨last, hlast, hleast, hthird⟩ := exists_arg_eq [] [] (List.ne_nil_of_mem hthree)
    by_cases htwo : number = 2
    · -- two markers numbered two and one more are gone
      subst htwo
      have hsecond := @count_substitute_pieces 2 text localized (stem ++ formatTail) htextPercent
        hpercent
      rw [← hreplaced.result_eq, pieces_append_formatTail, numbers_append, List.count_append,
        List.count_append] at hsecond
      have hcount := @count_substitute_pieces last [] []
        (QString.arg (stem ++ formatTail) text localized) hnil hnil
      rw [← hthird, heq, hexpected] at hcount
      have hstem := List.count_pos_iff.mpr hreplaced.mem
      have hfound := List.count_pos_iff.mpr hlast
      have htail : (numbers tailPieces).count 2 = 1 := by decide
      have hformat : formatTail.count 0x25 = 2 := by decide
      omega
    · -- the format's last marker stays at the end
      rw [hmiddle htwo] at hresult
      have hpieces := pieces_append_formatTail
        ((pieces stem).flatMap (ArgPiece.substitute number text localized))
      have hformat : formatTail = 0x20 :: 0x28 :: ([0x25, 0x32] ++ [0x29, 0x25, 0x33]) := by decide
      rw [hformat, ← hresult] at hpieces
      have htwoMem : 2 ∈ numbers (pieces (QString.arg (stem ++ formatTail) text localized)) := by
        rw [hpieces, numbers_append]
        exact List.mem_append_right _ (by decide)
      have hthree : (3 : Nat) ≠ last := by
        have hle := hleast 2 htwoMem
        omega
      have hlast : ArgPiece.substitute last [] [] (.marker ⟨false, 3, none⟩) = [0x25, 0x33] :=
        if_neg hthree
      rw [hthird, hpieces, List.flatMap_append] at heq
      simp only [tailPieces, List.flatMap_cons, List.flatMap_nil, hlast, List.append_nil] at heq
      have hends := congrArg List.getLast? heq
      simp [List.getLast?_append, List.getLast?_cons] at hends
  · have hhigh : ∀ number ∈ numbers (pieces stem), 2 < number := fun number hnumber =>
      Nat.lt_of_not_le fun hle => hlow ⟨number, hnumber, hle⟩
    obtain ⟨number, hnumber, hle⟩ := h
    obtain rfl : number = 3 := Nat.le_antisymm hle (hhigh number hnumber)
    -- the stem's marker and the extension's are gone
    have hcount := @count_substitute_pieces 3 [] [] (stem ++ indexTail text) hnil hnil
    rw [arg_formatTail hhigh] at heq
    rw [← arg_indexTail_eq hhigh htextPercent, heq, hexpected,
      pieces_append_indexTail htextPercent, numbers_append, numbers_append, numbers_map_plain,
      List.count_append, List.count_append, List.count_append] at hcount
    have hstem := List.count_pos_iff.mpr hnumber
    have htail : (indexTail text).count 0x25 = 1 := by
      have hfront : 0x25 ∉ (0x20 :: 0x28 :: text : QString) := by simpa using htextPercent
      show ((0x20 :: 0x28 :: text) ++ literal ")%3").count 0x25 = 1
      rw [List.count_append, List.count_eq_zero.mpr hfront]
      decide
    have hthree : (numbers [.marker ⟨false, 3, none⟩]).count 3 = 1 := by decide
    rw [List.count_nil, Nat.zero_add, hthree] at hcount
    omega

theorem renamedFileName_ne (locale : QLocale)
    (h : ∃ number ∈ numbers (pieces (splitName fileName).1), number ≤ 3) :
    renamedFileName locale.arg fileName 1 ≠ expectedName fileName 1 := by
  obtain ⟨localized, hne, hpercent, hindex⟩ := @exists_arg_indexText locale 1
  have hformat : locale.arg (literal "%1 (%2)%3") (splitName fileName).1 =
      (splitName fileName).1 ++ formatTail := arg_format _ _
  rw [renamedFileName_eq _ _ (by decide), arg_extension, hindex, hformat]
  unfold expectedName
  rcases splitName_extension fileName with hnil | ⟨tail, htail⟩
  · rw [hnil]
    exact ne_of_marker_of_no_extension hpercent (percent_not_mem_indexText 1) h
  · rw [htail]
    exact ne_of_marker_of_extension hne hpercent (by decide) (percent_not_mem_indexText 1)
      (List.cons_ne_nil _ _) (fun hhead => absurd (Option.some.inj hhead) (by decide)) h

theorem slash_not_mem_fileName (path : QString) : 0x2f ∉ ConflictResolver.fileName path := by
  unfold ConflictResolver.fileName
  rw [List.mem_reverse]
  intro hmem
  have hslash := List.mem_takeWhile_imp hmem
  rw [decide_eq_true_iff] at hslash
  exact hslash rfl

theorem fileName_append {path name : QString} (h : 0x2f ∉ name) :
    ConflictResolver.fileName (directoryOf path ++ name) = name := by
  have hname : ∀ unit ∈ name.reverse, decide (unit ≠ (0x2f : UInt16)) = true := by
    intro unit hunit
    exact decide_eq_true fun heq => h (heq ▸ List.mem_reverse.mp hunit)
  unfold ConflictResolver.fileName
  rw [List.reverse_append, List.takeWhile_append_of_pos hname]
  have hdirectory : (directoryOf path).reverse.takeWhile (· ≠ 0x2f) = [] := by
    obtain hnone | ⟨front, hfront⟩ := directoryOf_cases path
    · rw [hnone]
      rfl
    · rw [hfront, List.reverse_append]
      rfl
  rw [hdirectory, List.append_nil, List.reverse_reverse]

theorem slash_not_mem_expectedName (h : 0x2f ∉ fileName) :
    0x2f ∉ expectedName fileName index := by
  have hname : 0x2f ∉ (splitName fileName).1 ++ (splitName fileName).2 := by
    rwa [splitName_append]
  rw [List.mem_append, not_or] at hname
  have hindex := slash_not_mem_indexText index
  unfold expectedName
  simp [hname.1, hname.2, hindex]

theorem expectedName_injective (fileName : QString) :
    Function.Injective (expectedName fileName) := by
  intro left right h
  have hindex := List.append_cancel_left h
  rw [List.cons.injEq, List.cons.injEq] at hindex
  exact indexText_injective (List.append_cancel_right hindex.2.2)

structure RenamesWell (locale : QLocale) (target : QString) : Prop where
  name : ∀ index, 1 ≤ index →
    renamedFileName locale.arg (ConflictResolver.fileName target) index =
      expectedName (ConflictResolver.fileName target) index
  distinct : ∀ left right, 1 ≤ left → 1 ≤ right → left ≠ right →
    renamedFileName locale.arg (ConflictResolver.fileName target) left ≠
      renamedFileName locale.arg (ConflictResolver.fileName target) right
  same : ∀ index, 1 ≤ index →
    ConflictResolver.fileName (FileReceiver.autoRenameCandidate locale.arg target index) =
      renamedFileName locale.arg (ConflictResolver.fileName target) index

/-- The candidates are right exactly if every marker in the stem has a number above those of the
format. -/
theorem renamesWell_iff (locale : QLocale) (target : QString) :
    RenamesWell locale target ↔
      ∀ number ∈ numbers (pieces (splitName (ConflictResolver.fileName target)).1), 3 < number := by
  refine ⟨fun h number hnumber => ?_, fun h => ?_⟩
  · by_contra hlow
    exact renamedFileName_ne locale ⟨number, hnumber, Nat.le_of_not_lt hlow⟩
      (h.name 1 (Nat.le_refl 1))
  · have hname (index : Nat) (hindex : 1 ≤ index) :=
      @renamedFileName_of_markers _ locale index (Nat.ne_of_gt hindex) h
    refine ⟨hname, fun left right hleft hright hne => ?_, fun index hindex => ?_⟩
    · rw [hname left hleft, hname right hright]
      exact fun heq => hne (expectedName_injective _ heq)
    · unfold FileReceiver.autoRenameCandidate
      rw [if_neg (Nat.ne_of_gt hindex), hname index hindex]
      exact fileName_append (slash_not_mem_expectedName (slash_not_mem_fileName target))

def cLocale : QLocale where
  toText digits := digits
  ne_nil _ h := h
  percent_not_mem _ h := h

def markedName : QString := literal "report%1.txt"

theorem markedName_not_renamesWell :
    (PathPolicy.validateRelative QtText.ascii markedName).ok = true ∧
      renamedFileName cLocale.arg markedName 1 = literal "report1 (.txt)%3" ∧
      ¬ RenamesWell cLocale markedName := by
  have hname : renamedFileName cLocale.arg markedName 1 = literal "report1 (.txt)%3" := by
    decide +kernel
  refine ⟨by decide +kernel, hname, fun h => ?_⟩
  have hexpected := h.name 1 (Nat.le_refl 1)
  have hfile : ConflictResolver.fileName markedName = markedName := by decide
  rw [hfile, hname] at hexpected
  exact absurd hexpected (by decide +kernel)

end ConflictResolver

end DeskflowPlus.Transfer
