import DeskflowPlus.Transfer.QtTypes
import Mathlib.Data.List.MinMax

/-!
# Place markers in strings

A place marker is a percent sign, possibly a capital L, and one or two digits. `QString::arg` reads
its whole string for markers, those that came in with earlier arguments included, and replaces all
that have the lowest number.
-/

namespace DeskflowPlus.Transfer.QString

def qArgDigitValue (unit : UInt16) : Option (Fin 10) :=
  if h : 0x30 ≤ unit ∧ unit ≤ 0x39 then
    some ⟨unit.toNat - 0x30, by
      have hupper := UInt16.le_iff_toNat_le.mp h.2
      have hvalue : (0x39 : UInt16).toNat = 0x39 := rfl
      omega⟩
  else none

def argDigit (digit : Fin 10) : UInt16 := UInt16.ofNat (0x30 + digit.val)

structure ArgMarker where
  localized : Bool
  first : Fin 10
  second : Option (Fin 10)
  deriving DecidableEq

def ArgMarker.number (marker : ArgMarker) : Nat :=
  match marker.second with
  | none => marker.first.val
  | some second => 10 * marker.first.val + second.val

/-- The marker without its percent sign. -/
def ArgMarker.body (marker : ArgMarker) : QString :=
  (if marker.localized then [0x4c] else []) ++
    argDigit marker.first :: marker.second.toList.map argDigit

def ArgMarker.spelling (marker : ArgMarker) : QString := 0x25 :: marker.body

def readDigits (localized : Bool) : QString → Option ArgMarker
  | [] => none
  | first :: rest => (qArgDigitValue first).map fun first =>
    { localized, first, second := rest.head?.bind qArgDigitValue }

def readMarker : QString → Option ArgMarker
  | [] => none
  | unit :: rest =>
    if unit ≠ 0x25 then none
    else if rest.head? = some 0x4c then readDigits true rest.tail
    else readDigits false rest

inductive ArgPiece where
  | plain (unit : UInt16)
  | marker (marker : ArgMarker)
  deriving DecidableEq

namespace ArgPiece

def spelling : ArgPiece → QString
  | .plain unit => [unit]
  | .marker found => found.spelling

def number? : ArgPiece → Option Nat
  | .plain _ => none
  | .marker found => some found.number

def substitute (number : Nat) (text localized : QString) : ArgPiece → QString
  | .plain unit => [unit]
  | .marker found =>
    if found.number = number then if found.localized then localized else text
    else found.spelling

end ArgPiece

def piecesFrom : Nat → QString → List ArgPiece
  | _, [] => []
  | skip + 1, _ :: rest => piecesFrom skip rest
  | 0, unit :: rest =>
    match readMarker (unit :: rest) with
    | some marker => .marker marker :: piecesFrom marker.body.length rest
    | none => .plain unit :: piecesFrom 0 rest

def pieces (text : QString) : List ArgPiece := piecesFrom 0 text

def spelled (parts : List ArgPiece) : QString := parts.flatMap ArgPiece.spelling

def numbers (parts : List ArgPiece) : List Nat := parts.filterMap ArgPiece.number?

/-- `QString::arg`, for a text or for a number with its form in the locale. -/
def arg (format text localized : QString) : QString :=
  match (numbers (pieces format)).min? with
  | none => format
  | some number => (pieces format).flatMap (ArgPiece.substitute number text localized)

theorem eq_argDigit {unit : UInt16} {digit : Fin 10} (h : qArgDigitValue unit = some digit) :
    unit = argDigit digit := by
  unfold qArgDigitValue at h
  split at h
  · rename_i hrange
    have hlower : 0x30 ≤ unit.toNat := UInt16.le_iff_toNat_le.mp hrange.1
    obtain rfl := Option.some.inj h
    unfold argDigit
    dsimp only
    rw [Nat.add_sub_cancel' hlower, UInt16.ofNat_toNat]
  · cases h

theorem argDigit_ne_percent (digit : Fin 10) : argDigit digit ≠ 0x25 := by
  revert digit
  decide

theorem percent_not_mem_body (marker : ArgMarker) : (0x25 : UInt16) ∉ marker.body := by
  intro h
  unfold ArgMarker.body at h
  rcases List.mem_append.mp h with hlocal | hdigits
  · split at hlocal
    · exact absurd (List.mem_singleton.mp hlocal) (by decide)
    · cases hlocal
  · rcases List.mem_cons.mp hdigits with hfirst | hsecond
    · exact argDigit_ne_percent _ hfirst.symm
    · obtain ⟨digit, -, hdigit⟩ := List.mem_map.mp hsecond
      exact argDigit_ne_percent digit hdigit

variable {text : QString} {marker : ArgMarker}

theorem exists_of_readDigits {localized : Bool} (h : readDigits localized text = some marker) :
    marker.localized = localized ∧ ∃ rest,
      text = argDigit marker.first :: (marker.second.toList.map argDigit ++ rest) := by
  cases text with
  | nil => cases h
  | cons unit rest =>
    obtain ⟨first, hfirst, rfl⟩ := Option.map_eq_some_iff.mp h
    refine ⟨rfl, ?_⟩
    rw [eq_argDigit hfirst]
    cases rest with
    | nil => exact ⟨[], rfl⟩
    | cons next rest =>
      show ∃ tail, _ = argDigit first :: ((qArgDigitValue next).toList.map argDigit ++ tail)
      cases hnext : qArgDigitValue next with
      | none => exact ⟨next :: rest, rfl⟩
      | some second =>
        rw [eq_argDigit hnext]
        exact ⟨rest, rfl⟩

theorem exists_of_readMarker (h : readMarker text = some marker) :
    ∃ rest, text = marker.spelling ++ rest := by
  cases text with
  | nil => cases h
  | cons unit rest =>
    rw [readMarker] at h
    split at h
    · cases h
    · rename_i hunit
      rw [not_not.mp hunit]
      split at h
      · rename_i hlocal
        obtain ⟨hlocalized, tail, htail⟩ := exists_of_readDigits h
        refine ⟨tail, ?_⟩
        rw [List.eq_cons_of_mem_head? hlocal, htail, ArgMarker.spelling, ArgMarker.body, hlocalized]
        rfl
      · obtain ⟨hlocalized, tail, htail⟩ := exists_of_readDigits h
        refine ⟨tail, ?_⟩
        rw [htail, ArgMarker.spelling, ArgMarker.body, hlocalized]
        rfl

def EndsMarkers (text : QString) : Prop :=
  ∀ unit, text.head? = some unit → unit ≠ 0x4c ∧ qArgDigitValue unit = none

theorem readDigits_append {localized : Bool} {tail : QString} (h : EndsMarkers tail) :
    readDigits localized (text ++ tail) = readDigits localized text := by
  cases text with
  | nil =>
    cases tail with
    | nil => rfl
    | cons unit tail =>
      have hunit : qArgDigitValue unit = none := (h unit rfl).2
      show (qArgDigitValue unit).map _ = none
      rw [hunit]
      rfl
  | cons first rest =>
    cases rest with
    | cons second rest => rfl
    | nil =>
      cases tail with
      | nil => rfl
      | cons unit tail =>
        have hunit : (unit :: tail).head?.bind qArgDigitValue = none := (h unit rfl).2
        rw [List.singleton_append, readDigits, readDigits, hunit]
        rfl

theorem readMarker_append {unit : UInt16} {rest tail : QString} (h : EndsMarkers tail) :
    readMarker (unit :: (rest ++ tail)) = readMarker (unit :: rest) := by
  rw [readMarker, readMarker, readDigits_append h]
  cases rest with
  | nil =>
    have hlocal : ([] ++ tail : QString).head? ≠ some 0x4c := fun hhead => (h _ hhead).1 rfl
    rw [if_neg hlocal]
    rfl
  | cons next rest =>
    have htail : readDigits true (next :: rest ++ tail).tail = readDigits true rest :=
      readDigits_append h
    rw [htail]
    rfl

theorem piecesFrom_eq_drop (skip : Nat) (text : QString) :
    piecesFrom skip text = pieces (text.drop skip) := by
  induction text generalizing skip with
  | nil =>
    cases skip with
    | zero => rfl
    | succ skip => rfl
  | cons unit rest ih =>
    cases skip with
    | zero => rfl
    | succ skip => exact ih skip

@[simp]
theorem pieces_nil : pieces [] = [] := rfl

theorem pieces_plain {unit : UInt16} {rest : QString} (h : readMarker (unit :: rest) = none) :
    pieces (unit :: rest) = .plain unit :: pieces rest := by
  rw [pieces, piecesFrom, h, pieces]

theorem pieces_marker {rest : QString} (h : readMarker (marker.spelling ++ rest) = some marker) :
    pieces (marker.spelling ++ rest) = .marker marker :: pieces rest := by
  have hspelling : marker.spelling ++ rest = 0x25 :: (marker.body ++ rest) := rfl
  rw [hspelling] at h ⊢
  rw [pieces, piecesFrom, h]
  dsimp only
  rw [piecesFrom_eq_drop, List.drop_left]

theorem pieces_rec {motive : QString → Prop} (nil : motive [])
    (plain : ∀ unit rest, readMarker (unit :: rest) = none → motive rest → motive (unit :: rest))
    (marker : ∀ (marker : ArgMarker) rest, readMarker (marker.spelling ++ rest) = some marker →
      motive rest → motive (marker.spelling ++ rest))
    (text : QString) : motive text := by
  induction hlength : text.length using Nat.strong_induction_on generalizing text with
  | _ length ih =>
    subst hlength
    cases text with
    | nil => exact nil
    | cons unit rest =>
      cases hread : readMarker (unit :: rest) with
      | none => exact plain unit rest hread (ih rest.length (Nat.lt_succ_self _) rest rfl)
      | some found =>
        obtain ⟨tail, htail⟩ := exists_of_readMarker hread
        rw [htail] at hread ⊢
        refine marker found tail hread (ih tail.length ?_ tail rfl)
        rw [htail, ArgMarker.spelling, List.cons_append, List.length_cons, List.length_append]
        omega

@[simp]
theorem spelled_pieces (text : QString) : spelled (pieces text) = text := by
  induction text using pieces_rec with
  | nil => rfl
  | plain unit rest hread ih =>
    rw [pieces_plain hread]
    exact congrArg (unit :: ·) ih
  | marker marker rest hread ih =>
    rw [pieces_marker hread]
    exact congrArg (marker.spelling ++ ·) ih

theorem pieces_append {tail : QString} (h : EndsMarkers tail) (text : QString) :
    pieces (text ++ tail) = pieces text ++ pieces tail := by
  induction text using pieces_rec with
  | nil => rfl
  | plain unit rest hread ih =>
    have hread' : readMarker (unit :: (rest ++ tail)) = none := (readMarker_append h).trans hread
    rw [List.cons_append, pieces_plain hread', pieces_plain hread, ih, List.cons_append]
  | marker marker rest hread ih =>
    have hread' : readMarker (marker.spelling ++ (rest ++ tail)) = some marker := by
      rw [← List.append_assoc]
      exact (readMarker_append h).trans hread
    rw [List.append_assoc, pieces_marker hread', pieces_marker hread, ih, List.cons_append]

theorem pieces_append_of_not_mem (h : 0x25 ∉ text) (tail : QString) :
    pieces (text ++ tail) = text.map ArgPiece.plain ++ pieces tail := by
  induction text with
  | nil => rfl
  | cons unit rest ih =>
    obtain ⟨hunit, hrest⟩ := List.ne_and_not_mem_of_not_mem_cons h
    have hread : readMarker (unit :: (rest ++ tail)) = none := if_pos hunit.symm
    rw [List.cons_append, pieces_plain hread, ih hrest]
    rfl

section Arg

variable {parts : List ArgPiece} {number : Nat} {text localized : QString}

@[simp]
theorem numbers_nil : numbers [] = [] := rfl

@[simp]
theorem numbers_append (front back : List ArgPiece) :
    numbers (front ++ back) = numbers front ++ numbers back :=
  List.filterMap_append

@[simp]
theorem numbers_map_plain (units : QString) : numbers (units.map ArgPiece.plain) = [] := by
  induction units with
  | nil => rfl
  | cons unit units ih => exact ih

@[simp]
theorem spelled_map_plain (units : QString) : spelled (units.map ArgPiece.plain) = units := by
  induction units with
  | nil => rfl
  | cons unit units ih => exact congrArg (unit :: ·) ih

theorem flatMap_substitute_of_not_mem (h : number ∉ numbers parts) :
    parts.flatMap (ArgPiece.substitute number text localized) = spelled parts := by
  induction parts with
  | nil => rfl
  | cons part parts ih =>
    cases part with
    | plain unit => exact congrArg (unit :: ·) (ih h)
    | marker marker =>
      obtain ⟨hmarker, hparts⟩ := List.ne_and_not_mem_of_not_mem_cons
        (show number ∉ marker.number :: numbers parts from h)
      have hsame : ArgPiece.substitute number text localized (.marker marker) = marker.spelling :=
        if_neg hmarker.symm
      rw [List.flatMap_cons, hsame, ih hparts]
      rfl

theorem arg_eq {format : QString} (hmem : number ∈ numbers (pieces format))
    (hleast : ∀ other ∈ numbers (pieces format), number ≤ other) :
    arg format text localized =
      (pieces format).flatMap (ArgPiece.substitute number text localized) := by
  have hmin : (numbers (pieces format)).min? = some number :=
    List.min?_eq_some_iff.mpr ⟨hmem, hleast⟩
  rw [arg, hmin]

theorem exists_first_replaced (h : number ∈ numbers parts) :
    ∃ front back new rest, spelled parts = front ++ 0x25 :: back ∧
      parts.flatMap (ArgPiece.substitute number text localized) = front ++ (new ++ rest) ∧
      (new = text ∨ new = localized) := by
  induction parts with
  | nil => cases h
  | cons part parts ih =>
    cases part with
    | plain unit =>
      obtain ⟨front, back, new, rest, hfront, hnew, hcases⟩ := ih h
      exact ⟨unit :: front, back, new, rest, congrArg (unit :: ·) hfront,
        congrArg (unit :: ·) hnew, hcases⟩
    | marker marker =>
      by_cases hnumber : marker.number = number
      · refine ⟨[], marker.body ++ spelled parts,
          ArgPiece.substitute number text localized (.marker marker), _, rfl, rfl, ?_⟩
        rw [ArgPiece.substitute, if_pos hnumber]
        split
        · exact .inr rfl
        · exact .inl rfl
      · have hparts : number ∈ numbers parts := List.mem_of_ne_of_mem (Ne.symm hnumber) h
        obtain ⟨front, back, new, rest, hfront, hnew, hcases⟩ := ih hparts
        have hsame : ArgPiece.substitute number text localized (.marker marker) =
            marker.spelling := if_neg hnumber
        refine ⟨marker.spelling ++ front, back, new, rest, ?_, ?_, hcases⟩
        · rw [List.append_assoc, ← hfront]
          rfl
        · rw [List.flatMap_cons, hsame, hnew, List.append_assoc]

theorem count_substitute (htext : 0x25 ∉ text) (hlocalized : 0x25 ∉ localized) :
    (parts.flatMap (ArgPiece.substitute number text localized)).count 0x25 +
      (numbers parts).count number = (spelled parts).count 0x25 := by
  induction parts with
  | nil => rfl
  | cons part parts ih =>
    cases part with
    | plain unit =>
      show (unit :: parts.flatMap _).count 0x25 + (numbers parts).count number =
        (unit :: spelled parts).count 0x25
      rw [List.count_cons, List.count_cons]
      omega
    | marker marker =>
      have hspelling : marker.spelling.count 0x25 = 1 := by
        rw [ArgMarker.spelling, List.count_cons_self,
          List.count_eq_zero.mpr (percent_not_mem_body marker)]
      show (ArgPiece.substitute number text localized (.marker marker) ++ parts.flatMap _).count
        0x25 + (marker.number :: numbers parts).count number =
          (marker.spelling ++ spelled parts).count 0x25
      rw [List.count_append, List.count_append, hspelling]
      by_cases hnumber : marker.number = number
      · have hnone : (ArgPiece.substitute number text localized (.marker marker)).count 0x25 =
            0 := by
          rw [ArgPiece.substitute, if_pos hnumber]
          split
          · exact List.count_eq_zero.mpr hlocalized
          · exact List.count_eq_zero.mpr htext
        rw [hnone, hnumber, List.count_cons_self]
        omega
      · have hsame : ArgPiece.substitute number text localized (.marker marker) =
            marker.spelling := if_neg hnumber
        rw [hsame, hspelling, List.count_cons_of_ne hnumber]
        omega

theorem exists_arg_eq {format : QString} (text localized : QString)
    (h : numbers (pieces format) ≠ []) :
    ∃ number ∈ numbers (pieces format), (∀ other ∈ numbers (pieces format), number ≤ other) ∧
      arg format text localized =
        (pieces format).flatMap (ArgPiece.substitute number text localized) := by
  obtain ⟨number, hnumber⟩ := Option.ne_none_iff_exists'.mp (mt List.min?_eq_none_iff.mp h)
  obtain ⟨hmem, hleast⟩ := List.min?_eq_some_iff.mp hnumber
  exact ⟨number, hmem, hleast, arg_eq hmem hleast⟩

theorem count_substitute_pieces {format : QString} (htext : 0x25 ∉ text)
    (hlocalized : 0x25 ∉ localized) :
    ((pieces format).flatMap (ArgPiece.substitute number text localized)).count 0x25 +
      (numbers (pieces format)).count number = format.count 0x25 := by
  rw [count_substitute htext hlocalized, spelled_pieces]

end Arg

end DeskflowPlus.Transfer.QString
