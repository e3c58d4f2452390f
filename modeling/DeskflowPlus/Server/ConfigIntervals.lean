import DeskflowPlus.Lib.FloatFormat

/-!
# Intervals in a configuration file

The two arguments of an edge are percentages. They are compared as `double` values, whose comparisons
never hold of values that are no numbers, and are kept as `float` fractions, of which two may be the
same where the percentages are not.
-/

namespace DeskflowPlus

/-- `double` and `float`, but for the sign of zero. -/
inductive Floating where
  | nan
  | infinite (negative : Bool)
  | finite (value : ℚ)
  deriving DecidableEq

namespace Floating

def lt : Floating → Floating → Bool
  | finite a, finite b => a < b
  | infinite negative, finite _ => negative
  | finite _, infinite negative => !negative
  | infinite negative, infinite negative' => negative && !negative'
  | nan, _ => false
  | _, nan => false

def le (a b : Floating) : Bool := a.lt b || a ≠ nan && a = b

@[simp]
theorem lt_finite {a b : ℚ} : (finite a).lt (finite b) = true ↔ a < b := decide_eq_true_iff

@[simp]
theorem le_finite {a b : ℚ} : (finite a).le (finite b) = true ↔ a ≤ b := by
  unfold le
  rw [Bool.or_eq_true, lt_finite, Bool.and_eq_true, decide_eq_true_iff, decide_eq_true_iff,
    finite.injEq, and_iff_right nofun, le_iff_lt_or_eq]

@[simp]
theorem le_nan {a : Floating} : a.le nan = false := by
  cases a <;> rfl

@[simp]
theorem nan_le {a : Floating} : nan.le a = false := by
  cases a <;> rfl

def roundSigned (format : FloatFormat) (value : ℚ) : ℚ :=
  if value < 0 then -format.round (-value) else format.round value

/-- `value / 100.0f` of a `double`. -/
def percent : Floating → Floating
  | finite value => finite (roundSigned .binary64 (value / 100))
  | value => value

/-- `static_cast<float>(value)`. -/
def toSingle : Floating → Floating
  | finite value =>
    let rounded := roundSigned .binary32 value
    if |rounded| < 2 ^ 128 then finite rounded else infinite (rounded < 0)
  | value => value

end Floating

/-- `std::string::c_str`, as a function of the C library sees it. -/
def cString (text : String) : List Char := text.toList.takeWhile (· ≠ '\x00')

namespace ConfigReadContext

def concatArgs (args : List String) : String := "(" ++ ",".intercalate args ++ ")"

def invalidInterval (args : List String) : String := "invalid interval \"" ++ concatArgs args ++ "\""

/-- With the number that `strtod` finds and the text behind it. -/
def parseInterval (strtod : List Char → Floating × List Char) (args : List String) :
    Except String (Floating × Floating) :=
  match args with
  | [] => .ok (.finite 0, .finite 1)
  | [first, second] =>
    if first = "" ∨ second = "" then .error (invalidInterval args)
    else
      let startValue := strtod (cString first)
      if startValue.2 ≠ [] then .error (invalidInterval args)
      else
        let endValue := strtod (cString second)
        if endValue.2 ≠ [] then .error (invalidInterval args)
        else if startValue.1.lt (.finite 0) ∨ Floating.lt (.finite 100) startValue.1 ∨
            endValue.1.lt (.finite 0) ∨ Floating.lt (.finite 100) endValue.1 ∨
            endValue.1.le startValue.1 then .error (invalidInterval args)
        else .ok (startValue.1.percent.toSingle, endValue.1.percent.toSingle)
  | _ => .error (invalidInterval args)

end ConfigReadContext

/-- What `CellEdge` asserts of its interval. -/
def UsableInterval (interval : Floating × Floating) : Prop :=
  Floating.le (.finite 0) interval.1 = true ∧ interval.2.le (.finite 1) = true ∧
    interval.1.lt interval.2 = true

/-- No single-precision number is nearest to both percentages' fractions. -/
def Distinguishable (startValue endValue : ℚ) : Prop :=
  ¬ ∃ number, FloatFormat.binary32.RoundsTo (FloatFormat.binary64.round (startValue / 100)) number ∧
    FloatFormat.binary32.RoundsTo (FloatFormat.binary64.round (endValue / 100)) number

namespace ConfigReadContext

open FloatFormat

variable {strtod : List Char → Floating × List Char} {args : List String}
  {interval : Floating × Floating} {value startValue endValue : ℚ}

theorem round_fraction {format : FloatFormat} (hmin : format.minExponent ≤ 0) (hlow : 0 ≤ value)
    (hhigh : value ≤ 1) : 0 ≤ format.round value ∧ format.round value ≤ 1 := by
  have hzero := @round_mono format 0 value le_rfl hlow
  have hone := @round_mono format value 1 hlow hhigh
  rw [round_of_isNumber isNumber_zero] at hzero
  rw [round_of_isNumber (isNumber_one hmin)] at hone
  exact ⟨hzero, hone⟩

theorem round_percent (hlow : 0 ≤ value) (hhigh : value ≤ 100) :
    0 ≤ binary64.round (value / 100) ∧ binary64.round (value / 100) ≤ 1 := by
  refine round_fraction (by decide) (by positivity) ?_
  rwa [div_le_one (by norm_num)]

theorem toSingle_percent (hlow : 0 ≤ value) (hhigh : value ≤ 100) :
    (Floating.finite value).percent.toSingle =
      .finite (binary32.round (binary64.round (value / 100))) := by
  obtain ⟨hlow64, hhigh64⟩ := round_percent hlow hhigh
  obtain ⟨hlow32, hhigh32⟩ := @round_fraction _ binary32 (by decide) hlow64 hhigh64
  have hpercent : (Floating.finite value).percent = .finite (binary64.round (value / 100)) := by
    have hpositive : 0 ≤ value / 100 := by positivity
    unfold Floating.percent Floating.roundSigned
    dsimp only
    rw [if_neg hpositive.not_gt]
  rw [hpercent]
  unfold Floating.toSingle Floating.roundSigned
  dsimp only
  rw [if_neg (not_lt.mpr hlow64), abs_of_nonneg hlow32, if_pos (by linarith)]

theorem usable_of_finite (hstart : 0 ≤ startValue) (hless : startValue < endValue)
    (hend : endValue ≤ 100) :
    UsableInterval ((Floating.finite startValue).percent.toSingle,
      (Floating.finite endValue).percent.toSingle) ↔ Distinguishable startValue endValue := by
  have hstart' : startValue ≤ 100 := hless.le.trans hend
  have hend' : 0 ≤ endValue := hstart.trans hless.le
  obtain ⟨hlow, hhigh⟩ := round_percent hstart hstart'
  obtain ⟨hlow', hhigh'⟩ := round_percent hend' hend
  have hfirst := (@round_fraction _ binary32 (by decide) hlow hhigh).1
  have hsecond := (@round_fraction _ binary32 (by decide) hlow' hhigh').2
  have hquotient : binary64.round (startValue / 100) ≤ binary64.round (endValue / 100) := by
    refine round_mono (by positivity) ?_
    gcongr
  have hmono := @round_mono binary32 _ _ hlow hquotient
  rw [toSingle_percent hstart hstart', toSingle_percent hend' hend]
  rw [UsableInterval, Floating.le_finite, Floating.le_finite, Floating.lt_finite]
  constructor
  · rintro ⟨-, -, hdiffer⟩ ⟨number, hnumber, hnumber'⟩
    rw [(round_eq_iff hlow).mpr hnumber, (round_eq_iff hlow').mpr hnumber'] at hdiffer
    exact lt_irrefl _ hdiffer
  · intro hdistinguished
    refine ⟨hfirst, hsecond, hmono.lt_of_ne fun hsame => hdistinguished ?_⟩
    exact ⟨_, roundsTo_round hlow, hsame ▸ roundsTo_round hlow'⟩

theorem usable_of_accepted {first second : Floating}
    (hrange : ¬ (first.lt (.finite 0) ∨ Floating.lt (.finite 100) first ∨ second.lt (.finite 0) ∨
      Floating.lt (.finite 100) second ∨ second.le first)) :
    UsableInterval (first.percent.toSingle, second.percent.toSingle) ↔ ∃ startValue endValue,
      [first, second] = [.finite startValue, .finite endValue] ∧
        Distinguishable startValue endValue := by
  rw [not_or, not_or, not_or, not_or] at hrange
  obtain ⟨hlow, hhigh, hlow', hhigh', horder⟩ := hrange
  rcases first with _ | negative | a
  · exact iff_of_false (fun h => Bool.false_ne_true (Floating.le_nan.symm.trans h.1)) nofun
  · cases negative
    · exact absurd rfl hhigh
    · exact absurd rfl hlow
  rcases second with _ | negative | b
  · exact iff_of_false (fun h => Bool.false_ne_true (Floating.nan_le.symm.trans h.2.1)) nofun
  · cases negative
    · exact absurd rfl hhigh'
    · exact absurd rfl hlow'
  rw [Floating.lt_finite, not_lt] at hlow hhigh'
  rw [Floating.le_finite, not_le] at horder
  rw [usable_of_finite hlow horder hhigh']
  constructor
  · exact fun hdistinguished => ⟨a, b, rfl, hdistinguished⟩
  · rintro ⟨_, _, hvalues, hdistinguished⟩
    cases hvalues
    exact hdistinguished

/-- **Intervals.** One that is accepted is usable just if it is given by default or by two numbers
that single precision distinguishes. -/
theorem usable_iff (strtod : List Char → Floating × List Char) (args : List String)
    (interval : Floating × Floating) (h : parseInterval strtod args = .ok interval) :
    UsableInterval interval ↔ args = [] ∨ ∃ startValue endValue,
      args.map (fun arg => (strtod (cString arg)).1) = [.finite startValue, .finite endValue] ∧
        Distinguishable startValue endValue := by
  unfold parseInterval at h
  split at h
  · obtain rfl := Except.ok.inj h
    refine iff_of_true ?_ (.inl rfl)
    rw [UsableInterval, Floating.le_finite, Floating.le_finite, Floating.lt_finite]
    exact ⟨le_rfl, le_rfl, one_pos⟩
  · rename_i first second
    dsimp only at h
    split_ifs at h with hempty hrest hrest' hrange
    obtain rfl := Except.ok.inj h
    rw [or_iff_right (List.cons_ne_nil _ _)]
    exact usable_of_accepted hrange
  · cases h

def parseWords (text : List Char) : Floating × List Char :=
  if text = "nan".toList then (.nan, []) else (.finite 50, [])

theorem usable_iff_words : UsableInterval (.nan, (Floating.finite 50).percent.toSingle) ↔
    ["nan", "50"] = [] ∨ ∃ startValue endValue,
      ["nan", "50"].map (fun arg => (parseWords (cString arg)).1) =
        [.finite startValue, .finite endValue] ∧ Distinguishable startValue endValue :=
  usable_iff parseWords ["nan", "50"] _ rfl

/-- A start that is no number is accepted. -/
theorem nan_accepted : parseInterval parseWords ["nan", "50"] =
      .ok (.nan, (Floating.finite 50).percent.toSingle) ∧
    ¬ UsableInterval (.nan, (Floating.finite 50).percent.toSingle) :=
  ⟨rfl, fun h => Bool.false_ne_true (Floating.le_nan.symm.trans h.1)⟩

end ConfigReadContext

end DeskflowPlus
