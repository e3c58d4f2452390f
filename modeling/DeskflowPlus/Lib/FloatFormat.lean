import Mathlib.Algebra.Order.Floor.Ring
import Mathlib.Algebra.Order.Round
import Mathlib.Data.Int.Log
import Mathlib.Data.Rat.Floor
import Mathlib.Tactic.FieldSimp
import Mathlib.Tactic.Linarith
import Mathlib.Tactic.Positivity

/-!
# Rounding to floating-point numbers

A format has numbers of so many binary digits, whose last place has at least some exponent. Rounding
takes a number that is not negative to the nearest one of the format, and a tie to the even one. It
is the only one that is nearest in this sense, and so rounding is monotone and keeps the numbers of
the format.
-/

structure FloatFormat where
  precision : Nat
  minExponent : Int
  two_le_precision : 2 ≤ precision

namespace FloatFormat

def binary32 : FloatFormat := { precision := 24, minExponent := -149, two_le_precision := by decide }

def binary64 : FloatFormat := { precision := 53, minExponent := -1074, two_le_precision := by decide }

variable (format : FloatFormat)

/-- Of the last place of numbers about as large. -/
def exponent (x : ℚ) : Int := max (Int.log 2 x + 1 - format.precision) format.minExponent

def lastPlace (x : ℚ) : ℚ := 2 ^ format.exponent x

def IsNumber (x : ℚ) : Prop := 0 ≤ x ∧ ∃ digits : ℤ, x = digits * format.lastPlace x

def IsEven (x : ℚ) : Prop := ∃ digits : ℤ, Even digits ∧ x = digits * format.lastPlace x

/-- Of all numbers the nearest, or as near as one other and even. -/
def RoundsTo (x rounded : ℚ) : Prop :=
  format.IsNumber rounded ∧ ∀ other, format.IsNumber other → other ≠ rounded →
    |x - rounded| < |x - other| ∨
      |x - rounded| = |x - other| ∧ format.IsEven rounded ∧ ¬ format.IsEven other

/-- To an integer, and from the middle to the even one. -/
def halfEven (x : ℚ) : ℤ :=
  if x - ⌊x⌋ < 1 / 2 ∨ x - ⌊x⌋ = 1 / 2 ∧ Even ⌊x⌋ then ⌊x⌋ else ⌊x⌋ + 1

def round (x : ℚ) : ℚ := halfEven (x / format.lastPlace x) * format.lastPlace x

variable {x y : ℚ}

theorem abs_sub_halfEven : |x - halfEven x| ≤ 1 / 2 := by
  have hfloor := Int.floor_le x
  have hceil := Int.lt_floor_add_one x
  unfold halfEven
  rw [abs_le]
  split_ifs with h
  · have hbelow : x - ⌊x⌋ ≤ 1 / 2 := h.elim le_of_lt fun h => h.1.le
    constructor <;> linarith
  · have habove : 1 / 2 ≤ x - ⌊x⌋ := not_lt.mp fun hlt => h (.inl hlt)
    push_cast
    constructor <;> linarith

theorem even_halfEven (h : |x - halfEven x| = 1 / 2) : Even (halfEven x) := by
  unfold halfEven at h ⊢
  have hfloor := Int.floor_le x
  split_ifs at h ⊢ with hdown
  · rw [abs_of_nonneg (sub_nonneg.mpr hfloor)] at h
    exact (hdown.resolve_left h.not_lt).2
  · have hceil := Int.lt_floor_add_one x
    push_cast at h
    rw [abs_of_neg (by linarith)] at h
    have hodd : ¬ Even ⌊x⌋ := fun heven => hdown (.inr ⟨by linarith, heven⟩)
    exact Int.not_even_iff_odd.mp hodd |>.add_one

/-- No other integer is nearer, and only an odd one is as near. -/
theorem halfEven_nearest {other : ℤ} (hother : other ≠ halfEven x) :
    |x - halfEven x| < |x - other| ∨
      |x - halfEven x| = |x - other| ∧ Even (halfEven x) ∧ ¬ Even other := by
  have hhalf := @abs_sub_halfEven x
  have hapart : (1 : ℚ) ≤ |(halfEven x : ℚ) - other| := by
    rw [← Int.cast_sub, ← Int.cast_abs]
    exact_mod_cast Int.one_le_abs (sub_ne_zero.mpr hother.symm)
  have htriangle : |(halfEven x : ℚ) - other| ≤ |x - halfEven x| + |x - other| := by
    rw [abs_sub_comm x (halfEven x)]
    calc |(halfEven x : ℚ) - other| = |(halfEven x - x) + (x - other)| := by ring_nf
      _ ≤ |halfEven x - x| + |x - other| := abs_add_le _ _
  rcases lt_or_ge |x - halfEven x| |x - other| with hnearer | hfarther
  · exact .inl hnearer
  · have hmiddle : |x - halfEven x| = 1 / 2 := by linarith
    have hsame : |x - halfEven x| = |x - other| := by linarith
    have heven := even_halfEven hmiddle
    refine .inr ⟨hsame, heven, fun hevenOther => ?_⟩
    have hbeside : |(halfEven x : ℚ) - other| ≤ 1 := by linarith
    rw [← Int.cast_sub, ← Int.cast_abs] at hbeside
    have hbeside : |halfEven x - other| ≤ 1 := by exact_mod_cast hbeside
    rw [abs_le] at hbeside
    obtain ⟨a, ha⟩ := heven
    obtain ⟨b, hb⟩ := hevenOther
    omega

variable {format}

theorem lastPlace_pos : 0 < format.lastPlace x := zpow_pos two_pos _

theorem lt_pow_mul_lastPlace : x < 2 ^ format.precision * format.lastPlace x := by
  have hlog : x < (2 : ℚ) ^ (Int.log 2 x + 1) := Int.lt_zpow_succ_log_self one_lt_two x
  refine hlog.trans_le ?_
  rw [lastPlace, ← zpow_natCast, ← zpow_add₀ two_ne_zero]
  have hexponent := le_max_left (Int.log 2 x + 1 - format.precision) format.minExponent
  exact zpow_le_zpow_right₀ one_le_two (by unfold exponent; omega)

/-- Digits in front of a last place that is not too low. -/
theorem exponent_le {e digits : ℤ} (hmin : format.minExponent ≤ e) (hpositive : 0 < digits)
    (hdigits : digits < 2 ^ format.precision) : format.exponent (digits * 2 ^ e) ≤ e := by
  have hvalue : (digits * 2 ^ e : ℚ) < (2 : ℚ) ^ (format.precision + e) := by
    rw [zpow_add₀ two_ne_zero, zpow_natCast]
    have hdigits : (digits : ℚ) < 2 ^ format.precision := by exact_mod_cast hdigits
    have hpower : (0 : ℚ) < 2 ^ e := zpow_pos two_pos _
    gcongr
  have hpositive : (0 : ℚ) < digits * 2 ^ e := by
    have hdigits : (0 : ℚ) < digits := by exact_mod_cast hpositive
    exact mul_pos hdigits (zpow_pos two_pos _)
  have hlog := (Int.lt_zpow_iff_log_lt one_lt_two hpositive).mp (by exact_mod_cast hvalue)
  exact max_le (by omega) hmin

theorem exponent_mono {a b : ℚ} (hpositive : 0 < a) (h : a ≤ b) : format.exponent a ≤ format.exponent b := by
  have hlog := Int.log_mono_right (b := 2) hpositive h
  exact max_le_max (by omega) le_rfl

/-- A coarser place is made of finer ones. -/
theorem zpow_eq_mul {e e' : ℤ} (h : e ≤ e') : (2 : ℚ) ^ e' = ((2 ^ (e' - e).toNat : ℤ) : ℚ) * 2 ^ e := by
  have hsum : e' = ((e' - e).toNat : ℤ) + e := by omega
  conv_lhs => rw [hsum]
  rw [zpow_add₀ two_ne_zero, zpow_natCast]
  norm_cast

theorem exists_digits {e digits : ℤ} (hmin : format.minExponent ≤ e) (hpositive : 0 ≤ digits)
    (hdigits : digits ≤ 2 ^ format.precision) :
    ∃ own : ℤ, (digits * 2 ^ e : ℚ) = own * format.lastPlace (digits * 2 ^ e) ∧
      (Even digits → Even own) := by
  rcases hpositive.eq_or_lt with rfl | hpositive
  · exact ⟨0, by simp, id⟩
  rcases hdigits.eq_or_lt with rfl | hdigits
  · obtain ⟨low, hlow⟩ := Nat.exists_eq_add_of_le format.two_le_precision
    have hvalue : (((2 ^ format.precision : ℤ) : ℚ) * 2 ^ e) = (2 : ℚ) ^ (format.precision + e) := by
      rw [zpow_add₀ two_ne_zero, zpow_natCast]
      norm_cast
    have hexponent : format.exponent ((2 : ℚ) ^ (format.precision + e)) = e + 1 := by
      unfold exponent
      have hlog := @Int.log_zpow ℚ _ _ _ _ 2 one_lt_two (format.precision + e)
      rw [Nat.cast_ofNat] at hlog
      rw [hlog]
      omega
    refine ⟨2 ^ (low + 1), ?_, fun _ => ⟨2 ^ low, by ring⟩⟩
    rw [hvalue, lastPlace, hexponent, hlow]
    push_cast
    rw [← zpow_natCast, ← zpow_add₀ two_ne_zero]
    congr 1
    push_cast
    ring
  · have hown := exponent_le hmin hpositive hdigits
    refine ⟨digits * 2 ^ (e - format.exponent (digits * 2 ^ e)).toNat, ?_, fun h => h.mul_right _⟩
    conv_lhs => rw [zpow_eq_mul hown]
    rw [lastPlace]
    push_cast
    ring

theorem isNumber_zero : format.IsNumber 0 := ⟨le_rfl, 0, by simp⟩

theorem isNumber_one (hmin : format.minExponent ≤ 0) : format.IsNumber 1 := by
  obtain ⟨own, hown, -⟩ := @exists_digits format 0 1 hmin one_pos.le (one_le_pow₀ one_le_two)
  rw [Int.cast_one, zpow_zero, one_mul] at hown
  exact ⟨zero_le_one, own, hown⟩

theorem exponent_min : format.minExponent ≤ format.exponent x := le_max_right _ _

theorem halfEven_bounds : ⌊x⌋ ≤ halfEven x ∧ halfEven x ≤ ⌊x⌋ + 1 := by
  unfold halfEven
  split_ifs <;> omega

/-- Rounding leaves no more digits than the next power of two has. -/
theorem halfEven_div_lastPlace (hx : 0 ≤ x) : 0 ≤ halfEven (x / format.lastPlace x) ∧
    halfEven (x / format.lastPlace x) ≤ 2 ^ format.precision := by
  obtain ⟨hlow, hhigh⟩ := @halfEven_bounds (x / format.lastPlace x)
  have hfloor : 0 ≤ ⌊x / format.lastPlace x⌋ := Int.floor_nonneg.mpr (div_nonneg hx lastPlace_pos.le)
  have hdigits : ⌊x / format.lastPlace x⌋ < 2 ^ format.precision := by
    rw [Int.floor_lt, div_lt_iff₀ lastPlace_pos]
    exact_mod_cast lt_pow_mul_lastPlace
  omega

theorem other_cases {other : ℚ} (hx : 0 < x) (hother : format.IsNumber other) :
    (∃ digits : ℤ, other = digits * format.lastPlace x ∧ (format.IsEven other → Even digits)) ∨
      ∃ power : ℤ, other < power * format.lastPlace x ∧ power * format.lastPlace x ≤ x := by
  rcases le_or_gt (format.exponent x) (format.exponent other) with hcoarser | hfiner
  · left
    obtain ⟨-, own, hown⟩ := hother
    have hplace := zpow_eq_mul hcoarser
    refine ⟨own * 2 ^ (format.exponent other - format.exponent x).toNat, ?_, ?_⟩
    · conv_lhs => rw [hown, lastPlace, hplace]
      rw [lastPlace]
      push_cast
      ring
    · rintro ⟨even, heven, hvalue⟩
      have hsame : own = even := by
        have hvalues := hown.symm.trans hvalue
        exact_mod_cast mul_right_cancel₀ lastPlace_pos.ne' hvalues
      exact hsame ▸ heven.mul_right _
  · right
    have hlog : format.exponent x = Int.log 2 x + 1 - format.precision := by
      have hmin := @exponent_min format other
      unfold exponent at hfiner hmin ⊢
      omega
    obtain ⟨low, hlow⟩ := Nat.exists_eq_add_of_le format.two_le_precision
    have hpower : (((2 ^ (low + 1) : ℤ) : ℚ) * format.lastPlace x) = (2 : ℚ) ^ Int.log 2 x := by
      rw [lastPlace, hlog, hlow]
      push_cast
      rw [← zpow_natCast, ← zpow_add₀ two_ne_zero]
      congr 1
      push_cast
      ring
    refine ⟨2 ^ (low + 1), ?_, ?_⟩
    · rw [hpower]
      by_contra hnot
      have hlarge : format.exponent _ ≤ format.exponent _ :=
        exponent_mono (zpow_pos two_pos _) (not_lt.mp hnot)
      have hsame : format.exponent ((2 : ℚ) ^ Int.log 2 x) = format.exponent x := by
        have hlog := @Int.log_zpow ℚ _ _ _ _ 2 one_lt_two (Int.log 2 x)
        rw [Nat.cast_ofNat] at hlog
        unfold exponent
        rw [hlog]
      exact absurd hfiner (hsame ▸ hlarge).not_gt
    · rw [hpower]
      exact_mod_cast Int.zpow_log_le_self one_lt_two hx

theorem abs_sub_mul_lastPlace {digits : ℤ} : |x - digits * format.lastPlace x| =
    |x / format.lastPlace x - digits| * format.lastPlace x := by
  have hplace := @lastPlace_pos format x
  rw [← abs_of_pos hplace, ← abs_mul, abs_of_pos hplace, sub_mul, div_mul_cancel₀ _ hplace.ne']

theorem roundsTo_round (hx : 0 ≤ x) : format.RoundsTo x (format.round x) := by
  obtain ⟨hpositive, hdigits⟩ := @halfEven_div_lastPlace format x hx
  obtain ⟨own, hown, heven⟩ := exists_digits (@exponent_min format x) hpositive hdigits
  have hplace := @lastPlace_pos format x
  have hnumber : format.IsNumber (format.round x) := by
    refine ⟨mul_nonneg (by exact_mod_cast hpositive) hplace.le, own, hown⟩
  refine ⟨hnumber, fun other hother hne => ?_⟩
  rcases hx.eq_or_lt with rfl | hx
  · have hzero : format.round 0 = 0 := by simp [round, halfEven]
    rw [hzero] at hne ⊢
    rw [sub_self, abs_zero, zero_sub, abs_neg]
    exact .inl (abs_pos.mpr hne)
  have hround : |x - format.round x| = |x / format.lastPlace x - halfEven (x / format.lastPlace x)| *
      format.lastPlace x := abs_sub_mul_lastPlace
  rcases other_cases hx hother with ⟨digits, rfl, hevenOther⟩ | ⟨power, hbelow, habove⟩
  · rw [hround, abs_sub_mul_lastPlace]
    have hdigitsNe : digits ≠ halfEven (x / format.lastPlace x) := fun h => hne (h ▸ rfl)
    rcases halfEven_nearest hdigitsNe with hnearer | ⟨hsame, hevenRound, hodd⟩
    · exact .inl (mul_lt_mul_of_pos_right hnearer hplace)
    · exact .inr ⟨by rw [hsame], ⟨own, heven hevenRound, hown⟩, fun h => hodd (hevenOther h)⟩
  · left
    calc |x - format.round x|
        ≤ |x / format.lastPlace x - power| * format.lastPlace x := by
          rw [hround]
          refine mul_le_mul_of_nonneg_right ?_ hplace.le
          by_cases hsame : power = halfEven (x / format.lastPlace x)
          · rw [hsame]
          · exact (halfEven_nearest hsame).elim le_of_lt fun h => h.1.le
      _ = x - power * format.lastPlace x := by
          rw [← abs_sub_mul_lastPlace, abs_of_nonneg (sub_nonneg.mpr habove)]
      _ < x - other := by linarith
      _ ≤ |x - other| := le_abs_self _

theorem RoundsTo.unique {rounded other : ℚ} (h : format.RoundsTo x rounded)
    (hother : format.RoundsTo x other) : rounded = other := by
  by_contra hne
  have hless := h.2 other hother.1 (Ne.symm hne)
  have hless' := hother.2 rounded h.1 hne
  rcases hless with hless | ⟨hsame, heven, hodd⟩
  · rcases hless' with hless' | ⟨hsame', -, -⟩
    · exact lt_asymm hless hless'
    · exact hless.ne hsame'.symm
  · rcases hless' with hless' | ⟨-, heven', -⟩
    · exact hless'.ne hsame.symm
    · exact hodd heven'

/-- Nothing is nearer. -/
theorem RoundsTo.nearest {rounded other : ℚ} (h : format.RoundsTo x rounded)
    (hother : format.IsNumber other) : |x - rounded| ≤ |x - other| := by
  by_cases hne : other = rounded
  · rw [hne]
  · exact (h.2 other hother hne).elim le_of_lt fun h => h.1.le

theorem round_eq_iff (hx : 0 ≤ x) {rounded : ℚ} : format.round x = rounded ↔ format.RoundsTo x rounded :=
  ⟨fun h => h ▸ roundsTo_round hx, (roundsTo_round hx).unique⟩

theorem round_of_isNumber (hx : format.IsNumber x) : format.round x = x := by
  have hnearest := (roundsTo_round hx.1).nearest hx
  rw [sub_self, abs_zero, abs_nonpos_iff, sub_eq_zero] at hnearest
  exact hnearest.symm

theorem round_mono (hx : 0 ≤ x) (h : x ≤ y) : format.round x ≤ format.round y := by
  rcases h.eq_or_lt with rfl | hless
  · exact le_rfl
  by_contra hcrossed
  have hrounds := @roundsTo_round format x hx
  have hrounds' := @roundsTo_round format y (hx.trans h)
  -- the first is nearer to the larger one, the second to the smaller one
  have hleft := sq_le_sq.mpr (hrounds.nearest hrounds'.1)
  have hright := sq_le_sq.mpr (hrounds'.nearest hrounds.1)
  have hpositive := mul_pos (sub_pos.mpr hless) (sub_pos.mpr (not_le.mp hcrossed))
  nlinarith only [hleft, hright, hpositive]

end FloatFormat
