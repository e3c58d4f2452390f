import DeskflowPlus.Client.ModifierKeys

/-!
# Adjusting the modifiers

`keysForModifierState` goes through the modifiers from high to low and presses or releases a key for
each that has to change. Before a key is pressed, the lower modifiers that it is sensitive to are
adjusted in the same way. The runs of that loop are described here by rules.
-/

namespace DeskflowPlus

namespace KeyMap

variable (platform : Platform) (keyMap : KeyMap) (button : KeyButton) (group : Int)
  (notRequiredMask : KeyModifierMask)

def sensitivity (item : KeyItem) (bit : Nat) : KeyModifierMask := item.sensitive &&& ~~~bitMask bit

def Unmet (item : KeyItem) (bit : Nat) (state : KeyModifierMask) : Prop :=
  state &&& sensitivity item bit ≠ item.required &&& sensitivity item bit

instance (item : KeyItem) (bit : Nat) (state : KeyModifierMask) : Decidable (Unmet item bit state) :=
  inferInstanceAs (Decidable (_ ≠ _))

/-- What has to change before the key is pressed. -/
def preparation (item : KeyItem) (bit : Nat) (state : KeyModifierMask) : KeyModifierMask :=
  (state ^^^ item.required) &&& sensitivity item bit &&& ~~~notRequiredMask

inductive Adjusts : Nat → KeyModifierMask → KeyModifierMask → Mapping → Mapping → Bool → Prop
  | done {requiredState flipMask : KeyModifierMask} {mapping : Mapping} :
    Adjusts 0 requiredState flipMask mapping mapping true
  | skip {bit : Nat} {requiredState flipMask : KeyModifierMask} {mapping later : Mapping} {okay : Bool}
    (hskip : flipMask &&& bitMask bit = 0 ∨
      keyMap.keyForModifier button group bit = none ∧ bitMask bit &&& notRequiredMask ≠ 0)
    (hrest : Adjusts bit requiredState flipMask mapping later okay) :
    Adjusts (bit + 1) requiredState flipMask mapping later okay
  | refused {bit : Nat} {requiredState flipMask : KeyModifierMask} {mapping : Mapping}
    (hflip : flipMask &&& bitMask bit ≠ 0)
    (hrefused : ∀ item, keyMap.keyForModifier button group bit = some item →
      bitMask bit < sensitivity item bit ∨
        requiredState &&& bitMask bit = 0 ∧ Unmet item bit mapping.currentState) :
    Adjusts (bit + 1) requiredState flipMask mapping mapping false
  | unprepared {bit : Nat} {requiredState flipMask : KeyModifierMask} {mapping prepared : Mapping}
    {okay : Bool} {item : KeyItem} (hflip : flipMask &&& bitMask bit ≠ 0)
    (hitem : keyMap.keyForModifier button group bit = some item)
    (hlower : ¬ bitMask bit < sensitivity item bit) (hactive : requiredState &&& bitMask bit ≠ 0)
    (hprepared : Adjusts bit item.required
      (preparation notRequiredMask item bit mapping.currentState) mapping prepared okay)
    (hunmet : okay = false ∨ Unmet item bit prepared.currentState) :
    Adjusts (bit + 1) requiredState flipMask mapping prepared false
  | pressed {bit : Nat} {requiredState flipMask : KeyModifierMask}
    {mapping prepared later : Mapping} {okay : Bool} {item : KeyItem}
    (hflip : flipMask &&& bitMask bit ≠ 0)
    (hitem : keyMap.keyForModifier button group bit = some item)
    (hlower : ¬ bitMask bit < sensitivity item bit) (hactive : requiredState &&& bitMask bit ≠ 0)
    (hprepared : Adjusts bit item.required
      (preparation notRequiredMask item bit mapping.currentState) mapping prepared true)
    (hmet : ¬ Unmet item bit prepared.currentState)
    (hrest : Adjusts bit requiredState flipMask (keyMap.addKeystrokes platform .modify item prepared)
      later okay) :
    Adjusts (bit + 1) requiredState flipMask mapping later okay
  | released {bit : Nat} {requiredState flipMask : KeyModifierMask} {mapping later : Mapping}
    {okay : Bool} {item : KeyItem} (hflip : flipMask &&& bitMask bit ≠ 0)
    (hitem : keyMap.keyForModifier button group bit = some item)
    (hlower : ¬ bitMask bit < sensitivity item bit) (hinactive : requiredState &&& bitMask bit = 0)
    (hmet : ¬ Unmet item bit mapping.currentState)
    (hrest : Adjusts bit requiredState flipMask
      (keyMap.addKeystrokes platform .unmodify item mapping) later okay) :
    Adjusts (bit + 1) requiredState flipMask mapping later okay

variable {platform keyMap button group notRequiredMask}

variable {item : KeyItem} {bit other : Nat}

theorem hasBit_sensitivity (hbit : bit < kKeyModifierNumBits) :
    hasBit (sensitivity item bit) other = (hasBit item.sensitive other && decide (other ≠ bit)) := by
  unfold sensitivity
  rw [hasBit_and_not, hasBit_bitMask hbit, decide_not]

theorem lt_of_hasBit_sensitivity (hbit : bit < kKeyModifierNumBits)
    (hlower : ¬ bitMask bit < sensitivity item bit)
    (hother : hasBit (sensitivity item bit) other = true) : other < bit := by
  have hle : (sensitivity item bit).toNat ≤ (bitMask bit).toNat := Nat.le_of_not_lt hlower
  have hpower : 2 ^ other ≤ 2 ^ bit := by
    calc 2 ^ other ≤ (sensitivity item bit).toNat := two_pow_le_toNat hother
      _ ≤ (bitMask bit).toNat := hle
      _ = 2 ^ bit := toNat_one_shiftLeft (lt_of_modifier hbit)
  have hne : other ≠ bit := by
    rw [hasBit_sensitivity hbit, Bool.and_eq_true, decide_eq_true_eq] at hother
    exact hother.2
  have hother : other ≤ bit := (Nat.pow_le_pow_iff_right (by decide)).mp hpower
  omega

variable {state : KeyModifierMask}

theorem hasBit_preparation :
    hasBit (preparation notRequiredMask item bit state) other =
      ((hasBit state other ^^ hasBit item.required other) && hasBit (sensitivity item bit) other &&
        !hasBit notRequiredMask other) := by
  unfold preparation
  rw [hasBit_and_not, hasBit_and, hasBit_xor]

theorem hasBit_of_preparation (h : hasBit (preparation notRequiredMask item bit state) other = true) :
    hasBit (sensitivity item bit &&& ~~~notRequiredMask) other = true := by
  rw [hasBit_preparation, Bool.and_eq_true, Bool.and_eq_true] at h
  rw [hasBit_and_not, h.1.2, h.2, Bool.and_true]

theorem not_unmet_iff :
    ¬ Unmet item bit state ↔ ∀ other, hasBit (sensitivity item bit) other = true →
      hasBit state other = hasBit item.required other := by
  unfold Unmet
  rw [not_not, and_eq_and_iff]

variable {requiredState : KeyModifierMask} {mapping : Mapping}

theorem Adjusts.eq_of_unset (hbound : bit ≤ kKeyModifierNumBits) {flipMask : KeyModifierMask}
    {later : Mapping} {okay : Bool}
    (h : Adjusts platform keyMap button group notRequiredMask bit requiredState flipMask mapping later
      okay) (hunset : ∀ other < bit, hasBit flipMask other = false) :
    later = mapping ∧ okay = true := by
  induction h with
  | done => exact ⟨rfl, rfl⟩
  | skip _ _ ih =>
    exact ih (Nat.le_of_succ_le hbound) fun other hother => hunset other (Nat.lt_succ_of_lt hother)
  | refused hflip | unprepared hflip | pressed hflip | released hflip =>
    exact absurd ((and_bitMask_eq_zero_iff hbound).mpr (hunset _ (Nat.lt_succ_self _))) hflip

theorem preparation_eq_zero (hmet : ¬ Unmet item bit state) :
    preparation notRequiredMask item bit state = 0 := by
  refine eq_zero_iff_hasBit.mpr fun other => ?_
  rw [hasBit_preparation]
  rcases hother : hasBit (sensitivity item bit) other with _ | _
  · rw [Bool.and_false, Bool.false_and]
  · rw [not_unmet_iff.mp hmet other hother, Bool.xor_self, Bool.false_and, Bool.false_and]

theorem adjustModifiers_zero :
    keyMap.adjustModifiers platform button group notRequiredMask bit requiredState 0 mapping =
      (mapping, true) := by
  induction bit with
  | zero => rfl
  | succ bit ih =>
    unfold adjustModifiers
    dsimp only
    rw [if_pos UInt32.zero_and, ih]

theorem prepared_eq (hactive : requiredState &&& bitMask bit ≠ 0) :
    (if item.sensitive &&& ~~~bitMask bit ≠ 0 ∧ decide (requiredState &&& bitMask bit ≠ 0) = true then
        keyMap.adjustModifiers platform button group notRequiredMask bit item.required
          ((mapping.currentState ^^^ item.required) &&& (item.sensitive &&& ~~~bitMask bit) &&&
            ~~~notRequiredMask) mapping
      else (mapping, true)) =
      keyMap.adjustModifiers platform button group notRequiredMask bit item.required
        (preparation notRequiredMask item bit mapping.currentState) mapping := by
  by_cases hsensitive : item.sensitive &&& ~~~bitMask bit = 0
  · have hzero : preparation notRequiredMask item bit mapping.currentState = 0 := by
      unfold preparation sensitivity
      rw [hsensitive, UInt32.and_zero, UInt32.zero_and]
    rw [hzero, adjustModifiers_zero, if_neg fun h => h.1 hsensitive]
  · exact if_pos ⟨hsensitive, decide_eq_true hactive⟩

theorem adjusts_adjustModifiers {bit : Nat} {requiredState flipMask : KeyModifierMask}
    {mapping : Mapping} :
    Adjusts platform keyMap button group notRequiredMask bit requiredState flipMask mapping
      (keyMap.adjustModifiers platform button group notRequiredMask bit requiredState flipMask
        mapping).1
      (keyMap.adjustModifiers platform button group notRequiredMask bit requiredState flipMask
        mapping).2 := by
  induction bit generalizing requiredState flipMask mapping with
  | zero => exact .done
  | succ bit ih =>
    unfold adjustModifiers
    dsimp only
    by_cases hflip : flipMask &&& bitMask bit = 0
    · rw [if_pos hflip]
      exact .skip (.inl hflip) ih
    rw [if_neg hflip]
    rcases hitem : keyMap.keyForModifier button group bit with _ | item
    · dsimp only
      by_cases hrequired : bitMask bit &&& notRequiredMask = 0
      · rw [if_pos hrequired]
        exact .refused hflip fun item h => absurd (hitem.symm.trans h) nofun
      · rw [if_neg hrequired]
        exact .skip (.inr ⟨hitem, hrequired⟩) ih
    dsimp only
    by_cases hlower : bitMask bit < item.sensitive &&& ~~~bitMask bit
    · rw [if_pos hlower]
      refine .refused hflip fun other h => .inl ?_
      obtain rfl : item = other := Option.some.inj (hitem.symm.trans h)
      exact hlower
    rw [if_neg hlower]
    by_cases hactive : requiredState &&& bitMask bit ≠ 0
    · have hrun := @ih item.required (preparation notRequiredMask item bit mapping.currentState) mapping
      rw [prepared_eq hactive]
      generalize keyMap.adjustModifiers platform button group notRequiredMask bit item.required
        (preparation notRequiredMask item bit mapping.currentState) mapping = adjusted at hrun ⊢
      by_cases hunmet : (!adjusted.2 || decide (adjusted.1.currentState &&&
          (item.sensitive &&& ~~~bitMask bit) ≠ item.required &&&
            (item.sensitive &&& ~~~bitMask bit))) = true
      · rw [if_pos hunmet]
        refine .unprepared hflip hitem hlower hactive hrun ?_
        rw [Bool.or_eq_true, decide_eq_true_iff, Bool.not_eq_true'] at hunmet
        exact hunmet
      · rw [if_neg hunmet, if_pos (decide_eq_true hactive)]
        rw [Bool.or_eq_true, decide_eq_true_iff, Bool.not_eq_true', not_or,
          Bool.not_eq_false] at hunmet
        rw [hunmet.1] at hrun
        exact .pressed hflip hitem hlower hactive hrun hunmet.2 ih
    · have hinactive : ¬ decide (requiredState &&& bitMask bit ≠ 0) = true :=
        fun h => hactive (of_decide_eq_true h)
      have hkept (prepared : Mapping × Bool) : (if item.sensitive &&& ~~~bitMask bit ≠ 0 ∧
          decide (requiredState &&& bitMask bit ≠ 0) = true then prepared else (mapping, true)) =
            (mapping, true) := if_neg fun h => hinactive h.2
      rw [hkept, if_neg hinactive]
      dsimp only
      by_cases hunmet : (!true || decide (mapping.currentState &&&
          (item.sensitive &&& ~~~bitMask bit) ≠ item.required &&&
            (item.sensitive &&& ~~~bitMask bit))) = true
      · rw [if_pos hunmet]
        refine .refused hflip fun other h => .inr ⟨not_not.mp hactive, ?_⟩
        obtain rfl : item = other := Option.some.inj (hitem.symm.trans h)
        rw [Bool.not_true, Bool.false_or, decide_eq_true_iff] at hunmet
        exact hunmet
      · rw [if_neg hunmet]
        rw [Bool.not_true, Bool.false_or, decide_eq_true_iff] at hunmet
        exact .released hflip hitem hlower (not_not.mp hactive) hunmet ih

end KeyMap

end DeskflowPlus
