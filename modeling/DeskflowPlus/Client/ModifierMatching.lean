import DeskflowPlus.Client.ModifierAdjustment

/-!
# Matching the modifiers

The modifiers that differ are changed from high to low, and which ones differ is looked at only once.
A key leaves its own modifiers on or off, and those that it is sensitive to as it needs them. So what
becomes of a modifier is up to the lowest of the changed ones whose key has to do with it, and it need
not be what was asked for.
-/

namespace DeskflowPlus

namespace KeyMap

section Modifiers

variable (keyMap : KeyMap) (button : KeyButton) (group : Int) (notRequiredMask : KeyModifierMask)

/-- The keys that may be pressed or released, which makes their modifiers active or not, to change the
modifiers of a mask. Before a key is pressed, the modifiers that it is sensitive to are changed. -/
inductive Uses : KeyModifierMask → KeyModifierMask → KeyItem → Bool → Prop
  | changed {requiredState flipMask : KeyModifierMask} {bit : Nat} {item : KeyItem}
    (hflip : hasBit flipMask bit = true)
    (hitem : keyMap.keyForModifier button group bit = some item) :
    Uses requiredState flipMask item (hasBit requiredState bit)
  | prepared {requiredState flipMask : KeyModifierMask} {bit : Nat} {item used : KeyItem}
    {active : Bool} (hflip : hasBit flipMask bit = true)
    (hitem : keyMap.keyForModifier button group bit = some item)
    (hactive : hasBit requiredState bit = true)
    (hused : Uses item.required (sensitivity item bit &&& ~~~notRequiredMask) used active) :
    Uses requiredState flipMask used active

/-- What the change of a modifier makes of another: the modifiers of its key become active or not, and
those that the key is sensitive to are as it needs them. -/
def leftBy (requiredState flipMask : KeyModifierMask) (bit other : Nat) : Option Bool :=
  if hasBit flipMask bit then
    (keyMap.keyForModifier button group bit).bind fun item =>
      if hasBit item.generates other then some (hasBit requiredState bit)
      else if hasBit (sensitivity item bit) other then some (hasBit item.required other)
      else none
  else none

/-- What the lowest of the changed modifiers, which is the last to be changed, makes of a modifier. -/
def leftOver (requiredState flipMask state : KeyModifierMask) (bound other : Nat) : Bool :=
  ((List.range bound).findSome? fun bit =>
    keyMap.leftBy button group requiredState flipMask bit other).getD (hasBit state other)

structure Settled (requiredState flipMask state : KeyModifierMask) (bound other : Nat) : Prop where
  leftOver : keyMap.leftOver button group requiredState flipMask state bound other =
    hasBit requiredState other
  used : ∀ bit < bound,
    (∀ lower ≤ bit, keyMap.leftBy button group requiredState flipMask lower other = none) →
    ∀ used active,
      Uses keyMap button group notRequiredMask requiredState (flipMask &&& bitMask bit) used active →
      hasBit used.generates other = true → active = hasBit requiredState other

def Contained (requiredState flipMask : KeyModifierMask) (bound other : Nat) : Prop :=
  ∀ bit < bound,
    (∀ lower ≤ bit, keyMap.leftBy button group requiredState flipMask lower other = none) →
    ∀ used active,
      Uses keyMap button group notRequiredMask requiredState (flipMask &&& bitMask bit) used active →
      hasBit used.generates other = false

/-- What one turn of the loop makes of the state. -/
def Handled (requiredState flipMask : KeyModifierMask) (bit : Nat) (state handled : KeyModifierMask) :
    Prop :=
  ∀ other,
    match keyMap.leftBy button group requiredState flipMask bit other with
    | some left => hasBit handled other = left
    | none => hasBit handled other = hasBit state other ∨ ∃ used,
        Uses keyMap button group notRequiredMask requiredState (flipMask &&& bitMask bit) used
            (hasBit handled other) ∧ hasBit used.generates other = true

end Modifiers

variable {platform : Platform} {keyMap : KeyMap} {button : KeyButton} {group : Int}
  {notRequiredMask requiredState flipMask state handled : KeyModifierMask} {bit bound other : Nat}
  {mapping later : Mapping} {item : KeyItem}

theorem Uses.mono {larger : KeyModifierMask} {active : Bool}
    (h : Uses keyMap button group notRequiredMask requiredState flipMask item active)
    (hlarger : ∀ bit, hasBit flipMask bit = true → hasBit larger bit = true) :
    Uses keyMap button group notRequiredMask requiredState larger item active := by
  cases h with
  | changed hflip hitem => exact .changed (hlarger _ hflip) hitem
  | prepared hflip hitem hactive hused => exact .prepared (hlarger _ hflip) hitem hactive hused

theorem hasBit_modify : hasBit (keyMap.addKeystrokes platform .modify item mapping).currentState other =
    (hasBit mapping.currentState other || hasBit item.generates other) := by
  rw [← hasBit_or]
  rfl

theorem hasBit_unmodify :
    hasBit (keyMap.addKeystrokes platform .unmodify item mapping).currentState other =
      (hasBit mapping.currentState other && !hasBit item.generates other) := by
  rw [← hasBit_and_not]
  rfl

theorem uses_of_prepared {used : KeyItem} {active : Bool} (hflip : hasBit flipMask bit = true)
    (hitem : keyMap.keyForModifier button group bit = some item)
    (hactive : hasBit requiredState bit = true)
    (hused : Uses keyMap button group notRequiredMask item.required
      (preparation notRequiredMask item bit state) used active) :
    Uses keyMap button group notRequiredMask requiredState flipMask used active :=
  .prepared hflip hitem hactive (hused.mono fun _ => hasBit_of_preparation)

theorem Adjusts.used {okay : Bool} (hbound : bound ≤ kKeyModifierNumBits)
    (h : Adjusts platform keyMap button group notRequiredMask bound requiredState flipMask mapping later
      okay) :
    hasBit later.currentState other = hasBit mapping.currentState other ∨ ∃ used,
      Uses keyMap button group notRequiredMask requiredState flipMask used
          (hasBit later.currentState other) ∧ hasBit used.generates other = true := by
  induction h with
  | done | refused => exact .inl rfl
  | skip _ _ ih => exact ih (Nat.le_of_succ_le hbound)
  | unprepared hflip hitem _ hactive _ _ ih =>
    have hset := hasBit_of_and_bitMask_ne_zero hbound hflip
    have hrequired := hasBit_of_and_bitMask_ne_zero hbound hactive
    exact (ih (Nat.le_of_succ_le hbound)).imp_right fun ⟨used, hused, hgenerates⟩ =>
      ⟨used, uses_of_prepared hset hitem hrequired hused, hgenerates⟩
  | @pressed bit requiredState flipMask mapping prepared later okay item hflip hitem _ hactive _ _ _
      ihPrepared ihRest =>
    have hset := hasBit_of_and_bitMask_ne_zero hbound hflip
    have hrequired := hasBit_of_and_bitMask_ne_zero hbound hactive
    rcases ihRest (Nat.le_of_succ_le hbound) with hkept | hlater
    · rw [hasBit_modify] at hkept
      rcases hgenerates : hasBit item.generates other with _ | _
      · rw [hgenerates, Bool.or_false] at hkept
        rw [hkept]
        exact (ihPrepared (Nat.le_of_succ_le hbound)).imp_right fun ⟨used, hused, hgenerates⟩ =>
          ⟨used, uses_of_prepared hset hitem hrequired hused, hgenerates⟩
      · rw [hgenerates, Bool.or_true] at hkept
        refine .inr ⟨item, ?_, hgenerates⟩
        rw [hkept, ← hrequired]
        exact .changed hset hitem
    · exact .inr hlater
  | @released bit requiredState flipMask mapping later okay item hflip hitem _ hinactive _ _ ih =>
    have hset := hasBit_of_and_bitMask_ne_zero hbound hflip
    rcases ih (Nat.le_of_succ_le hbound) with hkept | hlater
    · rw [hasBit_unmodify] at hkept
      rcases hgenerates : hasBit item.generates other with _ | _
      · rw [hgenerates, Bool.not_false, Bool.and_true] at hkept
        exact .inl hkept
      · rw [hgenerates, Bool.not_true, Bool.and_false] at hkept
        refine .inr ⟨item, ?_, hgenerates⟩
        rw [hkept, ← (and_bitMask_eq_zero_iff hbound).mp hinactive]
        exact .changed hset hitem
    · exact .inr hlater

theorem leftBy_eq (hflip : hasBit flipMask bit = true)
    (hitem : keyMap.keyForModifier button group bit = some item) :
    keyMap.leftBy button group requiredState flipMask bit other =
      if hasBit item.generates other then some (hasBit requiredState bit)
      else if hasBit (sensitivity item bit) other then some (hasBit item.required other) else none := by
  unfold leftBy
  rw [if_pos hflip, hitem, Option.bind_some]

theorem handled_refl (hnone : hasBit flipMask bit = true → keyMap.keyForModifier button group bit = none) :
    Handled keyMap button group notRequiredMask requiredState flipMask bit state state := by
  intro other
  have hleft : keyMap.leftBy button group requiredState flipMask bit other = none := by
    unfold leftBy
    split_ifs with hflip
    · rw [hnone hflip, Option.bind_none]
    · rfl
  rw [hleft]
  exact .inl rfl

theorem handled_pressed (hbit : bit < kKeyModifierNumBits) (hflip : hasBit flipMask bit = true)
    (hitem : keyMap.keyForModifier button group bit = some item)
    (hactive : hasBit requiredState bit = true) {prepared : Mapping}
    (hprepared : Adjusts platform keyMap button group notRequiredMask bit item.required
      (preparation notRequiredMask item bit mapping.currentState) mapping prepared true)
    (hmet : ¬ Unmet item bit prepared.currentState) :
    Handled keyMap button group notRequiredMask requiredState flipMask bit mapping.currentState
      (keyMap.addKeystrokes platform .modify item prepared).currentState := by
  have honly : hasBit (flipMask &&& bitMask bit) bit = true := by
    rw [hasBit_and, hflip, hasBit_bitMask hbit, decide_eq_true rfl, Bool.and_true]
  intro other
  rw [leftBy_eq hflip hitem, hasBit_modify]
  split_ifs with hgenerates hsensitive
  · dsimp only
    rw [hgenerates, Bool.or_true, hactive]
  · dsimp only
    rw [Bool.not_eq_true] at hgenerates
    rw [hgenerates, Bool.or_false, not_unmet_iff.mp hmet other hsensitive]
  · dsimp only
    rw [Bool.not_eq_true] at hgenerates
    rw [hgenerates, Bool.or_false]
    exact (hprepared.used (Nat.le_of_lt hbit)).imp_right fun ⟨used, hused, hother⟩ =>
      ⟨used, uses_of_prepared honly hitem hactive hused, hother⟩

theorem handled_released (hflip : hasBit flipMask bit = true)
    (hitem : keyMap.keyForModifier button group bit = some item)
    (hinactive : hasBit requiredState bit = false) (hmet : ¬ Unmet item bit mapping.currentState) :
    Handled keyMap button group notRequiredMask requiredState flipMask bit mapping.currentState
      (keyMap.addKeystrokes platform .unmodify item mapping).currentState := by
  intro other
  rw [leftBy_eq hflip hitem, hasBit_unmodify]
  split_ifs with hgenerates hsensitive
  · dsimp only
    rw [hgenerates, Bool.not_true, Bool.and_false, hinactive]
  · dsimp only
    rw [Bool.not_eq_true] at hgenerates
    rw [hgenerates, Bool.not_false, Bool.and_true, not_unmet_iff.mp hmet other hsensitive]
  · dsimp only
    rw [Bool.not_eq_true] at hgenerates
    rw [hgenerates, Bool.not_false, Bool.and_true]
    exact .inl rfl

theorem settled_zero : Settled keyMap button group notRequiredMask requiredState flipMask state 0 other ↔
    hasBit state other = hasBit requiredState other :=
  ⟨fun h => h.leftOver, fun h => ⟨h, fun _ hbit => absurd hbit (Nat.not_lt_zero _)⟩⟩

theorem leftOver_succ : keyMap.leftOver button group requiredState flipMask state (bound + 1) other =
    ((List.range bound).findSome? fun bit =>
      keyMap.leftBy button group requiredState flipMask bit other).getD
        ((keyMap.leftBy button group requiredState flipMask bound other).getD (hasBit state other)) := by
  unfold leftOver
  rw [List.range_succ, List.findSome?_append, List.findSome?_singleton, Option.getD_or]

theorem leftBy_eq_none_of_lower
    (hlower : ((List.range bound).findSome? fun bit =>
      keyMap.leftBy button group requiredState flipMask bit other) = none)
    (hbound : keyMap.leftBy button group requiredState flipMask bound other = none) :
    ∀ lower ≤ bound, keyMap.leftBy button group requiredState flipMask lower other = none := by
  intro lower hle
  rcases Nat.lt_or_eq_of_le hle with hlt | rfl
  · exact List.findSome?_eq_none_iff.mp hlower lower (List.mem_range.mpr hlt)
  · exact hbound

theorem settled_handled
    (hhandled : Handled keyMap button group notRequiredMask requiredState flipMask bound state handled)
    (h : Settled keyMap button group notRequiredMask requiredState flipMask state (bound + 1) other) :
    Settled keyMap button group notRequiredMask requiredState flipMask handled bound other := by
  refine ⟨?_, fun bit hbit => h.used bit (Nat.lt_succ_of_lt hbit)⟩
  have hleft := h.leftOver
  rw [leftOver_succ] at hleft
  unfold leftOver
  rcases hlower : (List.range bound).findSome? fun bit =>
    keyMap.leftBy button group requiredState flipMask bit other with _ | left
  · have hhere := hhandled other
    rw [hlower] at hleft
    rcases hbound : keyMap.leftBy button group requiredState flipMask bound other with _ | left
    · rw [hbound] at hleft hhere
      rcases hhere with hkept | ⟨used, hused, hgenerates⟩
      · rw [← hleft, Option.getD_none, hkept]
        rfl
      · exact h.used bound (Nat.lt_succ_self bound) (leftBy_eq_none_of_lower hlower hbound) used _ hused
          hgenerates
    · rw [hbound] at hleft hhere
      rw [← hleft, Option.getD_none, hhere]
      rfl
  · rw [hlower] at hleft
    exact hleft

theorem settled_of_handled
    (hcontained : Contained keyMap button group notRequiredMask requiredState flipMask (bound + 1) other)
    (hhandled : Handled keyMap button group notRequiredMask requiredState flipMask bound state handled)
    (h : Settled keyMap button group notRequiredMask requiredState flipMask handled bound other) :
    Settled keyMap button group notRequiredMask requiredState flipMask state (bound + 1) other := by
  refine ⟨?_, fun bit hbit hnone used active hused hgenerates => absurd hgenerates
    (Bool.eq_false_iff.mp (hcontained bit hbit hnone used active hused))⟩
  have hleft := h.leftOver
  unfold leftOver at hleft
  rw [leftOver_succ]
  rcases hlower : (List.range bound).findSome? fun bit =>
    keyMap.leftBy button group requiredState flipMask bit other with _ | left
  · have hhere := hhandled other
    rw [hlower, Option.getD_none] at hleft
    rw [Option.getD_none, ← hleft]
    rcases hbound : keyMap.leftBy button group requiredState flipMask bound other with _ | left
    · rw [hbound] at hhere
      rcases hhere with hkept | ⟨used, hused, hgenerates⟩
      · rw [Option.getD_none, hkept]
      · have huntouched := hcontained bound (Nat.lt_succ_self bound)
          (leftBy_eq_none_of_lower hlower hbound) used _ hused
        rw [huntouched] at hgenerates
        cases hgenerates
    · rw [hbound] at hhere
      rw [Option.getD_some, hhere]
  · rw [hlower] at hleft
    exact hleft

theorem Adjusts.first_handled (hbound : bound + 1 ≤ kKeyModifierNumBits)
    (h : Adjusts platform keyMap button group notRequiredMask (bound + 1) requiredState flipMask mapping
      later true) :
    ∃ middle : Mapping, Handled keyMap button group notRequiredMask requiredState flipMask bound
        mapping.currentState middle.currentState ∧
      Adjusts platform keyMap button group notRequiredMask bound requiredState flipMask middle later
        true := by
  cases h with
  | skip hskip hrest =>
    refine ⟨mapping, handled_refl fun hflip => ?_, hrest⟩
    rcases hskip with hunset | ⟨hnone, -⟩
    · rw [(and_bitMask_eq_zero_iff hbound).mp hunset] at hflip
      cases hflip
    · exact hnone
  | pressed hflip hitem _ hactive hprepared hmet hrest =>
    have hset := hasBit_of_and_bitMask_ne_zero hbound hflip
    have hrequired := hasBit_of_and_bitMask_ne_zero hbound hactive
    exact ⟨_, handled_pressed hbound hset hitem hrequired hprepared hmet, hrest⟩
  | released hflip hitem _ hinactive hmet hrest =>
    have hset := hasBit_of_and_bitMask_ne_zero hbound hflip
    have hoff := (and_bitMask_eq_zero_iff hbound).mp hinactive
    exact ⟨_, handled_released hset hitem hoff hmet, hrest⟩

theorem Adjusts.settled (hbound : bound ≤ kKeyModifierNumBits)
    (h : Adjusts platform keyMap button group notRequiredMask bound requiredState flipMask mapping later
      true) :
    (Settled keyMap button group notRequiredMask requiredState flipMask mapping.currentState bound
          other →
        hasBit later.currentState other = hasBit requiredState other) ∧
      (Contained keyMap button group notRequiredMask requiredState flipMask bound other →
        hasBit later.currentState other = hasBit requiredState other →
        Settled keyMap button group notRequiredMask requiredState flipMask mapping.currentState bound
          other) := by
  induction bound generalizing mapping with
  | zero =>
    cases h
    exact ⟨settled_zero.mp, fun _ => settled_zero.mpr⟩
  | succ bound ih =>
    obtain ⟨middle, hhandled, hrest⟩ := h.first_handled hbound
    obtain ⟨hmatched, hsettled⟩ := ih (Nat.le_of_succ_le hbound) hrest
    exact ⟨fun hleft => hmatched (settled_handled hhandled hleft), fun hcontained hlater =>
      settled_of_handled hcontained hhandled (hsettled (fun bit hbit =>
        hcontained bit (Nat.lt_succ_of_lt hbit)) hlater)⟩

def Matches (requiredState sensitiveMask notRequiredMask state : KeyModifierMask) : Prop :=
  state &&& (sensitiveMask &&& ~~~notRequiredMask) =
    requiredState &&& (sensitiveMask &&& ~~~notRequiredMask)

instance {sensitiveMask : KeyModifierMask} :
    Decidable (Matches requiredState sensitiveMask notRequiredMask state) :=
  inferInstanceAs (Decidable (_ = _))

end KeyMap

end DeskflowPlus
