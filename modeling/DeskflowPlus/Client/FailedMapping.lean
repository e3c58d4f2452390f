import DeskflowPlus.Client.KeyState
import DeskflowPlus.Client.ModifierAdjustment

/-!
# Keys that cannot be mapped

Keys work on copies of the modifiers, which are dropped when a modifier cannot be adjusted. The pseudo
keys that set and clear modifiers adjust those of the caller. When one of several cannot be adjusted,
the others stay pressed or released, with their keystrokes.
-/

namespace DeskflowPlus

namespace KeyMap

variable {platform : Platform} {keyMap : KeyMap} {button : KeyButton} {group : Int}

/-- Keystrokes are only added, and without one the state only loses modifiers. -/
def Follows (earlier later : Mapping) : Prop :=
  earlier.keystrokes.length < later.keystrokes.length ∨
    later.keystrokes.length = earlier.keystrokes.length ∧
      ∀ bit, hasBit later.currentState bit = true → hasBit earlier.currentState bit = true

/-- There is a new keystroke, or a modifier is lost. -/
def Departs (earlier later : Mapping) : Prop :=
  earlier.keystrokes.length < later.keystrokes.length ∨
    later.keystrokes.length = earlier.keystrokes.length ∧
      (∀ bit, hasBit later.currentState bit = true → hasBit earlier.currentState bit = true) ∧
      ∃ bit, hasBit earlier.currentState bit = true ∧ hasBit later.currentState bit = false

structure Untouched (earlier later : Mapping) : Prop where
  activeModifiers : later.activeModifiers = earlier.activeModifiers
  currentState : later.currentState = earlier.currentState
  keystrokes : later.keystrokes = earlier.keystrokes

variable {earlier middle later mapping : Mapping} {item : KeyItem}

theorem Follows.refl : Follows mapping mapping := .inr ⟨rfl, fun _ h => h⟩

theorem Follows.trans (hfirst : Follows earlier middle) (hsecond : Follows middle later) :
    Follows earlier later := by
  rcases hfirst with hfirst | ⟨hfirst, hlost⟩
  · refine .inl ?_
    rcases hsecond with hsecond | ⟨hsecond, -⟩ <;> omega
  · rcases hsecond with hsecond | ⟨hsecond, hlost'⟩
    · exact .inl (by omega)
    · exact .inr ⟨by omega, fun bit hbit => hlost bit (hlost' bit hbit)⟩

theorem Departs.follows (h : Departs earlier later) : Follows earlier later :=
  h.imp_right fun hsame => ⟨hsame.1, hsame.2.1⟩

theorem Departs.trans (hfirst : Departs earlier middle) (hsecond : Follows middle later) :
    Departs earlier later := by
  rcases hfirst with hfirst | ⟨hfirst, hlost, bit, hbefore, hafter⟩
  · refine .inl ?_
    rcases hsecond with hsecond | ⟨hsecond, -⟩ <;> omega
  · rcases hsecond with hsecond | ⟨hsecond, hlost'⟩
    · exact .inl (by omega)
    · refine .inr ⟨by omega, fun bit hbit => hlost bit (hlost' bit hbit), bit, hbefore, ?_⟩
      exact Bool.eq_false_iff.mpr fun hlater => Bool.eq_false_iff.mp hafter (hlost' bit hlater)

theorem Follows.departs (hfirst : Follows earlier middle) (hsecond : Departs middle later) :
    Departs earlier later := by
  rcases hfirst with hfirst | ⟨hfirst, hlost⟩
  · refine .inl ?_
    rcases hsecond with hsecond | ⟨hsecond, -⟩ <;> omega
  · rcases hsecond with hsecond | ⟨hsecond, hlost', bit, hbefore, hafter⟩
    · exact .inl (by omega)
    · exact .inr ⟨by omega, fun bit hbit => hlost bit (hlost' bit hbit), bit, hlost bit hbefore, hafter⟩

theorem Departs.not_untouched (h : Departs earlier later) : ¬ Untouched earlier later := by
  intro hsame
  rcases h with hlonger | ⟨-, -, bit, hbefore, hafter⟩
  · rw [hsame.keystrokes] at hlonger
    exact Nat.lt_irrefl _ hlonger
  · rw [hsame.currentState, hbefore] at hafter
    cases hafter

theorem departs_modify : Departs mapping (keyMap.addKeystrokes platform .modify item mapping) := by
  refine .inl ?_
  unfold addKeystrokes Mapping.push Mapping.activate
  dsimp only
  rw [List.length_append]
  split_ifs <;> simp

theorem unmodify_eq : ∃ strokes,
    (keyMap.addKeystrokes platform .unmodify item mapping).keystrokes =
        mapping.keystrokes ++ strokes ∧
      (keyMap.addKeystrokes platform .unmodify item mapping).currentState =
        mapping.currentState &&& ~~~item.generates := by
  unfold addKeystrokes
  exact ⟨_, rfl, rfl⟩

variable {bit : Nat}

theorem departs_unmodify (hgenerates : hasBit item.generates bit = true)
    (hactive : hasBit mapping.currentState bit = true) :
    Departs mapping (keyMap.addKeystrokes platform .unmodify item mapping) := by
  obtain ⟨strokes, hstrokes, hstate⟩ := @unmodify_eq platform keyMap mapping item
  rcases strokes with _ | ⟨stroke, strokes⟩
  · refine .inr ⟨by rw [hstrokes, List.append_nil], fun other hother => ?_, bit, hactive, ?_⟩
    · rw [hstate, hasBit_and_not, Bool.and_eq_true] at hother
      exact hother.1
    · rw [hstate, hasBit_and_not, hgenerates, Bool.not_true, Bool.and_false]
  · refine .inl ?_
    rw [hstrokes, List.length_append, List.length_cons]
    omega

theorem follows_unmodify : Follows mapping (keyMap.addKeystrokes platform .unmodify item mapping) := by
  obtain ⟨strokes, hstrokes, hstate⟩ := @unmodify_eq platform keyMap mapping item
  rcases strokes with _ | ⟨stroke, strokes⟩
  · refine .inr ⟨by rw [hstrokes, List.append_nil], fun other hother => ?_⟩
    rw [hstate, hasBit_and_not, Bool.and_eq_true] at hother
    exact hother.1
  · refine .inl ?_
    rw [hstrokes, List.length_append, List.length_cons]
    omega

variable {requiredState flipMask : KeyModifierMask}

theorem Adjusts.follows {notRequiredMask : KeyModifierMask} {okay : Bool}
    (h : Adjusts platform keyMap button group notRequiredMask bit requiredState flipMask mapping later
      okay) : Follows mapping later := by
  induction h with
  | done => exact .refl
  | skip _ _ ih => exact ih
  | refused _ _ => exact .refl
  | unprepared _ _ _ _ _ _ ih => exact ih
  | pressed _ _ _ _ _ _ _ ihPrepared ihRest =>
    exact (ihPrepared.trans departs_modify.follows).trans ihRest
  | released _ _ _ _ _ _ ih => exact follows_unmodify.trans ih

/-- The highest modifier that has to change cannot be changed at all: it has no key, its key is
sensitive to a higher one, it is to be released while its key needs other modifiers, or it is to be
pressed and the highest of these cannot be changed at all. -/
def isBlocked (keyMap : KeyMap) (button : KeyButton) (group : Int) (state : KeyModifierMask) :
    Nat → KeyModifierMask → KeyModifierMask → Bool
  | 0, _, _ => false
  | bit + 1, requiredState, flipMask =>
    if flipMask &&& bitMask bit = 0 then isBlocked keyMap button group state bit requiredState flipMask
    else
      match keyMap.keyForModifier button group bit with
      | none => true
      | some item =>
        bitMask bit < sensitivity item bit ||
          (Unmet item bit state &&
            (requiredState &&& bitMask bit = 0 ||
              isBlocked keyMap button group state bit item.required (preparation 0 item bit state)))

theorem isBlocked_succ_of_zero {state : KeyModifierMask} (hzero : flipMask &&& bitMask bit = 0) :
    isBlocked keyMap button group state (bit + 1) requiredState flipMask =
      isBlocked keyMap button group state bit requiredState flipMask := by
  rw [isBlocked, if_pos hzero]

theorem isBlocked_succ_of_some {state : KeyModifierMask} (hflip : flipMask &&& bitMask bit ≠ 0)
    (hitem : keyMap.keyForModifier button group bit = some item)
    (hlower : ¬ bitMask bit < sensitivity item bit) :
    isBlocked keyMap button group state (bit + 1) requiredState flipMask = true ↔
      Unmet item bit state ∧ (requiredState &&& bitMask bit = 0 ∨
        isBlocked keyMap button group state bit item.required (preparation 0 item bit state) = true)
    := by
  rw [isBlocked, if_neg hflip, hitem]
  simp only [hlower, decide_false, Bool.false_or, Bool.and_eq_true, Bool.or_eq_true,
    decide_eq_true_eq]

theorem Adjusts.of_isBlocked {okay : Bool}
    (h : Adjusts platform keyMap button group 0 bit requiredState flipMask mapping later okay)
    (hblocked : isBlocked keyMap button group mapping.currentState bit requiredState flipMask = true) :
    later = mapping ∧ okay = false := by
  induction h with
  | done => cases hblocked
  | skip hskip _ ih =>
    rcases hskip with hzero | ⟨-, hrequired⟩
    · rw [isBlocked_succ_of_zero hzero] at hblocked
      exact ih hblocked
    · exact absurd UInt32.and_zero hrequired
  | refused _ _ => exact ⟨rfl, rfl⟩
  | unprepared hflip hitem hlower hactive _ _ ih =>
    obtain ⟨-, hinactive | hblocked⟩ := (isBlocked_succ_of_some hflip hitem hlower).mp hblocked
    · exact absurd hinactive hactive
    · exact ⟨(ih hblocked).1, rfl⟩
  | pressed hflip hitem hlower hactive _ _ _ ihPrepared _ =>
    obtain ⟨-, hinactive | hblocked⟩ := (isBlocked_succ_of_some hflip hitem hlower).mp hblocked
    · exact absurd hinactive hactive
    · exact absurd (ihPrepared hblocked).2 nofun
  | released hflip hitem hlower _ hmet _ _ =>
    exact absurd ((isBlocked_succ_of_some hflip hitem hlower).mp hblocked).1 hmet

/-- Where the failure is not blocked, something was pressed or released before it. -/
theorem Adjusts.departs (hlisted : WellFormed keyMap) (hbound : bit ≤ kKeyModifierNumBits)
    {okay : Bool}
    (h : Adjusts platform keyMap button group 0 bit requiredState flipMask mapping later okay)
    (hblocked : isBlocked keyMap button group mapping.currentState bit requiredState flipMask = false)
    (hflip : ∃ other < bit, hasBit flipMask other = true)
    (hdiffer : ∀ other < bit, hasBit flipMask other = true →
      hasBit mapping.currentState other ≠ hasBit requiredState other) : Departs mapping later := by
  induction h with
  | done =>
    obtain ⟨other, hother, -⟩ := hflip
    exact absurd hother (Nat.not_lt_zero other)
  | @skip bit _ _ _ _ _ hskip _ ih =>
    rcases hskip with hzero | ⟨-, hrequired⟩
    · rw [isBlocked_succ_of_zero hzero] at hblocked
      obtain ⟨other, hother, hset⟩ := hflip
      refine ih (Nat.le_of_succ_le hbound) hblocked ⟨other, ?_, hset⟩ fun other hother =>
        hdiffer other (Nat.lt_succ_of_lt hother)
      have hne : other ≠ bit := by
        rintro rfl
        rw [(and_bitMask_eq_zero_iff hbound).mp hzero] at hset
        cases hset
      omega
    · exact absurd UInt32.and_zero hrequired
  | @refused bit _ _ _ hset hrefused =>
    refine absurd hblocked (Bool.not_eq_false _ ▸ ?_)
    rw [isBlocked, if_neg hset]
    rcases hitem : keyMap.keyForModifier button group bit with _ | item
    · rfl
    · rcases hrefused item hitem with hhigher | ⟨hinactive, hunmet⟩
      · simp only [hhigher, decide_true, Bool.true_or]
      · simp only [hinactive, hunmet, decide_true, Bool.true_or, Bool.and_true, Bool.or_true]
  | @unprepared bit _ _ mapping _ _ item hset hitem hlower hactive hprepared hunmet ih =>
    have hbefore : Unmet item bit mapping.currentState := by
      by_contra hmet
      rw [preparation_eq_zero hmet] at hprepared
      obtain ⟨rfl, rfl⟩ :=
        hprepared.eq_of_unset (Nat.le_of_succ_le hbound) fun _ _ => hasBit_zero
      rcases hunmet with hfailed | hunmet
      · cases hfailed
      · exact hmet hunmet
    have hdiffers : ∃ other, hasBit (sensitivity item bit) other = true ∧
        hasBit mapping.currentState other ≠ hasBit item.required other := by
      by_contra hnone
      refine absurd hbefore (not_unmet_iff.mpr fun other hother => ?_)
      by_contra hne
      exact hnone ⟨other, hother, hne⟩
    obtain ⟨other, hother, hne⟩ := hdiffers
    refine ih (Nat.le_of_succ_le hbound) ?_ ⟨other, lt_of_hasBit_sensitivity hbound hlower hother, ?_⟩ ?_
    · by_contra hprevented
      exact absurd ((isBlocked_succ_of_some hset hitem hlower).mpr
        ⟨hbefore, .inr (Bool.not_eq_false _ ▸ hprevented)⟩) (Bool.not_eq_true _ ▸ hblocked)
    · have hchanges : (hasBit mapping.currentState other ^^ hasBit item.required other) = true :=
        bne_iff_ne.mpr hne
      rw [hasBit_preparation, hchanges, hother, hasBit_zero]
      rfl
    · intro other _ hprepares
      rw [hasBit_preparation, Bool.and_eq_true, Bool.and_eq_true] at hprepares
      exact bne_iff_ne.mp hprepares.1.1
  | pressed _ _ _ _ hprepared _ hrest _ _ =>
    exact (hprepared.follows.departs departs_modify).trans hrest.follows
  | @released bit _ _ mapping _ _ item hset hitem _ hinactive _ hrest _ =>
    have hlost : hasBit mapping.currentState bit = true := by
      have hne := hdiffer bit (Nat.lt_succ_self bit)
        (hasBit_of_and_bitMask_ne_zero hbound hset)
      rw [(and_bitMask_eq_zero_iff hbound).mp hinactive] at hne
      exact Bool.not_eq_false _ ▸ hne
    have hgenerates : hasBit item.generates bit = true :=
      hlisted.generates _ bit hbound item (List.mem_of_find?_eq_some hitem)
    exact (departs_unmodify hgenerates hlost).trans hrest.follows

/-- `isBlocked` for the modifiers that a pseudo key has to change. -/
def isPrevented (keyMap : KeyMap) (mapping : Mapping)
    (requiredState sensitiveMask : KeyModifierMask) : Bool :=
  isBlocked keyMap 0 mapping.group mapping.currentState kKeyModifierNumBits requiredState
    ((mapping.currentState ^^^ requiredState) &&& sensitiveMask)

theorem untouched_iff_isPrevented (hlisted : WellFormed keyMap) {sensitiveMask : KeyModifierMask}
    (hfailed : keyMap.keysForModifierState platform 0 mapping.group requiredState sensitiveMask 0
      mapping = (later, false)) :
    Untouched mapping later ↔ isPrevented keyMap mapping requiredState sensitiveMask = true := by
  have hrun := @adjusts_adjustModifiers platform keyMap 0 mapping.group 0 kKeyModifierNumBits
    requiredState ((mapping.currentState ^^^ requiredState) &&& sensitiveMask &&& ~~~0) mapping
  unfold keysForModifierState at hfailed
  rw [hfailed] at hrun
  have hflip : (mapping.currentState ^^^ requiredState) &&& sensitiveMask &&& ~~~0 =
      (mapping.currentState ^^^ requiredState) &&& sensitiveMask := by
    refine hasBit_ext fun bit _ => ?_
    rw [hasBit_and_not, hasBit_zero, Bool.not_false, Bool.and_true]
  rw [hflip] at hrun
  constructor
  · intro hsame
    by_contra hprevented
    refine absurd hsame (hrun.departs hlisted (Nat.le_refl _) (Bool.not_eq_true _ ▸ hprevented) ?_ ?_
      ).not_untouched
    · by_contra hnone
      refine absurd (hrun.eq_of_unset (Nat.le_refl _) fun bit hbit => ?_).2 nofun
      exact Bool.eq_false_iff.mpr fun hset => hnone ⟨bit, hbit, hset⟩
    · intro bit _ hset
      rw [hasBit_and, hasBit_xor, Bool.and_eq_true] at hset
      exact bne_iff_ne.mp hset.1
  · intro hprevented
    have hkept : later = mapping := (hrun.of_isBlocked hprevented).1
    rw [hkept]
    exact ⟨rfl, rfl, rfl⟩

variable {id : KeyID} {desiredMask : KeyModifierMask} {isAutoRepeat : Bool} {lang : String}

theorem untouched_mapKeyItems {itemList : KeyItemList} {keyItem : KeyItem}
    {desiredState overrideModifiers : KeyModifierMask} (hempty : mapping.keystrokes = [])
    (hfailed : keyMap.mapKeyItems platform itemList keyItem desiredState overrideModifiers isAutoRepeat
      lang mapping = (later, none)) : Untouched mapping later := by
  unfold mapKeyItems at hfailed
  split at hfailed
  · obtain rfl := (Prod.mk.inj hfailed).1
    exact ⟨rfl, rfl, hempty.symm⟩
  · exact absurd (Prod.mk.inj hfailed).2 nofun

theorem untouched_mapCommandKey (hempty : mapping.keystrokes = [])
    (hfailed : keyMap.mapCommandKey platform id desiredMask isAutoRepeat lang mapping = (later, none)) :
    Untouched mapping later := by
  unfold mapCommandKey at hfailed
  split at hfailed
  · obtain rfl := (Prod.mk.inj hfailed).1
    exact ⟨rfl, rfl, rfl⟩
  split at hfailed
  · obtain rfl := (Prod.mk.inj hfailed).1
    exact ⟨rfl, rfl, rfl⟩
  · exact untouched_mapKeyItems hempty hfailed

theorem untouched_mapCharacterKey (hempty : mapping.keystrokes = [])
    (hfailed : keyMap.mapCharacterKey platform id desiredMask isAutoRepeat lang mapping =
      (later, none)) : Untouched mapping later := by
  unfold mapCharacterKey at hfailed
  split at hfailed
  · obtain rfl := (Prod.mk.inj hfailed).1
    exact ⟨rfl, rfl, rfl⟩
  split at hfailed
  · obtain rfl := (Prod.mk.inj hfailed).1
    exact ⟨rfl, rfl, rfl⟩
  · obtain rfl := (Prod.mk.inj hfailed).1
    exact ⟨rfl, rfl, rfl⟩
  · exact untouched_mapKeyItems hempty hfailed

structure FailsAtOnce (keyMap : KeyMap) (id : KeyID) (desiredMask : KeyModifierMask)
    (mapping : Mapping) : Prop where
  set : id = kKeySetModifiers → isPrevented keyMap mapping desiredMask desiredMask = true
  clear : id = kKeyClearModifiers →
    isPrevented keyMap mapping (mapping.currentState &&& ~~~desiredMask) desiredMask = true

/-- **Keys that cannot be mapped leave no trace**, but for the pseudo keys that set and clear
modifiers, and for these where they are prevented at once. The callers start without keystrokes. -/
theorem untouched_iff (hlisted : WellFormed keyMap) (hnext : id ≠ kKeyNextGroup)
    (hprev : id ≠ kKeyPrevGroup) (hempty : mapping.keystrokes = [])
    (hfailed : keyMap.mapKey platform id desiredMask isAutoRepeat lang mapping = (later, none)) :
    Untouched mapping later ↔ FailsAtOnce keyMap id desiredMask mapping := by
  unfold mapKey at hfailed
  rw [if_neg hnext, if_neg hprev] at hfailed
  have hother (hset : id ≠ kKeySetModifiers) (hclear : id ≠ kKeyClearModifiers) :
      FailsAtOnce keyMap id desiredMask mapping :=
    ⟨fun h => absurd h hset, fun h => absurd h hclear⟩
  by_cases hmodifier : id ∈ modifierIDs
  · rw [if_pos hmodifier] at hfailed
    refine iff_of_true (untouched_mapCharacterKey hempty hfailed) (hother ?_ ?_)
    · rintro rfl
      exact absurd hmodifier (by decide)
    · rintro rfl
      exact absurd hmodifier (by decide)
  rw [if_neg hmodifier] at hfailed
  by_cases hset : id = kKeySetModifiers
  · subst hset
    rw [if_pos rfl] at hfailed
    split at hfailed
    · exact absurd (Prod.mk.inj hfailed).2 nofun
    rename_i mapped hmapped
    obtain rfl := (Prod.mk.inj hfailed).1
    rw [untouched_iff_isPrevented hlisted hmapped]
    exact ⟨fun h => ⟨fun _ => h, fun hclear => absurd hclear (by decide)⟩, fun h => h.set rfl⟩
  rw [if_neg hset] at hfailed
  by_cases hclear : id = kKeyClearModifiers
  · subst hclear
    rw [if_pos rfl] at hfailed
    split at hfailed
    · exact absurd (Prod.mk.inj hfailed).2 nofun
    rename_i mapped hmapped
    obtain rfl := (Prod.mk.inj hfailed).1
    rw [untouched_iff_isPrevented hlisted hmapped]
    exact ⟨fun h => ⟨fun hset => absurd hset (by decide), fun _ => h⟩, fun h => h.clear rfl⟩
  rw [if_neg hclear] at hfailed
  refine iff_of_true ?_ (hother hset hclear)
  split_ifs at hfailed
  · exact untouched_mapCommandKey hempty hfailed
  · exact untouched_mapCharacterKey hempty hfailed

def controlMap : KeyMap :=
  (empty.addKeyEntry { id := kKeyControl_L, button := 37, generates := KeyModifierControl }).finish

def released : Mapping := { group := 0, activeModifiers := [], currentState := 0 }

theorem untouched_iff_released :
    Untouched released (controlMap.mapKey .other kKeySetModifiers 3 false "" released).1 ↔
      FailsAtOnce controlMap kKeySetModifiers 3 released :=
  untouched_iff (wellFormed_finish collected_empty.addKeyEntry) (by decide) (by decide) rfl
    (by decide : controlMap.mapKey .other kKeySetModifiers 3 false "" released = (_, none))

/-- Setting control and shift presses control, and then fails for want of a shift key. -/
theorem set_modifiers_leave_control :
    (controlMap.mapKey .other kKeySetModifiers 3 false "" released).2 = none ∧
      ¬ Untouched released (controlMap.mapKey .other kKeySetModifiers 3 false "" released).1 := by
  refine ⟨by decide, fun h => absurd h.keystrokes ?_⟩
  decide

end KeyMap

end DeskflowPlus
