import DeskflowPlus.Client.KeyGroups

/-!
# Active modifiers

Keystrokes for a key that generates one modifier change the active keys of that modifier and its bit of
the modifier state, and nothing else. In a consistent state a modifier is on just when it has an active
key.
-/

namespace DeskflowPlus

namespace ModifierToKeys

variable {modifiers : ModifierToKeys} {mask other : KeyModifierMask} {item : KeyItem}
  {button : KeyButton}

variable {entry : KeyModifierMask × KeyItem}

theorem mem_insert :
    entry ∈ modifiers.insert mask item ↔ entry = (mask, item) ∨ entry ∈ modifiers := by
  have hsplit := List.takeWhile_append_dropWhile (p := fun entry : KeyModifierMask × KeyItem =>
    decide (entry.1 ≤ mask)) (l := modifiers)
  unfold insert
  rw [List.mem_append, List.mem_cons, or_left_comm, ← List.mem_append, hsplit]

theorem mem_equalRange :
    entry ∈ modifiers.equalRange mask ↔ entry ∈ modifiers ∧ entry.1 = mask := by
  unfold equalRange
  rw [List.mem_filter, decide_eq_true_iff]

theorem equalRange_ne_nil_iff : modifiers.equalRange mask ≠ [] ↔ ∃ entry ∈ modifiers, entry.1 = mask := by
  unfold equalRange
  rw [Ne, List.filter_eq_nil_iff]
  simp

theorem equalRange_cons_of_eq (hmask : entry.1 = mask) :
    equalRange (entry :: modifiers) mask = entry :: modifiers.equalRange mask :=
  List.filter_cons_of_pos (p := fun entry : KeyModifierMask × KeyItem => entry.1 = mask)
    (decide_eq_true hmask)

theorem equalRange_cons_of_ne (hmask : entry.1 ≠ mask) :
    equalRange (entry :: modifiers) mask = modifiers.equalRange mask :=
  List.filter_cons_of_neg (p := fun entry : KeyModifierMask × KeyItem => entry.1 = mask)
    (by simpa using hmask)

theorem equalRange_insert_of_ne (hne : mask ≠ other) :
    (modifiers.insert mask item).equalRange other = modifiers.equalRange other := by
  have hsplit := List.takeWhile_append_dropWhile (p := fun entry : KeyModifierMask × KeyItem =>
    decide (entry.1 ≤ mask)) (l := modifiers)
  unfold insert equalRange
  rw [List.filter_append, List.filter_cons_of_neg (by simpa using hne), ← List.filter_append, hsplit]

theorem equalRange_erase_of_ne (hne : mask ≠ other) :
    (modifiers.erase mask).equalRange other = modifiers.equalRange other := by
  unfold erase equalRange
  rw [List.filter_filter]
  refine List.filter_congr fun entry _ => ?_
  by_cases hentry : entry.1 = other
  · simp [hentry, hne.symm]
  · simp [hentry]

theorem equalRange_erase : (modifiers.erase mask).equalRange mask = [] := by
  unfold erase equalRange
  rw [List.filter_filter, List.filter_eq_nil_iff]
  intro entry _
  simp

theorem filter_eraseP {α : Type} {list : List α} {erased kept : α → Bool}
    (hsame : ∀ a b, erased a = true → erased b = true → kept a = kept b) :
    (list.eraseP erased).filter kept = (list.filter kept).eraseP erased := by
  induction list with
  | nil => rfl
  | cons first rest ih =>
    rcases herased : erased first with _ | _
    · rw [List.eraseP_cons_of_neg (by simp [herased])]
      rcases hkept : kept first with _ | _
      · rw [List.filter_cons_of_neg (by simp [hkept]), List.filter_cons_of_neg (by simp [hkept]), ih]
      · rw [List.filter_cons_of_pos hkept, List.filter_cons_of_pos hkept,
          List.eraseP_cons_of_neg (by simp [herased]), ih]
    · rw [List.eraseP_cons_of_pos herased]
      rcases hkept : kept first with _ | _
      · rw [List.filter_cons_of_neg (by simp [hkept]), List.eraseP_of_forall_not]
        intro other hother hother'
        have hlost := hsame first other herased hother'
        rw [hkept, (List.mem_filter.mp hother).2] at hlost
        cases hlost
      · rw [List.filter_cons_of_pos hkept, List.eraseP_cons_of_pos herased]

theorem equalRange_eraseButton : (modifiers.eraseButton mask button).equalRange other =
    (modifiers.equalRange other).eraseP fun entry =>
      decide (entry.1 = mask ∧ entry.2.button = button) := by
  refine filter_eraseP fun first second hfirst hsecond => ?_
  rw [decide_eq_true_iff] at hfirst hsecond
  rw [hfirst.1, hsecond.1]

theorem contains_iff : modifiers.contains mask = true ↔ modifiers.equalRange mask ≠ [] := by
  unfold contains
  rw [List.any_eq_true, equalRange_ne_nil_iff]
  simp

theorem hasButton_iff :
    modifiers.hasButton button = true ↔ ∃ entry ∈ modifiers, entry.2.button = button := by
  unfold hasButton
  rw [List.any_eq_true]
  simp

theorem equalRange_insert_replicate {count : Nat}
    (h : modifiers.equalRange mask = List.replicate count (mask, item)) :
    (modifiers.insert mask item).equalRange mask = List.replicate (count + 1) (mask, item) := by
  refine List.eq_replicate_iff.mpr ⟨?_, fun entry hentry => ?_⟩
  · have hsplit := List.takeWhile_append_dropWhile (p := fun entry : KeyModifierMask × KeyItem =>
      decide (entry.1 ≤ mask)) (l := modifiers)
    have hlength := congrArg List.length h
    unfold equalRange at hlength
    rw [← hsplit, List.filter_append, List.length_append, List.length_replicate] at hlength
    have hnew : decide ((mask, item).1 = mask) = true := decide_eq_true rfl
    unfold insert equalRange
    rw [List.filter_append, List.filter_cons, if_pos hnew, List.length_append, List.length_cons]
    omega
  · obtain ⟨hmem, hmask⟩ := mem_equalRange.mp hentry
    rcases mem_insert.mp hmem with rfl | hold
    · rfl
    · have hlisted := mem_equalRange.mpr ⟨hold, hmask⟩
      rw [h] at hlisted
      exact List.eq_of_mem_replicate hlisted

end ModifierToKeys

namespace KeyMap

variable {platform : Platform} {keyMap : KeyMap} {mapping later : Mapping} {item : KeyItem} {bit : Nat}

theorem bitMask_inj {other : Nat} (hbit : bit < 32) (h : bitMask bit = bitMask other) :
    bit = other ∨ 32 ≤ other := by
  by_cases hother : other < 32
  · have hset : hasBit (bitMask bit) bit = true := by
      unfold bitMask
      rw [hasBit_one_shiftLeft hbit, decide_eq_true rfl]
    rw [h] at hset
    unfold bitMask at hset
    rw [hasBit_one_shiftLeft hother, decide_eq_true_iff] at hset
    exact .inl hset
  · exact .inr (Nat.le_of_not_lt hother)

def Consistent (mapping : Mapping) : Prop :=
  ∀ bit < 32, hasBit mapping.currentState bit = true ↔
    mapping.activeModifiers.equalRange (bitMask bit) ≠ []

structure Changes (bit : Nat) (entries : ModifierToKeys) (mapping later : Mapping) : Prop where
  here : later.activeModifiers.equalRange (bitMask bit) = entries
  elsewhere : ∀ mask, mask ≠ bitMask bit →
    later.activeModifiers.equalRange mask = mapping.activeModifiers.equalRange mask
  bit_iff : hasBit later.currentState bit = true ↔ entries ≠ []
  bits : ∀ other, other ≠ bit → hasBit later.currentState other = hasBit mapping.currentState other

theorem Changes.consistent {entries : ModifierToKeys} (h : Changes bit entries mapping later)
    (hbit : bit < 32) (hconsistent : Consistent mapping) : Consistent later := by
  intro other hother
  by_cases hsame : other = bit
  · rw [hsame, h.here]
    exact h.bit_iff
  · have hne : bitMask other ≠ bitMask bit := fun hmask =>
      (bitMask_inj hother hmask).elim hsame (fun hlarge => by omega)
    rw [h.bits other hsame, h.elsewhere _ hne]
    exact hconsistent other hother

theorem activate_changes (hbit : bit < 32) (hgenerates : item.generates = bitMask bit) :
    Changes bit ((mapping.activeModifiers.insert (bitMask bit) item).equalRange (bitMask bit)) mapping
      (mapping.activate item) := by
  unfold Mapping.activate
  rw [hgenerates]
  refine ⟨rfl, fun mask hne => ModifierToKeys.equalRange_insert_of_ne hne.symm, ?_, ?_⟩
  · have hentry : (bitMask bit, item) ∈
        (mapping.activeModifiers.insert (bitMask bit) item).equalRange (bitMask bit) :=
      ModifierToKeys.mem_equalRange.mpr ⟨ModifierToKeys.mem_insert.mpr (.inl rfl), rfl⟩
    refine iff_of_true ?_ (List.ne_nil_of_mem hentry)
    dsimp only
    rw [hasBit_or, bitMask, hasBit_one_shiftLeft hbit, decide_eq_true rfl, Bool.or_true]
  · intro other hother
    dsimp only
    rw [hasBit_or, bitMask, hasBit_one_shiftLeft hbit, decide_eq_false hother, Bool.or_false]

theorem deactivate_changes (hbit : bit < 32) (hgenerates : item.generates = bitMask bit) :
    Changes bit [] mapping (mapping.deactivate item) := by
  unfold Mapping.deactivate
  rw [hgenerates]
  refine ⟨ModifierToKeys.equalRange_erase, fun mask hne =>
    ModifierToKeys.equalRange_erase_of_ne hne.symm, iff_of_false ?_ (not_not.mpr rfl), ?_⟩
  · dsimp only
    rw [hasBit_and_not, bitMask, hasBit_one_shiftLeft hbit, decide_eq_true rfl, Bool.not_true,
      Bool.and_false]
    nofun
  · intro other hother
    dsimp only
    rw [hasBit_and_not, bitMask, hasBit_one_shiftLeft hbit, decide_eq_false hother, Bool.not_false,
      Bool.and_true]

theorem deactivateButton_changes (hbit : bit < 32) (hgenerates : item.generates = bitMask bit)
    (hconsistent : Consistent mapping) :
    Changes bit ((mapping.activeModifiers.equalRange (bitMask bit)).eraseP fun entry =>
      decide (entry.1 = bitMask bit ∧ entry.2.button = item.button)) mapping
      (mapping.deactivateButton item) := by
  have hkept (mask : KeyModifierMask) (hne : mask ≠ bitMask bit) :
      (mapping.activeModifiers.equalRange mask).eraseP (fun entry =>
        decide (entry.1 = bitMask bit ∧ entry.2.button = item.button)) =
        mapping.activeModifiers.equalRange mask := by
    refine List.eraseP_of_forall_not fun entry hentry => ?_
    rw [decide_eq_true_iff, (ModifierToKeys.mem_equalRange.mp hentry).2]
    exact fun h => hne h.1
  unfold Mapping.deactivateButton
  rw [hgenerates]
  dsimp only
  refine ⟨ModifierToKeys.equalRange_eraseButton, fun mask hne => ?_, ?_, ?_⟩
  · rw [ModifierToKeys.equalRange_eraseButton, hkept mask hne]
  · rw [← ModifierToKeys.equalRange_eraseButton, ← ModifierToKeys.contains_iff]
    dsimp only
    split_ifs with hcontains
    · refine iff_of_true ((hconsistent bit hbit).mpr fun hnone => ?_) hcontains
      rw [ModifierToKeys.contains_iff, ModifierToKeys.equalRange_eraseButton, hnone] at hcontains
      exact hcontains rfl
    · refine iff_of_false ?_ hcontains
      rw [hasBit_and_not, bitMask, hasBit_one_shiftLeft hbit, decide_eq_true rfl, Bool.not_true,
        Bool.and_false]
      nofun
  · intro other hother
    dsimp only
    split_ifs
    · rfl
    · rw [hasBit_and_not, bitMask, hasBit_one_shiftLeft hbit, decide_eq_false hother, Bool.not_false,
        Bool.and_true]

theorem Changes.push {entries : ModifierToKeys} {strokes : List Keystroke}
    (h : Changes bit entries (mapping.push strokes) later) : Changes bit entries mapping later :=
  ⟨h.here, h.elsewhere, h.bit_iff, h.bits⟩

theorem modify_changes (hbit : bit < 32) (hgenerates : item.generates = bitMask bit) :
    Changes bit ((mapping.activeModifiers.insert (bitMask bit) item).equalRange (bitMask bit)) mapping
      (keyMap.addKeystrokes platform .modify item mapping) :=
  (activate_changes hbit hgenerates).push

theorem unmodify_changes (hbit : bit < 32) (hgenerates : item.generates = bitMask bit) :
    Changes bit [] mapping (keyMap.addKeystrokes platform .unmodify item mapping) :=
  (deactivate_changes hbit hgenerates).push

theorem bitMask_ne_zero (hbit : bit < 32) : bitMask bit ≠ 0 := by
  intro hzero
  have hunset := eq_zero_iff_hasBit.mp hzero bit
  unfold bitMask at hunset
  rw [hasBit_one_shiftLeft hbit, decide_eq_true rfl] at hunset
  cases hunset

theorem press_changes (hbit : bit < 32) (hgenerates : item.generates = bitMask bit)
    (hlock : item.lock = false) :
    Changes bit ((mapping.activeModifiers.insert (bitMask bit) item).equalRange (bitMask bit)) mapping
      (keyMap.addKeystrokes platform .press item mapping) := by
  have hne : item.generates ≠ 0 := hgenerates ▸ bitMask_ne_zero hbit
  have hunlocked : (!item.lock || decide (mapping.currentState &&& item.generates = 0)) = true := by
    rw [hlock]
    rfl
  unfold addKeystrokes
  dsimp only
  rw [if_neg hne, if_pos hunlocked]
  exact (activate_changes hbit hgenerates).push

theorem release_changes (hbit : bit < 32) (hgenerates : item.generates = bitMask bit)
    (hlock : item.lock = false) (hconsistent : Consistent mapping) :
    Changes bit ((mapping.activeModifiers.equalRange (bitMask bit)).eraseP fun entry =>
      decide (entry.1 = bitMask bit ∧ entry.2.button = item.button)) mapping
      (keyMap.addKeystrokes platform .release item mapping) := by
  have hne : item.generates ≠ 0 ∧ (!item.lock) = true :=
    ⟨hgenerates ▸ bitMask_ne_zero hbit, by rw [hlock]; rfl⟩
  unfold addKeystrokes
  dsimp only
  rw [if_pos hne]
  have hpushed : Consistent (mapping.push [.button item.button false false item.client]) := hconsistent
  exact (deactivateButton_changes hbit hgenerates hpushed).push

end KeyMap

end DeskflowPlus
