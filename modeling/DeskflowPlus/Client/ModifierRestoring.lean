import DeskflowPlus.Client.ActiveModifiers

/-!
# Restoring the modifiers

While a key is mapped, the active keys of a modifier are those from before, or none, or some presses of
one key that was picked for the modifier. Afterwards the keys that were not active before are released
and those that were are pressed again, each by its button.
-/

namespace DeskflowPlus

namespace KeyMap

variable {platform : Platform} {keyMap : KeyMap} {button : KeyButton} {group : Int}
  {mapping prepared later : Mapping} {item : KeyItem} {bit : Nat}

def Moves (keyMap : KeyMap) (button : KeyButton) (group : Int) (mapping later : Mapping) : Prop :=
  ∀ mask, later.activeModifiers.equalRange mask = mapping.activeModifiers.equalRange mask ∨
    ∃ bit < kKeyModifierNumBits, mask = bitMask bit ∧ ∃ item count,
      keyMap.keyForModifier button group bit = some item ∧
        later.activeModifiers.equalRange mask = List.replicate count (mask, item)

def OnlyPicked (keyMap : KeyMap) (button : KeyButton) (group : Int) (mapping : Mapping) (bit : Nat) :
    Prop :=
  ∀ item, keyMap.keyForModifier button group bit = some item →
    ∃ count, mapping.activeModifiers.equalRange (bitMask bit) =
      List.replicate count (bitMask bit, item)

theorem Moves.refl : Moves keyMap button group mapping mapping := fun _ => .inl rfl

theorem Moves.trans (hfirst : Moves keyMap button group mapping prepared)
    (hsecond : Moves keyMap button group prepared later) : Moves keyMap button group mapping later := by
  intro mask
  rcases hsecond mask with hsame | hpicked
  · rw [hsame]
    exact hfirst mask
  · exact .inr hpicked

theorem Moves.onlyPicked (h : Moves keyMap button group mapping later) (hbit : bit < kKeyModifierNumBits)
    (honly : OnlyPicked keyMap button group mapping bit) : OnlyPicked keyMap button group later bit := by
  intro item hitem
  rcases h (bitMask bit) with hsame | ⟨other, hother, hmask, picked, count, hpicked, hentries⟩
  · rw [hsame]
    exact honly item hitem
  · obtain rfl : bit = other := by
      rcases bitMask_inj (lt_of_modifier hbit) hmask with hsame | hlarge
      · exact hsame
      · exact absurd (lt_of_modifier hother) (Nat.not_lt.mpr hlarge)
    obtain rfl : item = picked := Option.some.inj (hitem.symm.trans hpicked)
    exact ⟨count, hentries⟩

theorem Changes.moves {count : Nat} (hbit : bit < kKeyModifierNumBits)
    (hitem : keyMap.keyForModifier button group bit = some item)
    (h : Changes bit (List.replicate count (bitMask bit, item)) mapping later) :
    Moves keyMap button group mapping later := by
  intro mask
  by_cases hmask : mask = bitMask bit
  · rw [hmask]
    exact .inr ⟨bit, hbit, rfl, item, count, hitem, h.here⟩
  · exact .inl (h.elsewhere mask hmask)

theorem onlyPicked_of_off (hconsistent : Consistent mapping) (hbit : bit < kKeyModifierNumBits)
    (hoff : hasBit mapping.currentState bit = false) : OnlyPicked keyMap button group mapping bit := by
  intro item _
  refine ⟨0, ?_⟩
  by_contra hne
  rw [(hconsistent bit (lt_of_modifier hbit)).mpr hne] at hoff
  cases hoff

def PicksGenerate (keyMap : KeyMap) : Prop :=
  ∀ button group bit item, bit < kKeyModifierNumBits →
    keyMap.keyForModifier button group bit = some item → item.generates = bitMask bit

variable {notRequiredMask requiredState : KeyModifierMask}

theorem Adjusts.moves (hpicks : PicksGenerate keyMap) (hbound : bit ≤ kKeyModifierNumBits)
    {flipMask : KeyModifierMask} {okay : Bool}
    (h : Adjusts platform keyMap button group notRequiredMask bit requiredState flipMask mapping later
      okay) (hconsistent : Consistent mapping)
    (honly : ∀ other < bit, hasBit flipMask other = true → hasBit requiredState other = true →
      OnlyPicked keyMap button group mapping other) :
    Moves keyMap button group mapping later ∧ Consistent later := by
  have hpreparation {state : KeyModifierMask} {item : KeyItem} {bit other : Nat}
      (hset : hasBit (preparation notRequiredMask item bit state) other = true)
      (hrequired : hasBit item.required other = true) : hasBit state other = false := by
    rw [hasBit_preparation, hrequired, Bool.and_eq_true, Bool.and_eq_true, Bool.xor_true,
      Bool.not_eq_true'] at hset
    exact hset.1.1
  induction h with
  | done => exact ⟨.refl, hconsistent⟩
  | skip _ _ ih =>
    exact ih (Nat.le_of_succ_le hbound) hconsistent fun other hother =>
      honly other (Nat.lt_succ_of_lt hother)
  | refused _ _ => exact ⟨.refl, hconsistent⟩
  | unprepared hflip hitem hlower hactive hprepared hunmet ih =>
    refine ih (Nat.le_of_succ_le hbound) hconsistent fun other hother hset hrequired => ?_
    exact onlyPicked_of_off hconsistent (Nat.lt_of_lt_of_le hother (Nat.le_of_succ_le hbound))
      (hpreparation hset hrequired)
  | @pressed bit requiredState flipMask mapping prepared later okay item hflip hitem hlower hactive
      hprepared hmet hrest ihPrepared ihRest =>
    obtain ⟨hmoves, hthen⟩ := ihPrepared (Nat.le_of_succ_le hbound) hconsistent
      fun other hother hset hrequired => onlyPicked_of_off hconsistent
        (Nat.lt_of_lt_of_le hother (Nat.le_of_succ_le hbound)) (hpreparation hset hrequired)
    have hset : hasBit flipMask bit = true := hasBit_of_and_bitMask_ne_zero hbound hflip
    have hrequired : hasBit requiredState bit = true := hasBit_of_and_bitMask_ne_zero hbound hactive
    obtain ⟨count, hentries⟩ :=
      hmoves.onlyPicked hbound (honly bit (Nat.lt_succ_self bit) hset hrequired) item hitem
    have hchanges := @modify_changes platform keyMap prepared item bit (lt_of_modifier hbound)
      (hpicks _ _ _ _ hbound hitem)
    rw [ModifierToKeys.equalRange_insert_replicate hentries] at hchanges
    have hpressed := hmoves.trans (hchanges.moves hbound hitem)
    obtain ⟨hlast, hafter⟩ := ihRest (Nat.le_of_succ_le hbound)
      (hchanges.consistent (lt_of_modifier hbound) hthen) fun other hother hset hrequired =>
        hpressed.onlyPicked (Nat.lt_trans hother hbound)
          (honly other (Nat.lt_succ_of_lt hother) hset hrequired)
    exact ⟨hpressed.trans hlast, hafter⟩
  | @released bit requiredState flipMask mapping later okay item hflip hitem hlower hinactive hmet hrest
      ih =>
    have hchanges : Changes bit (List.replicate 0 (bitMask bit, item)) mapping
        (keyMap.addKeystrokes platform .unmodify item mapping) :=
      unmodify_changes (lt_of_modifier hbound) (hpicks _ _ _ _ hbound hitem)
    have hreleased := hchanges.moves hbound hitem
    obtain ⟨hlast, hafter⟩ := ih (Nat.le_of_succ_le hbound)
      (hchanges.consistent (lt_of_modifier hbound) hconsistent) fun other hother hset hrequired =>
        hreleased.onlyPicked (Nat.lt_trans hother hbound)
          (honly other (Nat.lt_succ_of_lt hother) hset hrequired)
    exact ⟨hreleased.trans hlast, hafter⟩

theorem keysForModifierState_moves (hpicks : PicksGenerate keyMap) {sensitiveMask : KeyModifierMask}
    (hconsistent : Consistent mapping) :
    Moves keyMap button group mapping (keyMap.keysForModifierState platform button group requiredState
        sensitiveMask notRequiredMask mapping).1 ∧
      Consistent (keyMap.keysForModifierState platform button group requiredState sensitiveMask
        notRequiredMask mapping).1 := by
  refine adjusts_adjustModifiers.moves hpicks (Nat.le_refl _) hconsistent fun bit hbit hset hrequired => ?_
  rw [hasBit_and_not, hasBit_and, hasBit_xor, hrequired, Bool.and_eq_true, Bool.and_eq_true,
    Bool.xor_true, Bool.not_eq_true'] at hset
  exact onlyPicked_of_off hconsistent hbit hset.1.1

def Traced (keyMap : KeyMap) (before : ModifierToKeys) (mapping : Mapping) : Prop :=
  ∀ mask, mapping.activeModifiers.equalRange mask = before.equalRange mask ∨
    ∃ item ∈ keyMap.items, ∃ count, item.generates = mask ∧ mask ≠ 0 ∧
      mapping.activeModifiers.equalRange mask = List.replicate count (mask, item)

theorem mem_items_of_keyForModifier (h : keyMap.keyForModifier button group bit = some item) :
    item.generates ≠ 0 ∧ item ∈ keyMap.items := by
  have hlisted := List.mem_of_find?_eq_some h
  by_cases hbound : group.toNat * kKeyModifierNumBits + bit < keyMap.modifierKeys.length
  · rw [List.getD_eq_getElem _ _ hbound] at hlisted
    exact keyMap.modifiersListed _ (List.getElem_mem hbound) item hlisted
  · rw [List.getD_eq_default _ _ (Nat.le_of_not_lt hbound)] at hlisted
    cases hlisted

theorem Traced.moves (hpicks : PicksGenerate keyMap) {before : ModifierToKeys}
    (htraced : Traced keyMap before mapping) (h : Moves keyMap button group mapping later) :
    Traced keyMap before later := by
  intro mask
  rcases h mask with hsame | ⟨bit, hbit, rfl, item, count, hitem, hentries⟩
  · rw [hsame]
    exact htraced mask
  · exact .inr ⟨item, (mem_items_of_keyForModifier hitem).2, count, hpicks _ _ _ _ hbit hitem,
      bitMask_ne_zero (lt_of_modifier hbit), hentries⟩

theorem addKeystrokes_of_generates_zero {type : EKeystroke}
    (htype : type = .press ∨ type = .repeated ∨ type = .click) (hnone : item.generates = 0) :
    (keyMap.addKeystrokes platform type item mapping).activeModifiers = mapping.activeModifiers ∧
      (keyMap.addKeystrokes platform type item mapping).currentState = mapping.currentState := by
  unfold addKeystrokes
  rcases htype with rfl | rfl | rfl
  · dsimp only
    rw [if_pos hnone]
    exact ⟨rfl, rfl⟩
  · cases platform <;> exact ⟨rfl, rfl⟩
  · exact ⟨rfl, rfl⟩

theorem traced_congr {before : ModifierToKeys}
    (hsame : later.activeModifiers = mapping.activeModifiers ∧ later.currentState = mapping.currentState)
    (h : Traced keyMap before mapping ∧ Consistent mapping) :
    Traced keyMap before later ∧ Consistent later := by
  unfold Traced Consistent at h ⊢
  rw [hsame.1, hsame.2]
  exact h

variable {desiredState overrideModifiers : KeyModifierMask} {isAutoRepeat : Bool} {lang : String}
  {before : ModifierToKeys}

theorem traced_keysForModifierState (hpicks : PicksGenerate keyMap)
    {sensitiveMask : KeyModifierMask} (h : Traced keyMap before mapping ∧ Consistent mapping) :
    Traced keyMap before (keyMap.keysForModifierState platform button group requiredState
        sensitiveMask notRequiredMask mapping).1 ∧
      Consistent (keyMap.keysForModifierState platform button group requiredState sensitiveMask
        notRequiredMask mapping).1 := by
  obtain ⟨hmoves, hconsistent⟩ := keysForModifierState_moves hpicks h.2
  exact ⟨h.1.moves hpicks hmoves, hconsistent⟩

theorem traced_keysForKeyItem (hpicks : PicksGenerate keyMap) (hnone : item.generates = 0)
    (h : Traced keyMap before mapping ∧ Consistent mapping) :
    Traced keyMap before (keyMap.keysForKeyItem platform item desiredState overrideModifiers isAutoRepeat
        lang mapping).1 ∧
      Consistent (keyMap.keysForKeyItem platform item desiredState overrideModifiers isAutoRepeat lang
        mapping).1 := by
  have hentered : Traced keyMap before (keyMap.enterGroup item lang mapping) ∧
      Consistent (keyMap.enterGroup item lang mapping) := by
    refine traced_congr ?_ h
    unfold enterGroup addGroupToKeystroke Mapping.push
    split_ifs <;> exact ⟨rfl, rfl⟩
  rw [keysForKeyItem_eq]
  dsimp only
  generalize (if item.dead = true then item.sensitive else item.sensitive &&& ~~~overrideModifiers) =
    sensitive
  have hrequired : Traced keyMap before (keyMap.keysForModifierState platform item.button
        (keyMap.groupFor item lang mapping.group) item.required sensitive 0
        (keyMap.enterGroup item lang mapping)).1 ∧
      Consistent (keyMap.keysForModifierState platform item.button
        (keyMap.groupFor item lang mapping.group) item.required sensitive 0
        (keyMap.enterGroup item lang mapping)).1 := traced_keysForModifierState hpicks hentered
  split_ifs
  · exact hrequired
  · exact traced_congr (addKeystrokes_of_generates_zero (.inr (.inr rfl)) hnone) hrequired
  · exact traced_keysForModifierState hpicks hrequired
  · exact traced_congr (addKeystrokes_of_generates_zero (.inr (.inl rfl)) hnone)
      (traced_keysForModifierState hpicks hrequired)
  · exact traced_congr (addKeystrokes_of_generates_zero (.inl rfl) hnone)
      (traced_keysForModifierState hpicks hrequired)

theorem traced_keysForKeyItems (hpicks : PicksGenerate keyMap) {items : KeyItemList}
    (hnone : ∀ item ∈ items, item.generates = 0)
    (h : Traced keyMap before mapping ∧ Consistent mapping) :
    Traced keyMap before (keyMap.keysForKeyItems platform desiredState overrideModifiers isAutoRepeat
        lang items mapping).1 ∧
      Consistent (keyMap.keysForKeyItems platform desiredState overrideModifiers isAutoRepeat lang items
        mapping).1 := by
  induction items generalizing mapping with
  | nil => exact h
  | cons item items ih =>
    obtain ⟨hitem, hitems⟩ := List.forall_mem_cons.mp hnone
    have hmapped := @traced_keysForKeyItem platform keyMap mapping item desiredState overrideModifiers
      isAutoRepeat lang before hpicks hitem h
    unfold keysForKeyItems
    rcases hresult : keyMap.keysForKeyItem platform item desiredState overrideModifiers isAutoRepeat lang
      mapping with ⟨mapped, _ | _⟩
    · rw [hresult] at hmapped
      exact hmapped
    · rw [hresult] at hmapped
      exact ih hitems hmapped

def Known (keyMap : KeyMap) (active : ModifierToKeys) (item : KeyItem) : Prop :=
  item ∈ keyMap.items ∨ ∃ entry ∈ active, entry.2 = item

def Keyed (entry : KeyModifierMask × KeyItem) : Prop :=
  ∃ bit < 32, entry.1 = bitMask bit ∧ entry.2.generates = bitMask bit

structure OneModifierEach (keyMap : KeyMap) (active : ModifierToKeys) : Prop where
  single : ∀ item ∈ keyMap.items, item.generates = 0 ∨ ∃ bit < 32, item.generates = bitMask bit
  keyed : ∀ entry ∈ active, Keyed entry
  same : ∀ first second, Known keyMap active first → Known keyMap active second →
    first.button = second.button → first.generates = second.generates

theorem OneModifierEach.picks {active : ModifierToKeys} (h : OneModifierEach keyMap active)
    (hlisted : ModifiersGenerate keyMap) : PicksGenerate keyMap := by
  intro button group bit item hbit hitem
  obtain ⟨hne, hmem⟩ := mem_items_of_keyForModifier hitem
  obtain ⟨other, hother, hgenerates⟩ := (h.single item hmem).resolve_left hne
  have hset := hlisted _ bit hbit item (List.mem_of_find?_eq_some hitem)
  rw [hgenerates, bitMask, hasBit_one_shiftLeft hother, decide_eq_true_iff] at hset
  rw [hset, hgenerates]

theorem OneModifierEach.of_traced (h : OneModifierEach keyMap before)
    (htraced : Traced keyMap before mapping) {entry : KeyModifierMask × KeyItem}
    (hentry : entry ∈ mapping.activeModifiers) : Keyed entry ∧ Known keyMap before entry.2 := by
  have hlisted : entry ∈ mapping.activeModifiers.equalRange entry.1 :=
    ModifierToKeys.mem_equalRange.mpr ⟨hentry, rfl⟩
  rcases htraced entry.1 with hsame | ⟨item, hitem, count, hgenerates, hne, hentries⟩
  · rw [hsame] at hlisted
    have hbefore := (ModifierToKeys.mem_equalRange.mp hlisted).1
    exact ⟨h.keyed entry hbefore, .inr ⟨entry, hbefore, rfl⟩⟩
  · rw [hentries] at hlisted
    have hpicked : entry.2 = item := congrArg Prod.snd (List.eq_of_mem_replicate hlisted)
    rw [hpicked]
    refine ⟨?_, .inl hitem⟩
    obtain ⟨bit, hbit, hmask⟩ := (h.single item hitem).resolve_left (hgenerates ▸ hne)
    exact ⟨bit, hbit, hgenerates ▸ hmask, hpicked ▸ hmask⟩

/-- A step of the first loop of `keysToRestoreModifiers`. -/
def releaseUnwanted (platform : Platform) (keyMap : KeyMap) (button : KeyButton)
    (wanted : ModifierToKeys) (mapping : Mapping) (entry : KeyModifierMask × KeyItem) : Mapping :=
  if entry.2.button ≠ button ∧ !wanted.hasButton entry.2.button then
    keyMap.addKeystrokes platform (if entry.2.lock then .unmodify else .release) entry.2 mapping
  else mapping

/-- A step of its second loop. -/
def pressWanted (platform : Platform) (keyMap : KeyMap) (button : KeyButton) (old : ModifierToKeys)
    (mapping : Mapping) (entry : KeyModifierMask × KeyItem) : Mapping :=
  if entry.2.button ≠ button ∧ !old.hasButton entry.2.button then
    keyMap.addKeystrokes platform (if entry.2.lock then .modify else .press) entry.2 mapping
  else mapping

theorem keysToRestoreModifiers_eq {wanted : ModifierToKeys} :
    keyMap.keysToRestoreModifiers platform item wanted mapping =
      wanted.foldl (pressWanted platform keyMap item.button mapping.activeModifiers)
        (mapping.activeModifiers.foldl (releaseUnwanted platform keyMap item.button wanted) mapping) :=
  rfl

variable {wanted old : ModifierToKeys} {entry : KeyModifierMask × KeyItem} {mask : KeyModifierMask}

def Unwanted (button : KeyButton) (wanted : ModifierToKeys) (entry : KeyModifierMask × KeyItem) : Prop :=
  entry.2.button ≠ button ∧ !wanted.hasButton entry.2.button

instance : Decidable (Unwanted button wanted entry) := inferInstanceAs (Decidable (_ ∧ _))

theorem releaseUnwanted_of_not (h : ¬ Unwanted button wanted entry) :
    releaseUnwanted platform keyMap button wanted mapping entry = mapping :=
  if_neg h

theorem pressWanted_of_not (h : ¬ Unwanted button old entry) :
    pressWanted platform keyMap button old mapping entry = mapping :=
  if_neg h

theorem releaseUnwanted_changes (hkeyed : Keyed entry) (hconsistent : Consistent mapping)
    (h : Unwanted button wanted entry) :
    ∃ bit < 32, entry.1 = bitMask bit ∧ ∃ entries, Changes bit entries mapping
      (releaseUnwanted platform keyMap button wanted mapping entry) ∧
        (entries = [] ∨ entries = (mapping.activeModifiers.equalRange entry.1).eraseP fun other =>
          decide (other.1 = entry.1 ∧ other.2.button = entry.2.button)) := by
  obtain ⟨bit, hbit, hmask, hgenerates⟩ := hkeyed
  have hreleased : releaseUnwanted platform keyMap button wanted mapping entry =
      keyMap.addKeystrokes platform (if entry.2.lock then .unmodify else .release) entry.2 mapping :=
    if_pos h
  rw [hreleased]
  refine ⟨bit, hbit, hmask, ?_⟩
  rcases hlock : entry.2.lock with _ | _
  · refine ⟨_, release_changes hbit hgenerates hlock hconsistent, .inr ?_⟩
    rw [hmask]
  · exact ⟨[], unmodify_changes hbit hgenerates, .inl rfl⟩

theorem pressWanted_changes (hkeyed : Keyed entry) (h : Unwanted button old entry) :
    ∃ bit < 32, entry.1 = bitMask bit ∧ Changes bit
      ((mapping.activeModifiers.insert entry.1 entry.2).equalRange entry.1) mapping
      (pressWanted platform keyMap button old mapping entry) := by
  obtain ⟨bit, hbit, hmask, hgenerates⟩ := hkeyed
  have hpressed : pressWanted platform keyMap button old mapping entry =
      keyMap.addKeystrokes platform (if entry.2.lock then .modify else .press) entry.2 mapping :=
    if_pos h
  rw [hpressed, hmask]
  refine ⟨bit, hbit, rfl, ?_⟩
  rcases hlock : entry.2.lock with _ | _
  · exact press_changes hbit hgenerates hlock
  · exact modify_changes hbit hgenerates

variable {entries : ModifierToKeys}

theorem consistent_releaseUnwanted (hkeyed : ∀ entry ∈ entries, Keyed entry)
    (hconsistent : Consistent mapping) :
    Consistent (entries.foldl (releaseUnwanted platform keyMap button wanted) mapping) := by
  induction entries generalizing mapping with
  | nil => exact hconsistent
  | cons entry entries ih =>
    obtain ⟨hentry, hentries⟩ := List.forall_mem_cons.mp hkeyed
    refine ih hentries ?_
    by_cases hunwanted : Unwanted button wanted entry
    · obtain ⟨bit, hbit, -, after, hchanges, -⟩ := releaseUnwanted_changes hentry hconsistent hunwanted
      exact hchanges.consistent hbit hconsistent
    · rw [releaseUnwanted_of_not hunwanted]
      exact hconsistent

theorem equalRange_kept (hkeyed : ∀ entry ∈ entries, Keyed entry) (hconsistent : Consistent mapping)
    (hkept : ∀ entry ∈ entries, entry.1 = mask → ¬ Unwanted button wanted entry) :
    (entries.foldl (releaseUnwanted platform keyMap button wanted)
      mapping).activeModifiers.equalRange mask = mapping.activeModifiers.equalRange mask := by
  induction entries generalizing mapping with
  | nil => rfl
  | cons entry entries ih =>
    obtain ⟨hentry, hentries⟩ := List.forall_mem_cons.mp hkeyed
    obtain ⟨hfirst, hrest⟩ := List.forall_mem_cons.mp hkept
    rw [List.foldl_cons]
    by_cases hunwanted : Unwanted button wanted entry
    · obtain ⟨bit, hbit, hmask, after, hchanges, -⟩ := @releaseUnwanted_changes platform keyMap button
        mapping wanted entry hentry hconsistent hunwanted
      have hne : mask ≠ bitMask bit := fun hsame => hfirst (hmask.trans hsame.symm) hunwanted
      rw [ih hentries (hchanges.consistent hbit hconsistent) hrest, hchanges.elsewhere mask hne]
    · rw [releaseUnwanted_of_not hunwanted]
      exact ih hentries hconsistent hrest

theorem equalRange_gone (hkeyed : ∀ entry ∈ entries, Keyed entry) (hconsistent : Consistent mapping)
    (hunwanted : Unwanted button wanted (mask, item))
    (honly : ∀ entry ∈ entries, entry.1 = mask → entry = (mask, item)) {count : Nat}
    (hcount : count ≤ (ModifierToKeys.equalRange entries mask).length)
    (hpresses : mapping.activeModifiers.equalRange mask = List.replicate count (mask, item)) :
    (entries.foldl (releaseUnwanted platform keyMap button wanted)
      mapping).activeModifiers.equalRange mask = [] := by
  induction entries generalizing mapping count with
  | nil =>
    rw [Nat.le_zero.mp hcount] at hpresses
    exact hpresses
  | cons entry entries ih =>
    obtain ⟨hentry, hentries⟩ := List.forall_mem_cons.mp hkeyed
    obtain ⟨hfirst, hrest⟩ := List.forall_mem_cons.mp honly
    rw [List.foldl_cons]
    by_cases hmask : entry.1 = mask
    · rw [ModifierToKeys.equalRange_cons_of_eq hmask, List.length_cons] at hcount
      obtain rfl := hfirst hmask
      obtain ⟨bit, hbit, hbitMask, after, hchanges, hafter⟩ := @releaseUnwanted_changes platform keyMap
        button mapping wanted _ hentry hconsistent hunwanted
      have hleft : ∃ left, left ≤ (ModifierToKeys.equalRange entries mask).length ∧
          after = List.replicate left (mask, item) := by
        rcases hafter with rfl | rfl
        · exact ⟨0, Nat.zero_le _, rfl⟩
        · rw [hpresses]
          rcases count with _ | count
          · exact ⟨0, Nat.zero_le _, rfl⟩
          · rw [List.replicate_succ, List.eraseP_cons_of_pos (by simp)]
            exact ⟨count, Nat.le_of_succ_le_succ hcount, rfl⟩
      obtain ⟨left, hleft, rfl⟩ := hleft
      have hhere := hchanges.here
      rw [← hbitMask] at hhere
      exact ih hentries (hchanges.consistent hbit hconsistent) hrest hleft hhere
    · rw [ModifierToKeys.equalRange_cons_of_ne hmask] at hcount
      by_cases hreleased : Unwanted button wanted entry
      · obtain ⟨bit, hbit, hbitMask, after, hchanges, -⟩ := @releaseUnwanted_changes platform keyMap button
          mapping wanted entry hentry hconsistent hreleased
        have hne : mask ≠ bitMask bit := fun hsame => hmask (hbitMask.trans hsame.symm)
        exact ih hentries (hchanges.consistent hbit hconsistent) hrest hcount
          ((hchanges.elsewhere mask hne).trans hpresses)
      · rw [releaseUnwanted_of_not hreleased]
        exact ih hentries hconsistent hrest hcount hpresses

theorem mem_pressWanted (hkeyed : ∀ entry ∈ entries, Keyed entry) :
    entry ∈ (entries.foldl (pressWanted platform keyMap button old) mapping).activeModifiers ↔
      entry ∈ mapping.activeModifiers ∨ entry ∈ entries ∧ Unwanted button old entry := by
  induction entries generalizing mapping with
  | nil => exact ⟨.inl, fun h => h.resolve_right fun hnone => nomatch hnone.1⟩
  | cons first entries ih =>
    obtain ⟨hfirst, hentries⟩ := List.forall_mem_cons.mp hkeyed
    have hstep : entry ∈ (pressWanted platform keyMap button old mapping first).activeModifiers ↔
        entry ∈ mapping.activeModifiers ∨ entry = first ∧ Unwanted button old first := by
      by_cases hpressed : Unwanted button old first
      · obtain ⟨bit, hbit, hmask, hchanges⟩ := @pressWanted_changes platform keyMap button mapping old
          first hfirst hpressed
        have hlisted (mapping : Mapping) : entry ∈ mapping.activeModifiers ↔
            entry ∈ mapping.activeModifiers.equalRange entry.1 :=
          ⟨fun h => ModifierToKeys.mem_equalRange.mpr ⟨h, rfl⟩,
            fun h => (ModifierToKeys.mem_equalRange.mp h).1⟩
        by_cases hsame : entry.1 = bitMask bit
        · rw [hlisted, hsame, hchanges.here, ModifierToKeys.mem_equalRange, ModifierToKeys.mem_insert]
          have hentry : entry.1 = first.1 := hsame.trans hmask.symm
          constructor
          · rintro ⟨rfl | hold, -⟩
            · exact .inr ⟨rfl, hpressed⟩
            · exact .inl hold
          · rintro (hold | ⟨rfl, -⟩)
            · exact ⟨.inr hold, hentry⟩
            · exact ⟨.inl rfl, rfl⟩
        · rw [hlisted, hlisted mapping, hchanges.elsewhere _ hsame]
          refine ⟨.inl, fun h => h.resolve_right fun hfirst => hsame ?_⟩
          rw [hfirst.1, hmask]
      · rw [pressWanted_of_not hpressed]
        exact ⟨.inl, fun h => h.resolve_right fun hfirst => hpressed hfirst.2⟩
    rw [List.foldl_cons, ih hentries, hstep, List.mem_cons]
    constructor
    · rintro ((hold | ⟨rfl, hpressed⟩) | ⟨hlater, hpressed⟩)
      · exact .inl hold
      · exact .inr ⟨.inl rfl, hpressed⟩
      · exact .inr ⟨.inr hlater, hpressed⟩
    · rintro (hold | ⟨rfl | hlater, hpressed⟩)
      · exact .inl (.inl hold)
      · exact .inl (.inr ⟨rfl, hpressed⟩)
      · exact .inr ⟨hlater, hpressed⟩

theorem consistent_pressWanted (hkeyed : ∀ entry ∈ entries, Keyed entry)
    (hconsistent : Consistent mapping) :
    Consistent (entries.foldl (pressWanted platform keyMap button old) mapping) := by
  induction entries generalizing mapping with
  | nil => exact hconsistent
  | cons entry entries ih =>
    obtain ⟨hentry, hentries⟩ := List.forall_mem_cons.mp hkeyed
    refine ih hentries ?_
    by_cases hpressed : Unwanted button old entry
    · obtain ⟨bit, hbit, -, hchanges⟩ := @pressWanted_changes platform keyMap button mapping old entry
        hentry hpressed
      exact hchanges.consistent hbit hconsistent
    · rw [pressWanted_of_not hpressed]
      exact hconsistent

structure Restored (earlier later : Mapping) : Prop where
  buttons : ∀ mask button,
    (∃ entry ∈ later.activeModifiers, entry.1 = mask ∧ entry.2.button = button) ↔
      ∃ entry ∈ earlier.activeModifiers, entry.1 = mask ∧ entry.2.button = button
  currentState : later.currentState = earlier.currentState

theorem equalRange_released (hone : OneModifierEach keyMap before) (hitem : item ∈ keyMap.items)
    (hnone : item.generates = 0) (htraced : Traced keyMap before prepared)
    (hprepared : Consistent prepared) {released : Mapping}
    (hreleased : prepared.activeModifiers.foldl
      (releaseUnwanted platform keyMap item.button before) prepared = released) :
    released.activeModifiers.equalRange mask = prepared.activeModifiers.equalRange mask ∧
        (∀ entry ∈ prepared.activeModifiers.equalRange mask,
          before.hasButton entry.2.button = true) ∨
      released.activeModifiers.equalRange mask = [] ∧
        ∀ entry ∈ prepared.activeModifiers.equalRange mask,
          before.hasButton entry.2.button = false := by
  have hkeyed (entry : KeyModifierMask × KeyItem) (hentry : entry ∈ prepared.activeModifiers) :
      Keyed entry := (hone.of_traced htraced hentry).1
  have hlisted {entry : KeyModifierMask × KeyItem} (hentry : entry ∈ prepared.activeModifiers)
      (hmask : entry.1 = mask) : entry ∈ prepared.activeModifiers.equalRange mask :=
    ModifierToKeys.mem_equalRange.mpr ⟨hentry, hmask⟩
  have hkept (hwanted : ∀ entry ∈ prepared.activeModifiers.equalRange mask,
      before.hasButton entry.2.button = true) :
      released.activeModifiers.equalRange mask = prepared.activeModifiers.equalRange mask := by
    rw [← hreleased]
    refine equalRange_kept hkeyed hprepared fun entry hentry hmask hunwanted => ?_
    rw [Unwanted, hwanted entry (hlisted hentry hmask)] at hunwanted
    cases hunwanted.2
  rcases htraced mask with hsame | ⟨picked, hpicked, count, hgenerates, hne, hentries⟩
  · have hwanted : ∀ entry ∈ prepared.activeModifiers.equalRange mask,
        before.hasButton entry.2.button = true := by
      intro entry hentry
      rw [hsame] at hentry
      exact ModifierToKeys.hasButton_iff.mpr ⟨entry, (ModifierToKeys.mem_equalRange.mp hentry).1, rfl⟩
    exact .inl ⟨hkept hwanted, hwanted⟩
  have honly {entry : KeyModifierMask × KeyItem}
      (hentry : entry ∈ prepared.activeModifiers.equalRange mask) : entry = (mask, picked) := by
    rw [hentries] at hentry
    exact List.eq_of_mem_replicate hentry
  rcases hwanted : before.hasButton picked.button with _ | _
  · refine .inr ⟨?_, fun entry hentry => honly hentry ▸ hwanted⟩
    have hunwanted : Unwanted item.button before (mask, picked) := by
      refine ⟨fun hbutton => hne ?_, by rw [hwanted]; rfl⟩
      rw [← hgenerates, hone.same picked item (.inl hpicked) (.inl hitem) hbutton, hnone]
    rw [← hreleased]
    refine equalRange_gone hkeyed hprepared hunwanted
      (fun entry hentry hmask => honly (hlisted hentry hmask)) (Nat.le_of_eq ?_) hentries
    rw [hentries, List.length_replicate]
  · have hwanted' : ∀ entry ∈ prepared.activeModifiers.equalRange mask,
        before.hasButton entry.2.button = true := fun entry hentry => honly hentry ▸ hwanted
    exact .inl ⟨hkept hwanted', hwanted'⟩

theorem Keyed.eq_of_generates {first second : KeyModifierMask × KeyItem} (hfirst : Keyed first)
    (hsecond : Keyed second) (hgenerates : first.2.generates = second.2.generates) :
    first.1 = second.1 := by
  obtain ⟨bit, -, hfirst, hgenerates'⟩ := hfirst
  obtain ⟨other, -, hsecond, hgenerates''⟩ := hsecond
  rw [hfirst, hsecond, ← hgenerates', ← hgenerates'', hgenerates]

theorem currentState_eq_of_buttons {earlier : Mapping} (hearlier : Consistent earlier)
    (hlater : Consistent later)
    (hbuttons : ∀ mask button,
      (∃ entry ∈ later.activeModifiers, entry.1 = mask ∧ entry.2.button = button) ↔
        ∃ entry ∈ earlier.activeModifiers, entry.1 = mask ∧ entry.2.button = button) :
    later.currentState = earlier.currentState := by
  refine hasBit_ext fun bit hbit => Bool.eq_iff_iff.mpr ?_
  rw [hlater bit hbit, hearlier bit hbit, ModifierToKeys.equalRange_ne_nil_iff,
    ModifierToKeys.equalRange_ne_nil_iff]
  constructor
  · rintro ⟨entry, hentry, hunder⟩
    obtain ⟨other, hother, hunder, -⟩ := (hbuttons _ _).mp ⟨entry, hentry, hunder, rfl⟩
    exact ⟨other, hother, hunder⟩
  · rintro ⟨entry, hentry, hunder⟩
    obtain ⟨other, hother, hunder, -⟩ := (hbuttons _ _).mpr ⟨entry, hentry, hunder, rfl⟩
    exact ⟨other, hother, hunder⟩

theorem buttons_keysToRestoreModifiers (hone : OneModifierEach keyMap mapping.activeModifiers)
    (hitem : item ∈ keyMap.items) (hnone : item.generates = 0)
    (hbutton : mapping.activeModifiers.hasButton item.button = false)
    (htraced : Traced keyMap mapping.activeModifiers prepared) (hprepared : Consistent prepared)
    (mask : KeyModifierMask) (button : KeyButton) :
    (∃ entry ∈ (keyMap.keysToRestoreModifiers platform item mapping.activeModifiers
        prepared).activeModifiers, entry.1 = mask ∧ entry.2.button = button) ↔
      ∃ entry ∈ mapping.activeModifiers, entry.1 = mask ∧ entry.2.button = button := by
  rw [keysToRestoreModifiers_eq]
  generalize hreleased : prepared.activeModifiers.foldl
    (releaseUnwanted platform keyMap item.button mapping.activeModifiers) prepared = released
  have hmask (mask : KeyModifierMask) :=
    @equalRange_released platform keyMap prepared item mapping.activeModifiers mask hone hitem hnone
      htraced hprepared released hreleased
  have hkeyed (entry : KeyModifierMask × KeyItem) (hentry : entry ∈ prepared.activeModifiers) :=
    hone.of_traced htraced hentry
  constructor
  · rintro ⟨entry, hentry, rfl, rfl⟩
    rcases (mem_pressWanted hone.keyed).mp hentry with hkept | ⟨hwanted, -⟩
    · have hlisted : entry ∈ released.activeModifiers.equalRange entry.1 :=
        ModifierToKeys.mem_equalRange.mpr ⟨hkept, rfl⟩
      rcases hmask entry.1 with ⟨hrange, hwanted⟩ | ⟨hgone, -⟩
      · rw [hrange] at hlisted
        have hprepared := hkeyed entry (ModifierToKeys.mem_equalRange.mp hlisted).1
        obtain ⟨other, hother, hbutton⟩ := ModifierToKeys.hasButton_iff.mp (hwanted entry hlisted)
        have hgenerates := hone.same other.2 entry.2 (.inr ⟨other, hother, rfl⟩) hprepared.2 hbutton
        exact ⟨other, hother, (hone.keyed other hother).eq_of_generates hprepared.1 hgenerates, hbutton⟩
      · rw [hgone] at hlisted
        cases hlisted
    · exact ⟨entry, hwanted, rfl, rfl⟩
  · rintro ⟨entry, hentry, rfl, rfl⟩
    have hknown : Known keyMap mapping.activeModifiers entry.2 := .inr ⟨entry, hentry, rfl⟩
    have hwanted : mapping.activeModifiers.hasButton entry.2.button = true :=
      ModifierToKeys.hasButton_iff.mpr ⟨entry, hentry, rfl⟩
    rcases hthere : prepared.activeModifiers.hasButton entry.2.button with _ | _
    · have hpressed : Unwanted item.button prepared.activeModifiers entry := by
        refine ⟨fun hitem => ?_, by rw [hthere]; rfl⟩
        rw [← hitem, hwanted] at hbutton
        cases hbutton
      exact ⟨entry, (mem_pressWanted hone.keyed).mpr (.inr ⟨hentry, hpressed⟩), rfl, rfl⟩
    · obtain ⟨other, hother, hbutton⟩ := ModifierToKeys.hasButton_iff.mp hthere
      have hprepared := hkeyed other hother
      have hunder : other.1 = entry.1 := hprepared.1.eq_of_generates (hone.keyed entry hentry)
        (hone.same other.2 entry.2 hprepared.2 hknown hbutton)
      have hlisted : other ∈ prepared.activeModifiers.equalRange entry.1 :=
        ModifierToKeys.mem_equalRange.mpr ⟨hother, hunder⟩
      rcases hmask entry.1 with ⟨hrange, -⟩ | ⟨-, hunwanted⟩
      · rw [← hrange] at hlisted
        exact ⟨other, (mem_pressWanted hone.keyed).mpr
          (.inl (ModifierToKeys.mem_equalRange.mp hlisted).1), hunder, hbutton⟩
      · have hlost := hunwanted other hlisted
        rw [hbutton, hwanted] at hlost
        cases hlost

theorem restored_keysToRestoreModifiers (hone : OneModifierEach keyMap mapping.activeModifiers)
    (hconsistent : Consistent mapping) (hitem : item ∈ keyMap.items) (hnone : item.generates = 0)
    (hbutton : mapping.activeModifiers.hasButton item.button = false)
    (htraced : Traced keyMap mapping.activeModifiers prepared) (hprepared : Consistent prepared) :
    Restored mapping
      (keyMap.keysToRestoreModifiers platform item mapping.activeModifiers prepared) := by
  have hafter : Consistent
      (keyMap.keysToRestoreModifiers platform item mapping.activeModifiers prepared) := by
    rw [keysToRestoreModifiers_eq]
    exact consistent_pressWanted hone.keyed (consistent_releaseUnwanted
      (fun entry hentry => (hone.of_traced htraced hentry).1) hprepared)
  have hbuttons := @buttons_keysToRestoreModifiers platform keyMap mapping prepared item hone hitem hnone
    hbutton htraced hprepared
  exact ⟨hbuttons, currentState_eq_of_buttons hconsistent hafter hbuttons⟩

def unionOf (modifiers : ModifierToKeys) : KeyModifierMask :=
  modifiers.foldl (fun state entry => state ||| entry.2.generates) 0

theorem hasBit_foldl_or {modifiers : ModifierToKeys} {state : KeyModifierMask} :
    hasBit (modifiers.foldl (fun state entry => state ||| entry.2.generates) state) bit = true ↔
      hasBit state bit = true ∨ ∃ entry ∈ modifiers, hasBit entry.2.generates bit = true := by
  induction modifiers generalizing state with
  | nil => simp
  | cons entry modifiers ih =>
    rw [List.foldl_cons, ih, hasBit_or, Bool.or_eq_true, or_assoc]
    simp only [List.mem_cons, exists_eq_or_imp]

theorem consistent_of_union (hkeyed : ∀ entry ∈ mapping.activeModifiers, Keyed entry)
    (hstate : mapping.currentState = unionOf mapping.activeModifiers) : Consistent mapping := by
  intro bit hbit
  rw [hstate, unionOf, hasBit_foldl_or, hasBit_zero, ModifierToKeys.equalRange_ne_nil_iff]
  constructor
  · rintro (hnone | ⟨entry, hentry, hset⟩)
    · cases hnone
    · obtain ⟨other, hother, hmask, hgenerates⟩ := hkeyed entry hentry
      rw [hgenerates, bitMask, hasBit_one_shiftLeft hother, decide_eq_true_iff] at hset
      exact ⟨entry, hentry, hset ▸ hmask⟩
  · rintro ⟨entry, hentry, hunder⟩
    obtain ⟨other, hother, hmask, hgenerates⟩ := hkeyed entry hentry
    refine .inr ⟨entry, hentry, ?_⟩
    rw [hgenerates, ← hmask, hunder, bitMask, hasBit_one_shiftLeft hbit, decide_eq_true rfl]

variable {id : KeyID} {desiredMask : KeyModifierMask} {mapped : Mapping} {keyItem : KeyItem}

variable {items : KeyItemList}

theorem reported_of_mapKeyItems
    (hmapped : keyMap.mapKeyItems platform items item desiredState overrideModifiers isAutoRepeat lang
      mapping = (mapped, some keyItem)) : keyItem = item := by
  unfold mapKeyItems at hmapped
  split at hmapped
  · cases (Prod.mk.inj hmapped).2
  · exact (Option.some.inj (Prod.mk.inj hmapped).2).symm

theorem restored_mapKeyItems (hlisted : ModifiersGenerate keyMap)
    (hone : OneModifierEach keyMap mapping.activeModifiers)
    (hstate : mapping.currentState = unionOf mapping.activeModifiers)
    (hnone : ∀ item ∈ items, item.generates = 0) (hitem : item ∈ items)
    (hitems : item ∈ keyMap.items) (hbutton : mapping.activeModifiers.hasButton item.button = false)
    (hmapped : keyMap.mapKeyItems platform items item desiredState overrideModifiers isAutoRepeat lang
      mapping = (mapped, some keyItem)) : Restored mapping mapped := by
  have hconsistent := consistent_of_union hone.keyed hstate
  have htraced := @traced_keysForKeyItems platform keyMap mapping desiredState overrideModifiers
    isAutoRepeat lang mapping.activeModifiers (hone.picks hlisted) items hnone
    ⟨fun _ => .inl rfl, hconsistent⟩
  unfold mapKeyItems at hmapped
  split at hmapped
  · cases (Prod.mk.inj hmapped).2
  · rename_i prepared hprepared
    rw [hprepared] at htraced
    obtain ⟨rfl, hkey⟩ := Prod.mk.inj hmapped
    obtain rfl : item = keyItem := Option.some.inj hkey
    have hrestored := @restored_keysToRestoreModifiers platform keyMap mapping prepared item hone
      hconsistent hitems (hnone item hitem) hbutton htraced.1 htraced.2
    exact ⟨hrestored.buttons, hrestored.currentState⟩

theorem lastItem_mem (hne : items ≠ []) : lastItem items ∈ items := by
  unfold lastItem
  rw [List.getLast?_eq_some_getLast hne, Option.getD_some]
  exact List.getLast_mem hne

/-- **Mapping a key restores the modifiers**, where each button generates one modifier at most, the key
generates none and its button is not that of an active modifier. -/
theorem restored_of_mapped (hlisted : ModifiersGenerate keyMap)
    (hone : OneModifierEach keyMap mapping.activeModifiers)
    (hstate : mapping.currentState = unionOf mapping.activeModifiers)
    (hbutton : mapping.activeModifiers.hasButton keyItem.button = false) :
    ((∀ item ∈ keyMap.characterItems id desiredMask lang mapping.group, item.generates = 0) →
        keyMap.mapCharacterKey platform id desiredMask isAutoRepeat lang mapping =
          (mapped, some keyItem) → Restored mapping mapped) ∧
      ((∀ item ∈ keyMap.commandItems id desiredMask mapping.group, item.generates = 0) →
        keyMap.mapCommandKey platform id desiredMask isAutoRepeat lang mapping =
          (mapped, some keyItem) → Restored mapping mapped) := by
  constructor
  · intro hnone hmapped
    have hitems (item : KeyItem) (hitem : item ∈ keyMap.characterItems id desiredMask lang mapping.group) :
        item ∈ keyMap.items := mem_items_of_characterItems hitem
    rw [mapCharacterKey_eq] at hmapped
    generalize keyMap.characterItems id desiredMask lang mapping.group = itemList
      at hmapped hitems hnone
    split at hmapped
    · cases (Prod.mk.inj hmapped).2
    · rename_i hne
      have hlast : lastItem itemList ∈ itemList := lastItem_mem hne
      have hreported : keyItem = lastItem itemList := reported_of_mapKeyItems hmapped
      rw [hreported] at hbutton
      exact restored_mapKeyItems hlisted hone hstate hnone hlast (hitems _ hlast) hbutton hmapped
  · intro hnone hmapped
    have hitems (item : KeyItem) (hitem : item ∈ keyMap.commandItems id desiredMask mapping.group) :
        item ∈ keyMap.items := mem_items_of_commandItems hitem
    rw [mapCommandKey_eq] at hmapped
    generalize keyMap.commandItems id desiredMask mapping.group = itemList at hmapped hitems hnone
    split at hmapped
    · cases (Prod.mk.inj hmapped).2
    · rename_i item rest
      have hsingle : ∀ other ∈ [item], other.generates = 0 :=
        List.forall_mem_singleton.mpr (hnone item List.mem_cons_self)
      have hreported : keyItem = item := reported_of_mapKeyItems hmapped
      rw [hreported] at hbutton
      exact restored_mapKeyItems hlisted hone hstate hsingle (List.mem_singleton_self item)
        (hitems item List.mem_cons_self) hbutton hmapped

/-- A letter that needs shift is pressed while control is held. -/
def shiftedLetter : KeyItem where
  id := 65
  button := 38
  required := KeyModifierShift
  sensitive := KeyModifierShift

def heldControl : KeyItem := { id := kKeyControl_L, button := 37, generates := KeyModifierControl }

def heldControlMap : KeyMap :=
  (((empty.addKeyEntry heldControl).addKeyEntry
    { id := kKeyShift_L, button := 50, generates := KeyModifierShift }).addKeyEntry
    shiftedLetter).finish

def controlHeld : Mapping where
  group := 0
  activeModifiers := [(KeyModifierControl, heldControl)]
  currentState := KeyModifierControl

theorem oneModifierEach_heldControl : OneModifierEach heldControlMap controlHeld.activeModifiers := by
  have hmodifiers : ∀ item ∈ heldControlMap.items,
      item.generates = 0 ∨ item.generates = bitMask 0 ∨ item.generates = bitMask 1 := by decide
  have hbuttons : ∀ first ∈ heldControlMap.items, ∀ second ∈ heldControlMap.items,
      first.button = second.button → first.generates = second.generates := by decide
  have hknown (item : KeyItem) (hitem : Known heldControlMap controlHeld.activeModifiers item) :
      item ∈ heldControlMap.items := by
    rcases hitem with hitem | ⟨entry, hentry, rfl⟩
    · exact hitem
    · obtain rfl := List.mem_singleton.mp hentry
      decide
  constructor
  · intro item hitem
    rcases hmodifiers item hitem with hnone | hshift | hcontrol
    · exact .inl hnone
    · exact .inr ⟨0, by decide, hshift⟩
    · exact .inr ⟨1, by decide, hcontrol⟩
  · intro entry hentry
    obtain rfl := List.mem_singleton.mp hentry
    exact ⟨1, by decide, by decide, by decide⟩
  · exact fun first second hfirst hsecond =>
      hbuttons first (hknown first hfirst) second (hknown second hsecond)

theorem restored_of_mapped_letter :
    Restored controlHeld
      (heldControlMap.mapCharacterKey .other 65 KeyModifierShift false "en" controlHeld).1 := by
  have hbutton : controlHeld.activeModifiers.hasButton shiftedLetter.button = false := by decide
  have hmapped : heldControlMap.mapCharacterKey .other 65 KeyModifierShift false "en" controlHeld =
      ((heldControlMap.mapCharacterKey .other 65 KeyModifierShift false "en" controlHeld).1,
        some shiftedLetter) := by decide
  exact (restored_of_mapped modifiersGenerate_finish oneModifierEach_heldControl (by decide)
    hbutton).1 (by decide) hmapped

end KeyMap

end DeskflowPlus
