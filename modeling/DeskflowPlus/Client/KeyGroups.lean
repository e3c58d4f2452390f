import DeskflowPlus.Client.ModifierAdjustment

/-!
# Groups of the keyboard

The group that is searched first comes from the active group or from the position of the language in
the list of layouts. A key that is found in another group than the active one changes the group, again
to the position of the language, and its modifiers are then looked up in that group.
-/

namespace DeskflowPlus

namespace KeyMap

variable {platform : Platform} {keyMap : KeyMap} {id : KeyID} {desiredMask : KeyModifierMask}
  {isAutoRepeat : Bool} {lang : String} {mapping : Mapping} {item : KeyItem} {group : Int}

def searchedGroups (keyMap : KeyMap) (group : Int) : List Int :=
  (List.range keyMap.numGroups).map fun (groupOffset : Nat) =>
    keyMap.getEffectiveGroup group groupOffset

theorem mem_searchedGroups (hgroup : 0 ≤ group) {searched : Int}
    (h : searched ∈ keyMap.searchedGroups group) : 0 ≤ searched ∧ searched < keyMap.numGroups := by
  obtain ⟨offset, hoffset, rfl⟩ := List.mem_map.mp h
  have hcounted : 0 < (keyMap.numGroups : Int) := by
    have := List.mem_range.mp hoffset
    omega
  unfold getEffectiveGroup
  exact ⟨Int.tmod_nonneg _ (by omega), Int.tmod_lt_of_pos _ hcounted⟩

theorem getLanguageGroupID_nonneg (hgroup : 0 ≤ group) : 0 ≤ keyMap.getLanguageGroupID group lang := by
  unfold getLanguageGroupID
  split
  · exact Int.natCast_nonneg _
  · exact hgroup

variable {desiredState : KeyModifierMask} {entry : KeyItemList}

theorem mem_fewestChanges {entries : KeyEntryList} {best : Option KeyItemList} {bestCount : Nat}
    (h : fewestChanges desiredState entries best bestCount = some entry) :
    entry ∈ entries ∨ best = some entry := by
  induction entries generalizing best bestCount with
  | nil => exact .inr h
  | cons first entries ih =>
    unfold fewestChanges at h
    dsimp only at h
    split_ifs at h
    · rcases ih h with hmem | hfirst
      · exact .inl (List.mem_cons_of_mem _ hmem)
      · exact .inl (Option.some.inj hfirst ▸ List.mem_cons_self)
    · exact (ih h).imp_left (List.mem_cons_of_mem _)

theorem mem_of_findBestKey {entries : KeyEntryList}
    (h : findBestKey entries desiredMask = some entry) : entry ∈ entries := by
  rcases Option.or_eq_some_iff.mp h with hexact | ⟨-, hfewest⟩
  · exact List.mem_of_find?_eq_some hexact
  · exact (mem_fewestChanges hfewest).resolve_right nofun

theorem mem_items_of_getD {table : KeyGroupTable} (hlisted : (id, table) ∈ keyMap.keyIDMap)
    {searched : Nat} (hentry : entry ∈ table.getD searched []) (hitem : item ∈ entry) :
    item ∈ keyMap.items := by
  by_cases hsearched : searched < table.length
  · rw [List.getD_eq_getElem _ _ hsearched] at hentry
    exact mem_itemsOf.mpr ⟨_, hlisted, _, List.getElem_mem hsearched,
      List.mem_flatten_of_mem hentry hitem⟩
  · rw [List.getD_eq_default _ _ (Nat.le_of_not_lt hsearched)] at hentry
    cases hentry

/-- The keys that `mapCharacterKey` goes through. -/
def characterItems (keyMap : KeyMap) (id : KeyID) (desiredMask : KeyModifierMask) (lang : String)
    (group : Int) : KeyItemList :=
  ((keyMap.keyIDMap.lookup id).bind fun keyGroupTable =>
    keyMap.getKeyItemList keyGroupTable (keyMap.getLanguageGroupID group lang) desiredMask).getD []

/-- The key of `mapCommandKey`. -/
def commandItems (keyMap : KeyMap) (id : KeyID) (desiredMask : KeyModifierMask) (group : Int) :
    KeyItemList :=
  ((keyMap.keyIDMap.lookup id).bind fun keyGroupTable =>
    keyMap.findCommandKey keyGroupTable group desiredMask).toList

theorem mapCharacterKey_eq :
    keyMap.mapCharacterKey platform id desiredMask isAutoRepeat lang mapping =
      match keyMap.characterItems id desiredMask lang mapping.group with
      | [] => (mapping, none)
      | itemList =>
        keyMap.mapKeyItems platform itemList (lastItem itemList) desiredMask 0 isAutoRepeat lang mapping
    := by
  unfold mapCharacterKey characterItems
  rcases keyMap.keyIDMap.lookup id with _ | table
  · rfl
  dsimp only [Option.bind_some]
  rcases keyMap.getKeyItemList table (keyMap.getLanguageGroupID mapping.group lang) desiredMask with
    _ | _ | ⟨item, items⟩ <;> rfl

theorem mapCommandKey_eq :
    keyMap.mapCommandKey platform id desiredMask isAutoRepeat lang mapping =
      match keyMap.commandItems id desiredMask mapping.group with
      | [] => (mapping, none)
      | keyItem :: _ =>
        keyMap.mapKeyItems platform [keyItem] keyItem
          ((desiredMask &&& ~~~KeyModifierCapsLock) ||| (mapping.currentState &&& KeyModifierCapsLock))
          0xffff isAutoRepeat lang mapping := by
  unfold mapCommandKey commandItems
  rcases keyMap.keyIDMap.lookup id with _ | table
  · rfl
  dsimp only [Option.bind_some]
  rcases keyMap.findCommandKey table mapping.group desiredMask with _ | keyItem <;> rfl

theorem mem_items_of_characterItems (h : item ∈ keyMap.characterItems id desiredMask lang group) :
    item ∈ keyMap.items := by
  unfold characterItems at h
  rcases hlookup : keyMap.keyIDMap.lookup id with _ | table
  · rw [hlookup] at h
    cases h
  rw [hlookup, Option.bind_some] at h
  rcases hfound : keyMap.getKeyItemList table (keyMap.getLanguageGroupID group lang) desiredMask with
    _ | itemList
  · rw [hfound] at h
    cases h
  rw [hfound, Option.getD_some] at h
  obtain ⟨offset, -, hbest⟩ := List.exists_of_findSome?_eq_some hfound
  exact mem_items_of_getD (mem_of_lookup hlookup) (mem_of_findBestKey hbest) h

theorem mem_items_of_commandItems (h : item ∈ keyMap.commandItems id desiredMask group) :
    item ∈ keyMap.items := by
  obtain ⟨table, hlookup, hfound⟩ := Option.bind_eq_some_iff.mp (Option.mem_toList.mp h)
  obtain ⟨offset, -, hentries⟩ := List.exists_of_findSome?_eq_some hfound
  obtain ⟨entry, hentry, hitem⟩ := List.exists_of_findSome?_eq_some hentries
  split at hitem
  · split_ifs at hitem
    obtain rfl := Option.some.inj hitem
    exact mem_items_of_getD (mem_of_lookup hlookup) hentry List.mem_cons_self
  · cases hitem

def groupFor (keyMap : KeyMap) (keyItem : KeyItem) (lang : String) (group : Int) : Int :=
  if group ≠ keyItem.group then keyMap.getLanguageGroupID keyItem.group lang else group

/-- The first step of `keysForKeyItem`. -/
def enterGroup (keyMap : KeyMap) (keyItem : KeyItem) (lang : String) (mapping : Mapping) : Mapping :=
  if mapping.group ≠ keyItem.group then keyMap.addGroupToKeystroke keyItem.group lang mapping
  else mapping

theorem group_enterGroup :
    (keyMap.enterGroup item lang mapping).group = keyMap.groupFor item lang mapping.group := by
  unfold enterGroup groupFor
  split_ifs <;> rfl

theorem group_addKeystrokes {type : EKeystroke} :
    (keyMap.addKeystrokes platform type item mapping).group = mapping.group := by
  unfold addKeystrokes
  cases type
  · dsimp only
    split_ifs <;> rfl
  · dsimp only
    split_ifs <;> rfl
  · cases platform <;> rfl
  · rfl
  · rfl
  · rfl

theorem Adjusts.group_eq {button : KeyButton} {bit : Nat}
    {notRequiredMask requiredState flipMask : KeyModifierMask} {later : Mapping} {okay : Bool}
    (h : Adjusts platform keyMap button group notRequiredMask bit requiredState flipMask mapping later
      okay) : later.group = mapping.group := by
  induction h with
  | done => rfl
  | skip _ _ ih => exact ih
  | refused _ _ => rfl
  | unprepared _ _ _ _ _ _ ih => exact ih
  | pressed _ _ _ _ _ _ _ ihPrepared ihRest =>
    rw [ihRest, group_addKeystrokes, ihPrepared]
  | released _ _ _ _ _ _ ih => rw [ih, group_addKeystrokes]

theorem group_keysForModifierState {button : KeyButton}
    {requiredState sensitiveMask notRequiredMask : KeyModifierMask} :
    (keyMap.keysForModifierState platform button group requiredState sensitiveMask notRequiredMask
      mapping).1.group = mapping.group :=
  adjusts_adjustModifiers.group_eq

variable {overrideModifiers : KeyModifierMask}

theorem keysForKeyItem_eq :
    keyMap.keysForKeyItem platform item desiredState overrideModifiers isAutoRepeat lang mapping =
      let entered := keyMap.enterGroup item lang mapping
      let adjust := keyMap.keysForModifierState platform item.button (keyMap.groupFor item lang mapping.group)
      let sensitive := item.sensitive &&& ~~~overrideModifiers
      let required := adjust item.required (if item.dead then item.sensitive else sensitive) 0 entered
      if !required.2 then required
      else if item.dead then (keyMap.addKeystrokes platform .click item required.1, true)
      else
        let desired := adjust desiredState (~~~(sensitive ||| item.generates)) s_notRequiredMask required.1
        if !desired.2 then desired
        else
          (keyMap.addKeystrokes platform (if isAutoRepeat then .repeated else .press) item desired.1,
            true) := by
  rw [← group_enterGroup]
  unfold keysForKeyItem enterGroup
  rcases hdead : item.dead with _ | _
  · rfl
  · dsimp only
    rw [if_pos rfl, if_pos rfl, if_pos rfl]

theorem group_keysForKeyItem :
    (keyMap.keysForKeyItem platform item desiredState overrideModifiers isAutoRepeat lang
      mapping).1.group = keyMap.groupFor item lang mapping.group := by
  rw [keysForKeyItem_eq, ← group_enterGroup]
  dsimp only
  split_ifs <;> simp only [group_addKeystrokes, group_keysForModifierState]

def synthesizedKeys (platform : Platform) (keyMap : KeyMap)
    (desiredState overrideModifiers : KeyModifierMask) (isAutoRepeat : Bool) (lang : String) :
    KeyItemList → Mapping → List (KeyItem × Int)
  | [], _ => []
  | item :: items, mapping =>
    (item, keyMap.groupFor item lang mapping.group) ::
      match keyMap.keysForKeyItem platform item desiredState overrideModifiers isAutoRepeat lang
        mapping with
      | (_, false) => []
      | (mapped, true) =>
        synthesizedKeys platform keyMap desiredState overrideModifiers isAutoRepeat lang items mapped

def Stays (keyMap : KeyMap) (lang : String) : Int → KeyItemList → Prop
  | _, [] => True
  | group, item :: items =>
    (group = item.group ∨ keyMap.getLanguageGroupID item.group lang = item.group) ∧
      Stays keyMap lang item.group items

theorem groupFor_eq_iff : keyMap.groupFor item lang group = item.group ↔
    group = item.group ∨ keyMap.getLanguageGroupID item.group lang = item.group := by
  unfold groupFor
  split_ifs with hsame
  · exact ⟨.inr, fun h => h.resolve_left hsame⟩
  · exact ⟨.inl, fun _ => not_not.mp hsame⟩

theorem synthesizedKeys_iff {items : KeyItemList} :
    (∀ use ∈ synthesizedKeys platform keyMap desiredState overrideModifiers isAutoRepeat lang items
      mapping, use.2 = use.1.group) ↔
      Stays keyMap lang mapping.group ((synthesizedKeys platform keyMap desiredState overrideModifiers
        isAutoRepeat lang items mapping).map Prod.fst) := by
  induction items generalizing mapping with
  | nil => exact iff_of_true (fun _ h => nomatch h) trivial
  | cons item items ih =>
    unfold synthesizedKeys
    rw [List.forall_mem_cons, List.map_cons, Stays, groupFor_eq_iff]
    refine and_congr_right fun hkept => ?_
    have hgroup := @group_keysForKeyItem platform keyMap isAutoRepeat lang mapping item desiredState
      overrideModifiers
    rw [groupFor_eq_iff.mpr hkept] at hgroup
    rcases hmapped : keyMap.keysForKeyItem platform item desiredState overrideModifiers isAutoRepeat
      lang mapping with ⟨mapped, _ | _⟩
    · exact iff_of_true (fun _ h => nomatch h) trivial
    · rw [hmapped] at hgroup
      dsimp only at hgroup ⊢
      rw [← hgroup]
      exact ih

theorem mem_of_mem_synthesizedKeys {items : KeyItemList} {use : KeyItem × Int}
    (h : use ∈ synthesizedKeys platform keyMap desiredState overrideModifiers isAutoRepeat lang items
      mapping) : use.1 ∈ items := by
  induction items generalizing mapping with
  | nil => cases h
  | cons item items ih =>
    unfold synthesizedKeys at h
    rcases List.mem_cons.mp h with rfl | h
    · exact List.mem_cons_self
    · split at h
      · cases h
      · exact List.mem_cons_of_mem _ (ih h)

/-- The ids that are not looked up. -/
def pseudoIDs : List KeyID := [kKeyNextGroup, kKeyPrevGroup, kKeySetModifiers, kKeyClearModifiers]

/-- `mapKey` looks for the right character rather than the right button. -/
def mapsCharacter (id : KeyID) (desiredMask : KeyModifierMask) : Bool :=
  id ∈ modifierIDs ∨ ¬ isCommand desiredMask

/-- The keys that `mapKey` synthesizes, with the groups of their modifiers. -/
def keyUses (platform : Platform) (keyMap : KeyMap) (id : KeyID) (desiredMask : KeyModifierMask)
    (isAutoRepeat : Bool) (lang : String) (mapping : Mapping) : List (KeyItem × Int) :=
  if id ∈ pseudoIDs then []
  else if mapsCharacter id desiredMask then
    synthesizedKeys platform keyMap desiredMask 0 isAutoRepeat lang
      (keyMap.characterItems id desiredMask lang mapping.group) mapping
  else
    synthesizedKeys platform keyMap
      ((desiredMask &&& ~~~KeyModifierCapsLock) ||| (mapping.currentState &&& KeyModifierCapsLock))
      0xffff isAutoRepeat lang (keyMap.commandItems id desiredMask mapping.group) mapping

/-- The groups of the key's table that `mapKey` searches. -/
def tableGroups (keyMap : KeyMap) (id : KeyID) (desiredMask : KeyModifierMask) (lang : String)
    (group : Int) : List Int :=
  if id ∈ pseudoIDs then []
  else if mapsCharacter id desiredMask then
    keyMap.searchedGroups (keyMap.getLanguageGroupID group lang)
  else keyMap.searchedGroups group

/-- The groups whose modifiers `mapKey` looks up. -/
def modifierGroups (platform : Platform) (keyMap : KeyMap) (id : KeyID) (desiredMask : KeyModifierMask)
    (isAutoRepeat : Bool) (lang : String) (mapping : Mapping) : List Int :=
  if id = kKeySetModifiers ∨ id = kKeyClearModifiers then [mapping.group]
  else (keyUses platform keyMap id desiredMask isAutoRepeat lang mapping).map Prod.snd

def IsGroup (keyMap : KeyMap) (group : Int) : Prop := 0 ≤ group ∧ group < keyMap.numGroups

structure GroupsKept (platform : Platform) (keyMap : KeyMap) (id : KeyID)
    (desiredMask : KeyModifierMask) (isAutoRepeat : Bool) (lang : String) (mapping : Mapping) : Prop where
  table : ∀ group ∈ keyMap.tableGroups id desiredMask lang mapping.group, IsGroup keyMap group
  modifiers : ∀ group ∈ modifierGroups platform keyMap id desiredMask isAutoRepeat lang mapping,
    IsGroup keyMap group
  own : ∀ use ∈ keyUses platform keyMap id desiredMask isAutoRepeat lang mapping, use.2 = use.1.group

theorem isGroup_of_mem_tableGroups (hgroup : 0 ≤ group) {searched : Int}
    (h : searched ∈ keyMap.tableGroups id desiredMask lang group) : IsGroup keyMap searched := by
  unfold tableGroups at h
  split_ifs at h
  · cases h
  · exact mem_searchedGroups (getLanguageGroupID_nonneg hgroup) h
  · exact mem_searchedGroups hgroup h

theorem mem_items_of_mem_keyUses {use : KeyItem × Int}
    (h : use ∈ keyUses platform keyMap id desiredMask isAutoRepeat lang mapping) :
    use.1 ∈ keyMap.items := by
  unfold keyUses at h
  split_ifs at h
  · cases h
  · exact mem_items_of_characterItems (mem_of_mem_synthesizedKeys h)
  · exact mem_items_of_commandItems (mem_of_mem_synthesizedKeys h)

theorem keyUses_iff :
    (∀ use ∈ keyUses platform keyMap id desiredMask isAutoRepeat lang mapping, use.2 = use.1.group) ↔
      Stays keyMap lang mapping.group
        ((keyUses platform keyMap id desiredMask isAutoRepeat lang mapping).map Prod.fst) := by
  unfold keyUses
  split_ifs
  · exact iff_of_true (fun _ h => nomatch h) trivial
  · exact synthesizedKeys_iff
  · exact synthesizedKeys_iff

/-- **The groups of a mapping** are the keyboard's and those of its keys where the position of the
language in the list of layouts is the group of each key that changes the group. -/
theorem groupsKept_iff (hlisted : WellFormed keyMap) (hgroup : IsGroup keyMap mapping.group) :
    GroupsKept platform keyMap id desiredMask isAutoRepeat lang mapping ↔
      Stays keyMap lang mapping.group
        ((keyUses platform keyMap id desiredMask isAutoRepeat lang mapping).map Prod.fst) := by
  rw [← keyUses_iff]
  refine ⟨fun h => h.own, fun hown => ⟨fun _ => isGroup_of_mem_tableGroups hgroup.1, ?_, hown⟩⟩
  intro used hused
  unfold modifierGroups at hused
  split_ifs at hused
  · rw [List.mem_singleton.mp hused]
    exact hgroup
  · obtain ⟨use, huse, rfl⟩ := List.mem_map.mp hused
    have hlt := hlisted.group_lt _ (mem_items_of_mem_keyUses huse)
    rw [hown use huse]
    exact ⟨Int.natCast_nonneg _, Int.ofNat_lt.mpr hlt⟩

def secondGroupMap : KeyMap :=
  (((empty.addKeyEntry { id := kKeyShift_L, button := 50, generates := KeyModifierShift }).addKeyEntry
    { id := kKeyShift_L, group := 1, button := 50, generates := KeyModifierShift }).addKeyEntry
    { id := 65, group := 1, button := 38, required := KeyModifierShift,
      sensitive := KeyModifierShift }).finish

def firstGroup : Mapping := { group := 0, activeModifiers := [], currentState := 0 }

theorem groupsKept_iff_second :
    GroupsKept .other secondGroupMap 65 0 false "en" firstGroup ↔
      Stays secondGroupMap "en" 0
        ((keyUses .other secondGroupMap 65 0 false "en" firstGroup).map Prod.fst) :=
  groupsKept_iff (wellFormed_finish collected_empty.addKeyEntry.addKeyEntry.addKeyEntry)
    ⟨by decide, by decide⟩

/-- With three layouts, the letter gets the modifiers of a third group. -/
theorem third_layout_is_no_group :
    let keyMap := secondGroupMap.setLanguageData ["en", "fr", "de"]
    2 ∈ modifierGroups .other keyMap 65 0 false "de" firstGroup ∧ ¬ IsGroup keyMap 2 ∧
      ¬ GroupsKept .other keyMap 65 0 false "de" firstGroup := by
  have hused : 2 ∈ modifierGroups .other (secondGroupMap.setLanguageData ["en", "fr", "de"]) 65 0 false
      "de" firstGroup := by decide
  have hnone : ¬ IsGroup (secondGroupMap.setLanguageData ["en", "fr", "de"]) 2 :=
    fun h => absurd h.2 (by decide)
  exact ⟨hused, hnone, fun h => hnone (h.modifiers 2 hused)⟩

end KeyMap

end DeskflowPlus
