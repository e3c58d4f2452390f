import DeskflowPlus.Options.ClientOptions
import Mathlib.Data.List.GetD
import Mathlib.Tactic.SplitIfs

/-!
# The client's key map

The map says which buttons generate a key in each group of the keyboard, and which modifiers they
need. Mapping a key to keystrokes adjusts the modifiers, presses, clicks or repeats the buttons of the
key and puts the modifiers back. What is mapped depends on the modifiers that are active, with the
keys that activate them.
-/

namespace DeskflowPlus

inductive Platform where
  | windows
  | mac
  | other

def KeyModifierShift : KeyModifierMask := 0x0001
def KeyModifierControl : KeyModifierMask := 0x0002
def KeyModifierAlt : KeyModifierMask := 0x0004
def KeyModifierMeta : KeyModifierMask := 0x0008
def KeyModifierSuper : KeyModifierMask := 0x0010
def KeyModifierAltGr : KeyModifierMask := 0x0020

def kKeyModifierNumBits : Nat := 16

def kKeyScrollLock : KeyID := 0xEF14
def kKeyCompose : KeyID := 0xEF20
def kKeyNumLock : KeyID := 0xEF7F
def kKeyCapsLock : KeyID := 0xEFE5
def kKeySetModifiers : KeyID := 0xEE06
def kKeyClearModifiers : KeyID := 0xEE07
def kKeyNextGroup : KeyID := 0xEE08
def kKeyPrevGroup : KeyID := 0xEE0A

structure KeyItem where
  id : KeyID := 0
  group : Nat := 0
  button : KeyButton := 0
  required : KeyModifierMask := 0
  sensitive : KeyModifierMask := 0
  generates : KeyModifierMask := 0
  dead : Bool := false
  lock : Bool := false
  client : UInt32 := 0
  deriving DecidableEq

inductive Keystroke where
  | button (button : KeyButton) (press isRepeat : Bool) (client : UInt32)
  | group (group : Int) (absolute restore : Bool)
  deriving DecidableEq

/-- The ways to synthesize a key. -/
inductive EKeystroke where
  | press
  | release
  | repeated
  | click
  | modify
  | unmodify

abbrev KeyItemList := List KeyItem
abbrev KeyEntryList := List KeyItemList
abbrev KeyGroupTable := List KeyEntryList

/-- A multimap, in the order of its keys and with equal keys in the order they came. -/
abbrev ModifierToKeys := List (KeyModifierMask × KeyItem)

namespace ModifierToKeys

variable (modifiers : ModifierToKeys)

def insert (mask : KeyModifierMask) (item : KeyItem) : ModifierToKeys :=
  modifiers.takeWhile (·.1 ≤ mask) ++ (mask, item) :: modifiers.dropWhile (·.1 ≤ mask)

def erase (mask : KeyModifierMask) : ModifierToKeys := modifiers.filter (·.1 ≠ mask)

def equalRange (mask : KeyModifierMask) : ModifierToKeys := modifiers.filter (·.1 = mask)

def contains (mask : KeyModifierMask) : Bool := modifiers.any (·.1 = mask)

def eraseButton (mask : KeyModifierMask) (button : KeyButton) : ModifierToKeys :=
  modifiers.eraseP fun entry => decide (entry.1 = mask ∧ entry.2.button = button)

/-- `collectButtons`. -/
def hasButton (button : KeyButton) : Bool := modifiers.any (·.2.button = button)

end ModifierToKeys

/-- What `mapKey` and its helpers change through their reference parameters. -/
structure Mapping where
  group : Int
  activeModifiers : ModifierToKeys
  currentState : KeyModifierMask
  keystrokes : List Keystroke := []
  deriving DecidableEq

namespace Mapping

variable (mapping : Mapping)

def push (keystrokes : List Keystroke) : Mapping :=
  { mapping with keystrokes := mapping.keystrokes ++ keystrokes }

def activate (item : KeyItem) : Mapping :=
  { mapping with
      activeModifiers := mapping.activeModifiers.insert item.generates item
      currentState := mapping.currentState ||| item.generates }

def deactivate (item : KeyItem) : Mapping :=
  { mapping with
      activeModifiers := mapping.activeModifiers.erase item.generates
      currentState := mapping.currentState &&& ~~~item.generates }

def deactivateButton (item : KeyItem) : Mapping :=
  let activeModifiers := mapping.activeModifiers.eraseButton item.generates item.button
  { mapping with
      activeModifiers
      currentState :=
        if activeModifiers.contains item.generates then mapping.currentState
        else mapping.currentState &&& ~~~item.generates }

end Mapping

def KeyMap.itemsOf (keyIDMap : List (KeyID × KeyGroupTable)) : List KeyItem :=
  keyIDMap.flatMap fun key => key.2.flatMap fun entries => entries.flatten

/-- `m_keyIDMap` is in the order of its keys. `m_modifierKeys` has 16 lists for each group. -/
structure KeyMap where
  keyIDMap : List (KeyID × KeyGroupTable) := []
  modifierKeys : List (List KeyItem) := []
  halfDuplex : List KeyButton := []
  numGroups : Nat := 0
  composeAcrossGroups : Bool := false
  keyboardLayouts : List String := []
  /-- Modifier keys are items of the map. -/
  modifiersListed : ∀ keys ∈ modifierKeys, ∀ item ∈ keys,
    item.generates ≠ 0 ∧ item ∈ KeyMap.itemsOf keyIDMap

namespace KeyMap

def items (keyMap : KeyMap) : List KeyItem := itemsOf keyMap.keyIDMap

def empty : KeyMap where
  modifiersListed := fun _ hkeys => absurd hkeys List.not_mem_nil

def isDeadKey (key : KeyID) : Bool := key = kKeyCompose ∨ 0x0300 ≤ key ∧ key ≤ 0x036f

/-- `m_keyIDMap[id]` is changed, and made where it is missing. -/
def update (id : KeyID) (change : KeyGroupTable → KeyGroupTable) :
    List (KeyID × KeyGroupTable) → List (KeyID × KeyGroupTable)
  | [] => [(id, change [])]
  | entry :: rest =>
    if entry.1 = id then (id, change entry.2) :: rest
    else if id < entry.1 then (id, change []) :: entry :: rest
    else entry :: update id change rest

def Extends (change : KeyGroupTable → KeyGroupTable) : Prop :=
  ∀ table, ∀ entries ∈ table, ∀ item ∈ entries.flatten, ∃ more ∈ change table, item ∈ more.flatten

variable {keyIDMap : List (KeyID × KeyGroupTable)}

theorem mem_itemsOf {item : KeyItem} :
    item ∈ itemsOf keyIDMap ↔ ∃ key ∈ keyIDMap, ∃ entries ∈ key.2, item ∈ entries.flatten := by
  simp only [itemsOf, List.mem_flatMap]

theorem mem_itemsOf_update {id : KeyID} {change : KeyGroupTable → KeyGroupTable}
    (hchange : Extends change) {item : KeyItem} (h : item ∈ itemsOf keyIDMap) :
    item ∈ itemsOf (update id change keyIDMap) := by
  rw [mem_itemsOf] at h ⊢
  induction keyIDMap with
  | nil =>
    obtain ⟨key, hkey, -⟩ := h
    cases hkey
  | cons entry rest ih =>
    obtain ⟨key, hkey, entries, hentries, hitem⟩ := h
    unfold update
    split_ifs
    · rcases List.mem_cons.mp hkey with rfl | hrest
      · exact ⟨_, List.mem_cons_self, hchange _ entries hentries item hitem⟩
      · exact ⟨key, List.mem_cons_of_mem _ hrest, entries, hentries, hitem⟩
    · exact ⟨key, List.mem_cons_of_mem _ hkey, entries, hentries, hitem⟩
    · rcases List.mem_cons.mp hkey with rfl | hrest
      · exact ⟨key, List.mem_cons_self, entries, hentries, hitem⟩
      · obtain ⟨other, hother, hmore⟩ := ih ⟨key, hrest, entries, hentries, hitem⟩
        exact ⟨other, List.mem_cons_of_mem _ hother, hmore⟩

def resize (numGroups : Nat) (table : KeyGroupTable) : KeyGroupTable :=
  table ++ List.replicate (numGroups - table.length) []

def pushEntry (group : Nat) (entry : KeyItemList) (table : KeyGroupTable) : KeyGroupTable :=
  table.modify group (· ++ [entry])

theorem extends_resize {numGroups : Nat} : Extends (resize numGroups) :=
  fun _ entries hentries _ hitem => ⟨entries, List.mem_append_left _ hentries, hitem⟩

theorem extends_pushEntry {group : Nat} {entry : KeyItemList} : Extends (pushEntry group entry) := by
  intro table entries hentries item hitem
  obtain ⟨index, hindex, rfl⟩ := List.getElem_of_mem hentries
  have hbound : index < (pushEntry group entry table).length := by simpa [pushEntry] using hindex
  refine ⟨(pushEntry group entry table)[index], List.getElem_mem _, ?_⟩
  simp only [pushEntry, List.getElem_modify]
  split_ifs
  · simp [hitem]
  · exact hitem

def change (keyMap : KeyMap) (id : KeyID) (change : KeyGroupTable → KeyGroupTable)
    (hchange : Extends change) : KeyMap :=
  { keyMap with
    keyIDMap := update id change keyMap.keyIDMap
    modifiersListed := fun keys hkeys item hitem =>
      have hlisted := keyMap.modifiersListed keys hkeys item hitem
      ⟨hlisted.1, mem_itemsOf_update hchange hlisted.2⟩ }

def addKeyEntry (keyMap : KeyMap) (item : KeyItem) : KeyMap :=
  if item.id = kKeyNone then keyMap
  else
    let numGroups := max keyMap.numGroups (item.group + 1)
    let resized := keyMap.change item.id (resize numGroups) extends_resize
    let newItem : KeyItem :=
      { item with dead := isDeadKey item.id, required := item.required &&& item.sensitive }
    let table := (resized.keyIDMap.lookup item.id).getD []
    if [newItem] ∈ table.getD item.group [] then resized
    else resized.change item.id (pushEntry item.group [newItem]) extends_pushEntry

def setLanguageData (keyMap : KeyMap) (layouts : List String) : KeyMap :=
  { keyMap with keyboardLayouts := layouts }

def bitMask (bit : Nat) : KeyModifierMask := 1 <<< UInt32.ofNat bit

def modifierKeysOf (keyIDMap : List (KeyID × KeyGroupTable)) (group bit : Nat) : List KeyItem :=
  keyIDMap.flatMap fun key =>
    (key.2.getD group []).filterMap fun entry =>
      match entry with
      | [item] => if bitMask bit &&& item.generates ≠ 0 then some item else none
      | _ => none

def findNumGroups (keyMap : KeyMap) : Nat := (keyMap.keyIDMap.map (·.2.length)).foldl max 0

theorem modifierKeysOf_listed {group bit : Nat} {item : KeyItem}
    (h : item ∈ modifierKeysOf keyIDMap group bit) :
    item.generates ≠ 0 ∧ item ∈ itemsOf keyIDMap := by
  obtain ⟨key, hkey, hitem⟩ := List.mem_flatMap.mp h
  obtain ⟨entry, hentry, hfound⟩ := List.mem_filterMap.mp hitem
  split at hfound
  · rename_i found
    split_ifs at hfound with hgenerates
    obtain rfl : found = item := Option.some.inj hfound
    constructor
    · intro hzero
      rw [hzero] at hgenerates
      exact hgenerates (UInt32.and_zero)
    · rw [mem_itemsOf]
      by_cases hgroup : group < key.2.length
      · rw [List.getD_eq_getElem _ _ hgroup] at hentry
        exact ⟨key, hkey, _, List.getElem_mem hgroup, List.mem_flatten_of_mem hentry (by simp)⟩
      · rw [List.getD_eq_default _ _ (Nat.le_of_not_lt hgroup)] at hentry
        cases hentry
  · cases hfound

def finish (keyMap : KeyMap) : KeyMap :=
  let numGroups := keyMap.findNumGroups
  let keyIDMap := keyMap.keyIDMap.map fun key => (key.1, resize numGroups key.2)
  { keyMap with
    numGroups
    keyIDMap
    modifierKeys := (List.range (numGroups * kKeyModifierNumBits)).map fun index =>
      modifierKeysOf keyIDMap (index / kKeyModifierNumBits) (index % kKeyModifierNumBits)
    modifiersListed := by
      intro keys hkeys item hitem
      obtain ⟨index, -, rfl⟩ := List.mem_map.mp hkeys
      exact modifierKeysOf_listed hitem }

variable (platform : Platform) (keyMap : KeyMap)

def getEffectiveGroup (group offset : Int) : Int :=
  (group + offset + keyMap.numGroups).tmod keyMap.numGroups

def getLanguageGroupID (group : Int) (lang : String) : Int :=
  match keyMap.keyboardLayouts.idxOf? lang with
  | some position => position
  | none => group

def addKeystrokes (type : EKeystroke) (keyItem : KeyItem) (mapping : Mapping) : Mapping :=
  let stroke (press isRepeat : Bool) : Keystroke := .button keyItem.button press isRepeat keyItem.client
  match type with
  | .press =>
    let pressed := mapping.push [stroke true false]
    if keyItem.generates = 0 then pressed
    else if !keyItem.lock || mapping.currentState &&& keyItem.generates = 0 then
      pressed.activate keyItem
    else pressed.deactivate keyItem
  | .release =>
    let released := mapping.push [stroke false false]
    if keyItem.generates ≠ 0 ∧ !keyItem.lock then released.deactivateButton keyItem else released
  | .repeated =>
    match platform with
    | .windows => mapping.push [stroke false true, stroke true true]
    | .mac => mapping.push [stroke true true]
    | .other => mapping
  | .click => mapping.push [stroke true false, stroke false false]
  | .modify =>
    let strokes :=
      if keyItem.lock ∧ keyItem.button ∉ keyMap.halfDuplex then
        [stroke true false, stroke false false]
      else [stroke true false]
    (mapping.push strokes).activate keyItem
  | .unmodify =>
    let strokes :=
      if keyItem.lock then
        if keyItem.button ∈ keyMap.halfDuplex then [stroke false false]
        else [stroke true false, stroke false false]
      else
        -- all keys that generate the modifier are released
        (mapping.activeModifiers.equalRange keyItem.generates).map fun entry =>
          .button entry.2.button false false entry.2.client
    (mapping.push strokes).deactivate keyItem

def keyForModifier (button : KeyButton) (group : Int) (bit : Nat) : Option KeyItem :=
  (keyMap.modifierKeys.getD (group.toNat * kKeyModifierNumBits + bit) []).find? fun item =>
    item.button ≠ button

/-- The loop over the bits below this one, from high to low. The keys for a modifier may need lower
modifiers first. -/
def adjustModifiers (button : KeyButton) (group : Int) (notRequiredMask : KeyModifierMask) :
    Nat → KeyModifierMask → KeyModifierMask → Mapping → Mapping × Bool
  | 0, _, _, mapping => (mapping, true)
  | bit + 1, requiredState, flipMask, mapping =>
    let mask := bitMask bit
    if flipMask &&& mask = 0 then
      adjustModifiers button group notRequiredMask bit requiredState flipMask mapping
    else
      match keyMap.keyForModifier button group bit with
      | none =>
        if mask &&& notRequiredMask = 0 then (mapping, false)
        else adjustModifiers button group notRequiredMask bit requiredState flipMask mapping
      | some keyItem =>
        let active : Bool := requiredState &&& mask ≠ 0
        let sensitive := keyItem.sensitive &&& ~~~mask
        if mask < sensitive then (mapping, false)
        else
          let adjusted :=
            if sensitive ≠ 0 ∧ active then
              adjustModifiers button group notRequiredMask bit keyItem.required
                ((mapping.currentState ^^^ keyItem.required) &&& sensitive &&& ~~~notRequiredMask)
                mapping
            else (mapping, true)
          if !adjusted.2 ||
              adjusted.1.currentState &&& sensitive ≠ keyItem.required &&& sensitive then
            (adjusted.1, false)
          else
            adjustModifiers button group notRequiredMask bit requiredState flipMask
              (keyMap.addKeystrokes platform (if active then .modify else .unmodify) keyItem
                adjusted.1)

def keysForModifierState (button : KeyButton) (group : Int)
    (requiredState sensitiveMask notRequiredMask : KeyModifierMask) (mapping : Mapping) :
    Mapping × Bool :=
  keyMap.adjustModifiers platform button group notRequiredMask kKeyModifierNumBits requiredState
    ((mapping.currentState ^^^ requiredState) &&& sensitiveMask &&& ~~~notRequiredMask) mapping

def s_notRequiredMask : KeyModifierMask :=
  KeyModifierAltGr ||| KeyModifierNumLock ||| KeyModifierScrollLock

def addGroupToKeystroke (group : Int) (lang : String) (mapping : Mapping) : Mapping :=
  let group := keyMap.getLanguageGroupID group lang
  { mapping.push [.group group true false] with group }

def keysForKeyItem (keyItem : KeyItem) (desiredState overrideModifiers : KeyModifierMask)
    (isAutoRepeat : Bool) (lang : String) (mapping : Mapping) : Mapping × Bool :=
  let mapping :=
    if mapping.group ≠ keyItem.group then keyMap.addGroupToKeystroke keyItem.group lang mapping
    else mapping
  if keyItem.dead then
    let required :=
      keyMap.keysForModifierState platform keyItem.button mapping.group keyItem.required
        keyItem.sensitive 0 mapping
    if !required.2 then required
    else (keyMap.addKeystrokes platform .click keyItem required.1, true)
  else
    let sensitive := keyItem.sensitive &&& ~~~overrideModifiers
    let required :=
      keyMap.keysForModifierState platform keyItem.button mapping.group keyItem.required sensitive 0
        mapping
    if !required.2 then required
    else
      let desired :=
        keyMap.keysForModifierState platform keyItem.button mapping.group desiredState
          (~~~(sensitive ||| keyItem.generates)) s_notRequiredMask required.1
      if !desired.2 then desired
      else
        (keyMap.addKeystrokes platform (if isAutoRepeat then .repeated else .press) keyItem
          desired.1, true)

/-- Releases what was not active before and presses what was, but for the key's own button. -/
def keysToRestoreModifiers (keyItem : KeyItem) (desiredModifiers : ModifierToKeys)
    (mapping : Mapping) : Mapping :=
  let oldModifiers := mapping.activeModifiers
  let released := oldModifiers.foldl (fun mapping entry =>
    if entry.2.button ≠ keyItem.button ∧ !desiredModifiers.hasButton entry.2.button then
      keyMap.addKeystrokes platform (if entry.2.lock then .unmodify else .release) entry.2 mapping
    else mapping) mapping
  desiredModifiers.foldl (fun mapping entry =>
    if entry.2.button ≠ keyItem.button ∧ !oldModifiers.hasButton entry.2.button then
      keyMap.addKeystrokes platform (if entry.2.lock then .modify else .press) entry.2 mapping
    else mapping) released

end KeyMap

end DeskflowPlus
