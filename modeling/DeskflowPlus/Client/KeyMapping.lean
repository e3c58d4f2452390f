import DeskflowPlus.Client.KeyMap

/-!
# Mapping keys

A key is mapped to the entry of its id that needs the fewest changes of modifiers, from the groups in
their order. The modifiers are adjusted on a copy, which replaces the caller's only when all of it
went well; the pseudo keys that set and clear modifiers work on the caller's own.
-/

namespace DeskflowPlus

namespace KeyMap

def getCommandModifiers : KeyModifierMask :=
  KeyModifierControl ||| KeyModifierAlt ||| KeyModifierAltGr ||| KeyModifierMeta ||| KeyModifierSuper

def isCommand (mask : KeyModifierMask) : Bool := mask &&& getCommandModifiers ≠ 0

def getNumModifiers (state : KeyModifierMask) : Nat :=
  (List.range 32).countP fun bit => (state >>> UInt32.ofNat bit) &&& 1 ≠ 0

def lastItem (entry : KeyItemList) : KeyItem := entry.getLast?.getD {}

def fewestChanges (desiredState : KeyModifierMask) :
    KeyEntryList → Option KeyItemList → Nat → Option KeyItemList
  | [], best, _ => best
  | entry :: entries, best, bestCount =>
    let item := lastItem entry
    let n := getNumModifiers ((item.required ^^^ desiredState) &&& item.sensitive)
    if n < bestCount then fewestChanges desiredState entries (some entry) n
    else fewestChanges desiredState entries best bestCount

def findBestKey (entryList : KeyEntryList) (desiredState : KeyModifierMask) : Option KeyItemList :=
  let exact := entryList.find? fun entry =>
    let item := lastItem entry
    item.required &&& desiredState = item.required ∧
      item.required &&& desiredState = item.sensitive &&& desiredState
  exact.or (fewestChanges desiredState entryList none 32)

variable (platform : Platform) (keyMap : KeyMap)

def getKeyItemList (keyGroupTable : KeyGroupTable) (group : Int) (desiredMask : KeyModifierMask) :
    Option KeyItemList :=
  (List.range keyMap.numGroups).findSome? fun (groupOffset : Nat) =>
    findBestKey (keyGroupTable.getD (keyMap.getEffectiveGroup group groupOffset).toNat []) desiredMask

/-- The loop of `mapCharacterKey`, up to the first key that cannot be mapped. -/
def keysForKeyItems (desiredState overrideModifiers : KeyModifierMask) (isAutoRepeat : Bool)
    (lang : String) : KeyItemList → Mapping → Mapping × Bool
  | [], mapping => (mapping, true)
  | item :: items, mapping =>
    match keyMap.keysForKeyItem platform item desiredState overrideModifiers isAutoRepeat lang
      mapping with
    | (mapped, false) => (mapped, false)
    | (mapped, true) => keysForKeyItems desiredState overrideModifiers isAutoRepeat lang items mapped

def mapKeyItems (itemList : KeyItemList) (keyItem : KeyItem)
    (desiredState overrideModifiers : KeyModifierMask) (isAutoRepeat : Bool) (lang : String)
    (mapping : Mapping) : Mapping × Option KeyItem :=
  match keyMap.keysForKeyItems platform desiredState overrideModifiers isAutoRepeat lang itemList
    mapping with
  | (_, false) => ({ mapping with keystrokes := [] }, none)
  | (mapped, true) =>
    ({ keyMap.keysToRestoreModifiers platform keyItem mapping.activeModifiers mapped with
        group := mapping.group }, some keyItem)

/-- For the right button rather than the right character. -/
def matchesCommand (desiredMask : KeyModifierMask) (item : KeyItem) : Bool :=
  let desiredShiftMask := KeyModifierShift &&& desiredMask
  let requiredIgnoreShiftMask := item.required &&& ~~~KeyModifierShift
  item.required &&& desiredShiftMask = item.sensitive &&& desiredShiftMask ∧
    requiredIgnoreShiftMask &&& desiredMask = requiredIgnoreShiftMask

def findCommandKey (keyGroupTable : KeyGroupTable) (group : Int) (desiredMask : KeyModifierMask) :
    Option KeyItem :=
  (List.range keyMap.numGroups).findSome? fun (groupOffset : Nat) =>
    (keyGroupTable.getD (keyMap.getEffectiveGroup group groupOffset).toNat []).findSome? fun entry =>
      match entry with
      | [item] => if matchesCommand desiredMask item then some item else none
      | _ => none

def mapCommandKey (id : KeyID) (desiredMask : KeyModifierMask) (isAutoRepeat : Bool) (lang : String)
    (mapping : Mapping) : Mapping × Option KeyItem :=
  match keyMap.keyIDMap.lookup id with
  | none => (mapping, none)
  | some keyGroupTable =>
    match keyMap.findCommandKey keyGroupTable mapping.group desiredMask with
    | none => (mapping, none)
    | some keyItem =>
      let desiredMask :=
        (desiredMask &&& ~~~KeyModifierCapsLock) ||| (mapping.currentState &&& KeyModifierCapsLock)
      keyMap.mapKeyItems platform [keyItem] keyItem desiredMask 0xffff isAutoRepeat lang mapping

def mapCharacterKey (id : KeyID) (desiredMask : KeyModifierMask) (isAutoRepeat : Bool)
    (lang : String) (mapping : Mapping) : Mapping × Option KeyItem :=
  match keyMap.keyIDMap.lookup id with
  | none => (mapping, none)
  | some keyGroupTable =>
    match keyMap.getKeyItemList keyGroupTable (keyMap.getLanguageGroupID mapping.group lang)
      desiredMask with
    | none => (mapping, none)
    | some [] => (mapping, none)
    | some itemList =>
      keyMap.mapKeyItems platform itemList (lastItem itemList) desiredMask 0 isAutoRepeat lang mapping

def mapModifierKey (id : KeyID) (desiredMask : KeyModifierMask) (isAutoRepeat : Bool) (lang : String)
    (mapping : Mapping) : Mapping × Option KeyItem :=
  keyMap.mapCharacterKey platform id desiredMask isAutoRepeat lang mapping

def modifierKeyItem : KeyItem := {}

/-- The keys that are mapped by `mapModifierKey`. -/
def modifierIDs : List KeyID :=
  [kKeyShift_L, kKeyShift_R, kKeyControl_L, kKeyControl_R, kKeyAlt_L, kKeyAlt_R, kKeyMeta_L,
    kKeyMeta_R, kKeySuper_L, kKeySuper_R, kKeyAltGr, kKeyCapsLock, kKeyNumLock, kKeyScrollLock]

def mapKey (id : KeyID) (desiredMask : KeyModifierMask) (isAutoRepeat : Bool) (lang : String)
    (mapping : Mapping) : Mapping × Option KeyItem :=
  if id = kKeyNextGroup then (mapping.push [.group 1 false false], none)
  else if id = kKeyPrevGroup then (mapping.push [.group (-1) false false], none)
  else if id ∈ modifierIDs then
    keyMap.mapModifierKey platform id desiredMask isAutoRepeat lang mapping
  else if id = kKeySetModifiers then
    match keyMap.keysForModifierState platform 0 mapping.group desiredMask desiredMask 0 mapping with
    | (mapped, true) => (mapped, some modifierKeyItem)
    | (mapped, false) => (mapped, none)
  else if id = kKeyClearModifiers then
    match keyMap.keysForModifierState platform 0 mapping.group
      (mapping.currentState &&& ~~~desiredMask) desiredMask 0 mapping with
    | (mapped, true) => (mapped, some modifierKeyItem)
    | (mapped, false) => (mapped, none)
  else if isCommand desiredMask then
    keyMap.mapCommandKey platform id desiredMask isAutoRepeat lang mapping
  else keyMap.mapCharacterKey platform id desiredMask isAutoRepeat lang mapping

end KeyMap

end DeskflowPlus
