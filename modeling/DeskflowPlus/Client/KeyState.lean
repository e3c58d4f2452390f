import DeskflowPlus.Client.FakeKeys
import DeskflowPlus.Client.KeyMapping

/-!
# The client's key state

The client keeps the modifiers that are active, how often each of its buttons is down and, for each
button of the server, the button that was pressed for it. Server buttons come from the network and
are masked before they are looked up.
-/

namespace DeskflowPlus

def kKeyAudioMute : KeyID := 0xE0AD
def kKeyAudioDown : KeyID := 0xE0AE
def kKeyAudioUp : KeyID := 0xE0AF
def kKeyAudioNext : KeyID := 0xE0B0
def kKeyAudioPrev : KeyID := 0xE0B1
def kKeyAudioPlay : KeyID := 0xE0B3
def kKeyBrightnessDown : KeyID := 0xE0B8
def kKeyBrightnessUp : KeyID := 0xE0B9

def s_numButtons : Nat := 0x200

def kButtonMask : KeyButton := 0x1ff

abbrev ButtonTable (α : Type) := Vector α s_numButtons

namespace ButtonTable

variable {α : Type}

/-- There is nothing outside of the table. -/
def read [Inhabited α] (table : ButtonTable α) (button : KeyButton) : α :=
  table[button.toNat]?.getD default

/-- Outside of the table no entry is written. -/
def write (table : ButtonTable α) (button : KeyButton) (value : α) : ButtonTable α :=
  table.setIfInBounds button.toNat value

@[simp] theorem read_write [Inhabited α] {table : ButtonTable α} {button : KeyButton} {value : α}
    (hbutton : button.toNat < s_numButtons) : (table.write button value).read button = value := by
  unfold read write
  rw [Vector.getElem?_setIfInBounds, if_pos rfl, if_pos hbutton, Option.getD_some]

end ButtonTable

def maskButton (button : KeyButton) : KeyButton := button &&& kButtonMask

variable {button : KeyButton}

theorem toNat_maskButton :
    (maskButton button).toNat = button.toNat % s_numButtons := by
  unfold maskButton
  rw [UInt16.toNat_and]
  exact Nat.and_two_pow_sub_one_eq_mod _ 9

theorem maskButton_lt : (maskButton button).toNat < s_numButtons := by
  rw [toNat_maskButton]
  exact Nat.mod_lt _ (by decide)

theorem maskButton_eq_iff :
    maskButton button = button ↔ button.toNat < s_numButtons := by
  rw [← UInt16.toNat_inj, toNat_maskButton]
  constructor
  · intro h
    rw [← h]
    exact Nat.mod_lt _ (by decide)
  · exact Nat.mod_eq_of_lt

structure KeyState where
  keyMap : KeyMap
  mask : KeyModifierMask
  activeModifiers : ModifierToKeys
  keys : ButtonTable Int
  syntheticKeys : ButtonTable Int
  keyClientData : ButtonTable UInt32
  serverKeys : ButtonTable KeyButton
  isLangSyncEnabled : Bool

/-- What a call leaves and sends. -/
structure FakedKeys where
  state : KeyState
  /-- The indices into the table of the server's buttons. -/
  accesses : List KeyButton
  keystrokes : List Keystroke := []
  /-- The key that is given to `fakeMediaKey`. -/
  mediaKey : Option KeyID := none
  result : Bool := false

namespace KeyState

variable (platform : Platform) (group : Int) (state : KeyState)

/-- What `mapKey` is called with, in the group that is polled. -/
def mapping : Mapping :=
  { group, activeModifiers := state.activeModifiers, currentState := state.mask }

/-- The state with what `mapKey` has changed by reference. -/
def withMapping (mapped : Mapping) : KeyState :=
  { state with mask := mapped.currentState, activeModifiers := mapped.activeModifiers }

def isIgnoredKey (id : KeyID) : Bool :=
  id = kKeyCapsLock ∨ id = kKeyNumLock ∨ id = kKeyScrollLock

def mediaKeys : List KeyID :=
  [kKeyAudioDown, kKeyAudioUp, kKeyAudioMute, kKeyAudioPlay, kKeyAudioPrev, kKeyAudioNext,
    kKeyBrightnessDown, kKeyBrightnessUp]

/-- Notes the buttons of modifiers that were released or pressed, but for the given one. Of several keys
with a button the first counts. -/
def updateModifierKeyState (button : KeyButton) (oldModifiers newModifiers : ModifierToKeys) :
    KeyState :=
  let released := oldModifiers.foldl (fun (state : KeyState) entry =>
    let changed := entry.2.button
    if !newModifiers.hasButton changed ∧ changed ≠ button then
      { state with
        keys := state.keys.write changed 0
        syntheticKeys := state.syntheticKeys.write changed 0 }
    else state) state
  newModifiers.foldr (fun entry (state : KeyState) =>
    let changed := entry.2.button
    if !oldModifiers.hasButton changed ∧ changed ≠ button then
      { state with
        keys := state.keys.write changed 1
        syntheticKeys := state.syntheticKeys.write changed 1
        keyClientData := state.keyClientData.write changed entry.2.client }
    else state) released

def noteKeyDown (localID : KeyButton) (client : UInt32) (serverID : KeyButton) : KeyState :=
  { state with
    keys := state.keys.write localID (state.keys.read localID + 1)
    syntheticKeys := state.syntheticKeys.write localID (state.syntheticKeys.read localID + 1)
    keyClientData := state.keyClientData.write localID client
    serverKeys := state.serverKeys.write serverID localID }

def noteKeyUp (localID : KeyButton) : KeyState :=
  { state with
    keys := state.keys.write localID (state.keys.read localID - 1)
    syntheticKeys := state.syntheticKeys.write localID (state.syntheticKeys.read localID - 1) }

/-- Puts the previous button in the place of the first keystroke with the new one. -/
def replaceButton (localID oldLocalID : KeyButton) : List Keystroke → List Keystroke
  | [] => []
  | .button button press isRepeat client :: keys =>
    if button = localID then .button oldLocalID press isRepeat client :: keys
    else .button button press isRepeat client :: replaceButton localID oldLocalID keys
  | key :: keys => key :: replaceButton localID oldLocalID keys

def fakeKeyRepeat (id : KeyID) (mask : KeyModifierMask) (count : Int32) (serverID : KeyButton)
    (lang : String) : FakedKeys :=
  let serverID := maskButton serverID
  let oldLocalID := state.serverKeys.read serverID
  if oldLocalID = 0 then { state, accesses := [serverID] }
  else
    match state.keyMap.mapKey platform id mask true lang (state.mapping group) with
    | (mapped, none) => { state := state.withMapping mapped, accesses := [serverID] }
    | (mapped, some keyItem) =>
      let localID := maskButton keyItem.button
      if localID = 0 then { state := state.withMapping mapped, accesses := [serverID] }
      else if localID ≠ oldLocalID then
        let released := (state.withMapping mapped).noteKeyUp oldLocalID
        let updated :=
          released.updateModifierKeyState localID state.activeModifiers mapped.activeModifiers
        { state := updated.noteKeyDown localID keyItem.client serverID
          accesses := [serverID, serverID]
          keystrokes :=
            fakeKeys state.isLangSyncEnabled (replaceButton localID oldLocalID mapped.keystrokes)
              count.toUInt32
          result := true }
      else
        { state := state.withMapping mapped
          accesses := [serverID]
          keystrokes := fakeKeys state.isLangSyncEnabled mapped.keystrokes count.toUInt32
          result := true }

/-- `fakeKeyDown` for a button that is not down, which is masked already. -/
def pressKey (id : KeyID) (mask : KeyModifierMask) (serverID : KeyButton) (lang : String) :
    FakedKeys :=
  if isIgnoredKey id then { state, accesses := [] }
  else
    match state.keyMap.mapKey platform id mask false lang (state.mapping group) with
    | (mapped, none) =>
      { state := state.withMapping mapped
        accesses := []
        mediaKey := if id ∈ mediaKeys then some id else none }
    | (mapped, some keyItem) =>
      let localID := maskButton keyItem.button
      let updated := (state.withMapping mapped).updateModifierKeyState localID state.activeModifiers
        mapped.activeModifiers
      let keystrokes := fakeKeys state.isLangSyncEnabled mapped.keystrokes 1
      if localID ≠ 0 then
        { state := updated.noteKeyDown localID keyItem.client serverID
          accesses := [serverID]
          keystrokes }
      else { state := updated, accesses := [], keystrokes }

def fakeKeyDown (id : KeyID) (mask : KeyModifierMask) (serverID : KeyButton) (lang : String) :
    FakedKeys :=
  let serverID := maskButton serverID
  let faked :=
    if state.serverKeys.read serverID ≠ 0 then
      state.fakeKeyRepeat platform group id mask 1 serverID lang
    else state.pressKey platform group id mask serverID lang
  { faked with accesses := serverID :: faked.accesses, result := false }

/-- The loop of `fakeKeyUp` over the active modifiers, with those that were kept so far. -/
def releaseModifiers (localID : KeyButton) : ModifierToKeys → ModifierToKeys → KeyModifierMask →
    ModifierToKeys × KeyModifierMask
  | [], kept, mask => (kept, mask)
  | entry :: rest, kept, mask =>
    if entry.2.button = localID ∧ !entry.2.lock then
      releaseModifiers localID rest kept
        (if ModifierToKeys.contains (kept ++ rest) entry.1 then mask else mask &&& ~~~entry.1)
    else releaseModifiers localID rest (kept ++ [entry]) mask

/-- The server's button is masked where it is read and not where it is written. -/
def fakeKeyUp (serverID : KeyButton) : FakedKeys :=
  let localID := state.serverKeys.read (maskButton serverID)
  if localID = 0 then { state, accesses := [maskButton serverID] }
  else
    let keys := [.button localID false false (state.keyClientData.read localID)]
    let released := releaseModifiers localID state.activeModifiers [] state.mask
    { state :=
        { state.noteKeyUp localID with
          serverKeys := state.serverKeys.write serverID 0
          activeModifiers := released.1
          mask := released.2 }
      accesses := [maskButton serverID, serverID]
      keystrokes := fakeKeys state.isLangSyncEnabled keys 1
      result := true }

end KeyState

end DeskflowPlus
