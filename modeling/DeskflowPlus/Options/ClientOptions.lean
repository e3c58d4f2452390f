import DeskflowPlus.Options.OptionTypes
import Mathlib.Tactic.SplitIfs

/-!
# The client's options

A set-options message is read three times: by the client, which scans for the clipboard options, by
the screen with its platform, and by the proxy of the server for the modifier keys and the keep-alive
rate. The proxy keeps the values for modifiers as it got them and indexes its tables with them when
a key comes. A read outside a list or a table has no result here.
-/

namespace DeskflowPlus

abbrev KeyID := UInt32
abbrev KeyModifierMask := UInt32
abbrev KeyButton := UInt16
abbrev KeyModifierID := UInt32

def kKeyModifierIDLast : KeyModifierID := 7

/-- The modifiers that can be mapped. -/
inductive KeyModifier where
  | shift
  | control
  | alt
  | metaKey
  | superKey
  | altGr
  deriving DecidableEq

namespace KeyModifier

def all : List KeyModifier := [.shift, .control, .alt, .altGr, .metaKey, .superKey]

/-- `kKeyModifierIDShift` and the others. -/
def id : KeyModifier → KeyModifierID
  | shift => 1
  | control => 2
  | alt => 3
  | metaKey => 4
  | superKey => 5
  | altGr => 6

def mask : KeyModifier → KeyModifierMask
  | shift => 0x0001
  | control => 0x0002
  | alt => 0x0004
  | metaKey => 0x0008
  | superKey => 0x0010
  | altGr => 0x0020

def option : KeyModifier → OptionID
  | shift => kOptionModifierMapForShift
  | control => kOptionModifierMapForControl
  | alt => kOptionModifierMapForAlt
  | altGr => kOptionModifierMapForAltGr
  | metaKey => kOptionModifierMapForMeta
  | superKey => kOptionModifierMapForSuper

def ofOption (id : OptionID) : Option KeyModifier := all.find? (·.option = id)

end KeyModifier

def KeyModifierCapsLock : KeyModifierMask := 0x1000
def KeyModifierNumLock : KeyModifierMask := 0x2000
def KeyModifierScrollLock : KeyModifierMask := 0x4000

def kKeyNone : KeyID := 0x0000
def kKeyAltGr : KeyID := 0xEF7E
def kKeyShift_L : KeyID := 0xEFE1
def kKeyShift_R : KeyID := 0xEFE2
def kKeyControl_L : KeyID := 0xEFE3
def kKeyControl_R : KeyID := 0xEFE4
def kKeyMeta_L : KeyID := 0xEFE7
def kKeyMeta_R : KeyID := 0xEFE8
def kKeyAlt_L : KeyID := 0xEFE9
def kKeyAlt_R : KeyID := 0xEFEA
def kKeySuper_L : KeyID := 0xEFEB
def kKeySuper_R : KeyID := 0xEFEC

/-- In milliseconds, as option values are. -/
def kKeepAliveRate : Nat := 3000
def kKeepAlivesUntilDeath : Nat := 3

abbrev PlatformOptions := List (OptionID × Bool)

def xWindowsOptions : PlatformOptions :=
  [(kOptionXTestXineramaUnaware, true), (kOptionScreenPreserveFocus, false)]

/-- The members of the client, its screen and its server proxy that options change. -/
structure ClientOptions where
  enableClipboard : Bool := true
  maximumClipboardSize : Nat := 2 ^ 31 - 1
  halfDuplex : KeyModifierMask := 0
  platformFlag : OptionID → Bool
  keepAliveAlarm : Nat := kKeepAliveRate * kKeepAlivesUntilDeath
  modifierTranslationTable : KeyModifier → KeyModifierID := KeyModifier.id

/-- The loops over ids and values. Behind the last id of an odd list there is no value to read. -/
def forPairs {State : Type} (known : OptionID → Bool) (set : OptionID → UInt32 → State → State) :
    OptionsList → State → Option State
  | [], state => some state
  | [id], state => if known id then none else some state
  | id :: value :: rest, state =>
    forPairs known set rest (if known id then set id value state else state)

namespace ClientOptions

variable (platform : PlatformOptions)

def halfDuplexMask (id : OptionID) : Option KeyModifierMask :=
  if id = kOptionHalfDuplexCapsLock then some KeyModifierCapsLock
  else if id = kOptionHalfDuplexNumLock then some KeyModifierNumLock
  else if id = kOptionHalfDuplexScrollLock then some KeyModifierScrollLock else none

def setHalfDuplex (id : OptionID) (value : UInt32) (client : ClientOptions) : ClientOptions :=
  match halfDuplexMask id with
  | none => client
  | some mask =>
    { client with halfDuplex :=
        if value ≠ 0 then client.halfDuplex ||| mask else client.halfDuplex &&& ~~~mask }

def setPlatformFlag (id : OptionID) (value : UInt32) (client : ClientOptions) : ClientOptions :=
  { client with platformFlag := Function.update client.platformFlag id (value ≠ 0) }

def platformDefault (id : OptionID) : Bool := (platform.lookup id).getD false

def resetScreenOptions (client : ClientOptions) : ClientOptions :=
  { client with halfDuplex := 0, platformFlag := platformDefault platform }

/-- `Screen::setOptions`, and behind it the platform's. -/
def setScreenOptions (options : OptionsList) (client : ClientOptions) : Option ClientOptions :=
  (forPairs (fun id => (halfDuplexMask id).isSome) setHalfDuplex options client).bind
    (forPairs (fun id => (platform.lookup id).isSome) setPlatformFlag options)

/-- The client's loop steps by one id, and by its value if it knows it. Behind a known id at the end
it steps past the end, and goes on. -/
def scanOptions : OptionsList → ClientOptions → Option ClientOptions
  | [], client => some client
  | [id], client =>
    if id = kOptionClipboardSharing ∨ id = kOptionClipboardSharingSize then none else some client
  | id :: value :: rest, client =>
    if id = kOptionClipboardSharing then
      scanOptions rest { client with enableClipboard := value ≠ 0 }
    else if id = kOptionClipboardSharingSize then
      scanOptions rest { client with maximumClipboardSize := value.toNat }
    else scanOptions (value :: rest) client

def limitClipboard (client : ClientOptions) : ClientOptions :=
  if client.enableClipboard ∧ client.maximumClipboardSize = 0 then
    { client with enableClipboard := false }
  else client

/-- `Client::setOptions`. -/
def setClientOptions (options : OptionsList) (client : ClientOptions) : Option ClientOptions :=
  (scanOptions options client).bind fun client =>
    setScreenOptions platform options client.limitClipboard

def setKeepAliveRate (rate : Nat) (client : ClientOptions) : ClientOptions :=
  { client with keepAliveAlarm := rate * kKeepAlivesUntilDeath }

def resetOptions (client : ClientOptions) : ClientOptions :=
  { (client.resetScreenOptions platform).setKeepAliveRate kKeepAliveRate with
    modifierTranslationTable := KeyModifier.id }

def setProxyOption (id : OptionID) (value : UInt32) (client : ClientOptions) : ClientOptions :=
  match KeyModifier.ofOption id with
  | some modifier =>
    { client with modifierTranslationTable :=
        Function.update client.modifierTranslationTable modifier value }
  | none => if id = kOptionHeartbeat then client.setKeepAliveRate value.toNat else client

def isProxyOption (id : OptionID) : Bool :=
  (KeyModifier.ofOption id).isSome || id = kOptionHeartbeat

def setOptions (options : OptionsList) (client : ClientOptions) : Option ClientOptions :=
  (client.setClientOptions platform options).bind (forPairs isProxyOption setProxyOption options)

/-- Rows are indexed with `KeyModifierID`s; the second key is the right one. -/
def s_translationTable : List (KeyID × KeyID) :=
  [(kKeyNone, kKeyNone), (kKeyShift_L, kKeyShift_R), (kKeyControl_L, kKeyControl_R),
    (kKeyAlt_L, kKeyAlt_R), (kKeyMeta_L, kKeyMeta_R), (kKeySuper_L, kKeySuper_R), (kKeyAltGr, 0)]

def modifierKeys : List (KeyID × KeyModifier × Bool) :=
  [(kKeyShift_L, .shift, false), (kKeyShift_R, .shift, true), (kKeyControl_L, .control, false),
    (kKeyControl_R, .control, true), (kKeyAlt_L, .alt, false), (kKeyAlt_R, .alt, true),
    (kKeyAltGr, .altGr, true), (kKeyMeta_L, .metaKey, false), (kKeyMeta_R, .metaKey, true),
    (kKeySuper_L, .superKey, false), (kKeySuper_R, .superKey, true)]

def translateKey (id : KeyID) (client : ClientOptions) : Option KeyID :=
  match modifierKeys.lookup id with
  | none => some id
  | some (modifier, right) =>
    (s_translationTable[(client.modifierTranslationTable modifier).toNat]?).map fun keys =>
      if right then keys.2 else keys.1

def s_masks : List KeyModifierMask :=
  [0x0000, KeyModifier.shift.mask, KeyModifier.control.mask, KeyModifier.alt.mask,
    KeyModifier.metaKey.mask, KeyModifier.superKey.mask, KeyModifier.altGr.mask]

/-- One mask after the other, in the order of `KeyModifier.all`. -/
def translateMasks (mask : KeyModifierMask) (client : ClientOptions) :
    List KeyModifier → KeyModifierMask → Option KeyModifierMask
  | [], newMask => some newMask
  | modifier :: rest, newMask =>
    if mask &&& modifier.mask ≠ 0 then
      match s_masks[(client.modifierTranslationTable modifier).toNat]? with
      | none => none
      | some translated => translateMasks mask client rest (newMask ||| translated)
    else translateMasks mask client rest newMask

def translateModifierMask (mask : KeyModifierMask) (client : ClientOptions) :
    Option KeyModifierMask :=
  let mapped := KeyModifier.all.foldl (fun mapped modifier => mapped ||| modifier.mask) 0
  translateMasks mask client KeyModifier.all (mask &&& ~~~mapped)

/-- What `keyDown`, `keyRepeat` and `keyUp` forward. -/
def translate (id : KeyID) (mask : KeyModifierMask) (client : ClientOptions) :
    Option (KeyID × KeyModifierMask) :=
  (client.translateKey id).bind fun id => (client.translateModifierMask mask).map (id, ·)

end ClientOptions

section Pairs

variable {State : Type} {known : OptionID → Bool} {set : OptionID → UInt32 → State → State}
  {options : OptionsList} {pairs : List (OptionID × UInt32)} {state : State}

def setKnown (known : OptionID → Bool) (set : OptionID → UInt32 → State → State) (state : State)
    (pair : OptionID × UInt32) : State :=
  if known pair.1 then set pair.1 pair.2 state else state

theorem forPairs_flatten :
    forPairs known set (flatten pairs) state = some (pairs.foldl (setKnown known set) state) := by
  induction pairs generalizing state with
  | nil => rfl
  | cons pair pairs ih => exact ih

def toPairs : OptionsList → List (OptionID × UInt32)
  | id :: value :: rest => (id, value) :: toPairs rest
  | _ => []

end Pairs

end DeskflowPlus
