import DeskflowPlus.Lib.Run
import DeskflowPlus.Options.ClientOptions
import Mathlib.Data.List.Induction
import Mathlib.Data.List.TakeWhile

/-!
# Options from the wire

Which lists a client can read to their end, and which leave tables of modifiers behind that a key can
be looked up in.
-/

namespace DeskflowPlus

namespace ClientOptions

variable {platform : PlatformOptions} {options : OptionsList} {client next : ClientOptions}

def isClipboardOption (id : OptionID) : Bool :=
  id = kOptionClipboardSharing || id = kOptionClipboardSharingSize

def trailingIds (options : OptionsList) : Nat := (options.reverse.takeWhile isClipboardOption).length

def readsValue (platform : PlatformOptions) (id : OptionID) : Bool :=
  (halfDuplexMask id).isSome || (platform.lookup id).isSome || isProxyOption id

/-- Three consumers find all the values they look for. -/
structure Readable (platform : PlatformOptions) (options : OptionsList) : Prop where
  clipboard : trailingIds options % 2 = 0
  values : options.length % 2 = 1 → ∀ id ∈ options.getLast?, readsValue platform id = false

variable {known : OptionID → Bool} {set : OptionID → UInt32 → ClientOptions → ClientOptions}

theorem ofOption_eq_some_iff {id : OptionID} {modifier : KeyModifier} :
    KeyModifier.ofOption id = some modifier ↔ modifier.option = id := by
  constructor
  · intro h
    have hfound := @List.find?_some _ _ _ _ h
    exact of_decide_eq_true hfound
  · rintro rfl
    cases modifier <;> rfl

structure Harmless (platform : PlatformOptions) (options : OptionsList) : Prop
    extends Readable platform options where
  modifiers : ∀ modifier : KeyModifier, ∀ value ∈ lastValue modifier.option (toPairs options),
    value < kKeyModifierIDLast

inductive Message where
  | resetOptions
  | setOptions (options : OptionsList)
  | key (id mask : UInt16)

def fresh (platform : PlatformOptions) : ClientOptions where
  platformFlag := platformDefault platform

def machine (platform : PlatformOptions) : Machine ClientOptions Message where
  start client := client = fresh platform
  step client message :=
    match message with
    | .resetOptions => some (client.resetOptions platform)
    | .setOptions options => client.setOptions platform options
    | .key id mask => (client.translate id.toUInt32 mask.toUInt32).map fun _ => client

section Sample

end Sample

end ClientOptions

end DeskflowPlus
