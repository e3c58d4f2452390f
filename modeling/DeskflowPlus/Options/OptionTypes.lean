import Mathlib.Algebra.Group.Int.Defs
import Mathlib.Algebra.Group.Nat.Defs
import Mathlib.Logic.Function.Basic

/-!
# Options

Options are pairs of an id and a value. A configuration holds each option of a screen at most once;
on the wire all of them are one flat list of ids and values.
-/

namespace DeskflowPlus

abbrev OptionID := UInt32
abbrev OptionValue := Int32
abbrev OptionsList := List UInt32

/-- `OPTION_CODE`. -/
def optionCode (a b c d : Char) : OptionID :=
  UInt32.ofNat (((a.toNat * 256 + b.toNat) * 256 + c.toNat) * 256 + d.toNat)

def kOptionHalfDuplexCapsLock := optionCode 'H' 'D' 'C' 'L'
def kOptionHalfDuplexNumLock := optionCode 'H' 'D' 'N' 'L'
def kOptionHalfDuplexScrollLock := optionCode 'H' 'D' 'S' 'L'
def kOptionModifierMapForShift := optionCode 'M' 'M' 'F' 'S'
def kOptionModifierMapForControl := optionCode 'M' 'M' 'F' 'C'
def kOptionModifierMapForAlt := optionCode 'M' 'M' 'F' 'A'
def kOptionModifierMapForAltGr := optionCode 'M' 'M' 'F' 'G'
def kOptionModifierMapForMeta := optionCode 'M' 'M' 'F' 'M'
def kOptionModifierMapForSuper := optionCode 'M' 'M' 'F' 'R'
def kOptionHeartbeat := optionCode 'H' 'A' 'R' 'T'
def kOptionProtocol := optionCode 'P' 'R' 'O' 'T'
def kOptionScreenSwitchCorners := optionCode 'S' 'S' 'C' 'M'
def kOptionScreenSwitchCornerSize := optionCode 'S' 'S' 'C' 'S'
def kOptionScreenSwitchDelay := optionCode 'S' 'S' 'W' 'T'
def kOptionScreenSwitchTwoTap := optionCode 'S' 'S' 'T' 'T'
def kOptionScreenSwitchNeedsShift := optionCode 'S' 'S' 'N' 'S'
def kOptionScreenSwitchNeedsControl := optionCode 'S' 'S' 'N' 'C'
def kOptionScreenSwitchNeedsAlt := optionCode 'S' 'S' 'N' 'A'
def kOptionXTestXineramaUnaware := optionCode 'X' 'T' 'X' 'U'
def kOptionScreenPreserveFocus := optionCode 'S' 'F' 'O' 'C'
def kOptionRelativeMouseMoves := optionCode 'M' 'D' 'L' 'T'
def kOptionWin32KeepForeground := optionCode '_' 'K' 'F' 'W'
def kOptionDefaultLockToScreenState := optionCode 'L' 'T' 'S' 'S'
def kOptionDisableLockToScreen := optionCode 'D' 'L' 'T' 'S'
def kOptionClipboardSharing := optionCode 'C' 'L' 'P' 'S'
def kOptionClipboardSharingSize := optionCode 'C' 'L' 'S' 'Z'

/-- `Config::ScreenOptions`, a map in the order of its ids. -/
structure ScreenOptions where
  entries : List (OptionID × OptionValue)
  sorted : entries.Pairwise (·.1 < ·.1)

namespace ScreenOptions

theorem sorted_sharingOff :
    ([(kOptionClipboardSharing, 0)] : List (OptionID × OptionValue)).Pairwise (·.1 < ·.1) :=
  List.pairwise_singleton ..

def empty : ScreenOptions := ⟨[], .nil⟩

def find (options : ScreenOptions) (id : OptionID) : Option OptionValue :=
  (options.entries.find? (·.1 = id)).map (·.2)

/-- As `sendOptions` converts them. -/
def toPairs (options : ScreenOptions) : List (OptionID × UInt32) :=
  options.entries.map fun entry => (entry.1, entry.2.toUInt32)

end ScreenOptions

def flatten (pairs : List (OptionID × UInt32)) : OptionsList :=
  pairs.flatMap fun pair => [pair.1, pair.2]

section LastValue

variable {Value : Type}

def lastValue (id : OptionID) : List (OptionID × Value) → Option Value
  | [] => none
  | pair :: rest => (lastValue id rest).or (if pair.1 = id then some pair.2 else none)

variable {id : OptionID} {pairs later : List (OptionID × Value)} {pair : OptionID × Value}

theorem lastValue_append : lastValue id (pairs ++ later) =
    (lastValue id later).or (lastValue id pairs) := by
  induction pairs with
  | nil => exact (Option.or_none).symm
  | cons pair pairs ih => rw [List.cons_append, lastValue, ih, lastValue, Option.or_assoc]

theorem lastValue_concat :
    lastValue id (pairs ++ [pair]) = if pair.1 = id then some pair.2 else lastValue id pairs := by
  have hlast : lastValue id [pair] = if pair.1 = id then some pair.2 else none := Option.none_or
  rw [lastValue_append, hlast]
  split
  · rfl
  · exact Option.none_or

theorem lastValue_isSome : (lastValue id pairs).isSome ↔ ∃ value, (id, value) ∈ pairs := by
  induction pairs with
  | nil => exact ⟨nofun, nofun⟩
  | cons pair pairs ih =>
    rw [lastValue, Option.isSome_or, Bool.or_eq_true, ih]
    by_cases hid : pair.1 = id
    · subst hid
      rw [if_pos rfl]
      exact ⟨fun _ => ⟨pair.2, List.mem_cons_self⟩, fun _ => .inr rfl⟩
    · rw [if_neg hid]
      constructor
      · rintro (⟨value, hvalue⟩ | hnone)
        · exact ⟨value, List.mem_cons_of_mem _ hvalue⟩
        · cases hnone
      · rintro ⟨value, hvalue⟩
        rcases List.mem_cons.mp hvalue with rfl | hvalue
        · exact absurd rfl hid
        · exact .inl ⟨value, hvalue⟩

end LastValue

end DeskflowPlus
