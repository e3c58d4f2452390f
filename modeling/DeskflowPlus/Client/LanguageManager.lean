import Mathlib.Algebra.Group.Nat.Defs
import Mathlib.Data.List.Basic
import Mathlib.Tactic.SplitIfs

/-!
# The languages of the server

The client is told the server's languages as one text of two characters for each. The loop that takes
it apart ends at the length less two, an unsigned number, so it does not end behind a text of one
character, which it reads past.
-/

namespace DeskflowPlus

/-- A `std::out_of_range` leaves the languages as they are by then. -/
structure LanguageManager where
  localLanguages : List (List UInt8) := []
  remoteLanguages : List (List UInt8) := []

inductive StdError where
  | outOfRange
  | lengthError

namespace LanguageManager

/-- `size() - 2` of `size_t`. -/
def lastStart (size : Nat) : Nat := if size < 2 then 2 ^ 64 + size - 2 else size - 2

/-- The loop from an index on, with what is thrown, if anything. -/
def readCodes (text : List UInt8) (i : Nat) : List (List UInt8) × Option StdError :=
  if i ≤ lastStart text.length then
    if text.length < i then ([], some .outOfRange)
    else
      let rest := readCodes text (i + 2)
      ((text.drop i).take 2 :: rest.1, rest.2)
  else ([], none)
termination_by text.length + 1 - i

def setRemoteLanguages (manager : LanguageManager) (text : List UInt8) :
    LanguageManager × Option StdError :=
  if text = [] then ({ manager with remoteLanguages := [] }, none)
  else
    let read := readCodes text 0
    ({ manager with remoteLanguages := read.1 }, read.2)

def getSerializedLocalLanguages (manager : LanguageManager) : List UInt8 :=
  manager.localLanguages.flatten

/-- A single character at the end is no code. -/
def codes : List UInt8 → List (List UInt8)
  | a :: b :: text => [a, b] :: codes text
  | _ => []

variable {manager : LanguageManager} {text : List UInt8} {i : Nat}

theorem codes_flatten {languages : List (List UInt8)} (h : ∀ code ∈ languages, code.length = 2) :
    codes languages.flatten = languages := by
  induction languages with
  | nil => rfl
  | cons code languages ih =>
    obtain ⟨a, b, rfl⟩ := List.length_eq_two.mp (h code List.mem_cons_self)
    have hrest := ih fun other hother => h other (List.mem_cons_of_mem _ hother)
    rw [List.flatten_cons, List.cons_append, List.cons_append, List.nil_append, codes, hrest]

theorem length_flatten {languages : List (List UInt8)} (h : ∀ code ∈ languages, code.length = 2) :
    languages.flatten.length = 2 * languages.length := by
  induction languages with
  | nil => rfl
  | cons code languages ih =>
    rw [List.flatten_cons, List.length_append, h code List.mem_cons_self,
      ih fun other hother => h other (List.mem_cons_of_mem _ hother), List.length_cons]
    omega

/-- Where the bound does not wrap, the loop takes what is left apart. -/
theorem readCodes_eq (hlength : 2 ≤ text.length) (hi : i ≤ text.length) :
    readCodes text i = (codes (text.drop i), none) := by
  have hbound : lastStart text.length = text.length - 2 := if_neg (Nat.not_lt.mpr hlength)
  fun_induction readCodes text i with
  | case1 i hstart hpast => exact absurd hi (Nat.not_le.mpr hpast)
  | case2 i hstart hwithin rest ih =>
    rw [hbound] at hstart
    have hnext : i + 2 ≤ text.length := by omega
    have hfirst : i < text.length := by omega
    have hsecond : i + 1 < text.length := by omega
    show ((text.drop i).take 2 :: rest.1, rest.2) = _
    rw [show rest = readCodes text (i + 2) from rfl, ih hnext, List.drop_eq_getElem_cons hfirst,
      List.drop_eq_getElem_cons hsecond]
    rfl
  | case3 i hend =>
    rw [hbound] at hend
    have hshort : (text.drop i).length < 2 := by
      rw [List.length_drop]
      omega
    rcases hrest : text.drop i with _ | ⟨a, _ | ⟨b, rest⟩⟩
    · rfl
    · rfl
    · rw [hrest] at hshort
      exact absurd hshort (by simp)

theorem readCodes_single {c : UInt8} : readCodes [c] 0 = ([[c]], some .outOfRange) := by
  have hbound : lastStart 1 = 2 ^ 64 - 1 := rfl
  rw [readCodes, List.length_singleton, hbound, if_pos (by decide), if_neg (by decide), readCodes,
    List.length_singleton, hbound, if_pos (by decide), if_pos (by decide)]
  rfl

/-- **Remote languages.** A text is taken apart into its codes unless it is a single character, and the
serialised languages of the other side come back. -/
theorem remoteLanguages_iff (manager : LanguageManager) :
    (∀ text, manager.setRemoteLanguages text =
        ({ manager with remoteLanguages := codes text }, none) ↔ text.length ≠ 1) ∧
      ∀ server : LanguageManager, (∀ code ∈ server.localLanguages, code.length = 2) →
        manager.setRemoteLanguages server.getSerializedLocalLanguages =
          ({ manager with remoteLanguages := server.localLanguages }, none) := by
  have hread (text : List UInt8) (h : text.length ≠ 1) : manager.setRemoteLanguages text =
      ({ manager with remoteLanguages := codes text }, none) := by
    unfold setRemoteLanguages
    by_cases hnone : text = []
    · rw [if_pos hnone, hnone]
      rfl
    · have hpos := List.length_pos_iff.mpr hnone
      rw [if_neg hnone, readCodes_eq (by omega) (Nat.zero_le _)]
      rfl
  refine ⟨fun text => ⟨fun h hsingle => ?_, hread text⟩, fun server hcodes => ?_⟩
  · obtain ⟨c, rfl⟩ := List.length_eq_one_iff.mp hsingle
    have hthrown := congrArg Prod.snd h
    rw [setRemoteLanguages, if_neg (List.cons_ne_nil _ _), readCodes_single] at hthrown
    cases hthrown
  · have heven := length_flatten hcodes
    rw [getSerializedLocalLanguages, hread _ (by omega), codes_flatten hcodes]

theorem remoteLanguages_iff_two : ({} : LanguageManager).setRemoteLanguages [0x65, 0x6e, 0x64, 0x65] =
    ({ remoteLanguages := [[0x65, 0x6e], [0x64, 0x65]] }, none) :=
  (remoteLanguages_iff {}).2 { localLanguages := [[0x65, 0x6e], [0x64, 0x65]] } (by decide)

/-- One letter is read as a code, and then past the end. -/
theorem letter_thrown : ({} : LanguageManager).setRemoteLanguages [0x65] ≠
    ({ remoteLanguages := codes [0x65] }, none) := by
  unfold setRemoteLanguages
  rw [if_neg (List.cons_ne_nil _ _), readCodes_single]
  exact fun h => Option.some_ne_none _ (congrArg Prod.snd h)

end LanguageManager

end DeskflowPlus
