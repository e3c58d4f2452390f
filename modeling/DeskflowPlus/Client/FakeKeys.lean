import DeskflowPlus.Client.KeyMap

/-!
# Sending keystrokes

`fakeKeys` sends a list of keystrokes in its order. A run of auto-repeats is sent as many times as the
count says; the count is also the counter of that loop and is not set again for a later run.
-/

namespace DeskflowPlus

namespace Keystroke

/-- A button with `m_repeat`. -/
def repeats : Keystroke → Bool
  | .button _ _ isRepeat _ => isRepeat
  | .group _ _ _ => false

/-- Groups are neither restored nor, without synchronization of the language, changed. -/
def isSent (isLangSyncEnabled : Bool) : Keystroke → Bool
  | .button _ _ _ _ => true
  | .group _ _ restore => !restore && isLangSyncEnabled

end Keystroke

/-- The inner loop, `while (count-- > 0)`. -/
def repeatRun (run : List Keystroke) : Nat → List Keystroke
  | 0 => []
  | count + 1 => run ++ repeatRun run count

theorem length_dropWhile_repeats {key : Keystroke} {keys : List Keystroke} (h : key.repeats = true) :
    ((key :: keys).dropWhile Keystroke.repeats).length ≤ keys.length := by
  rw [List.dropWhile_cons_of_pos h]
  exact (List.dropWhile_sublist _).length_le

/-- The loop over the keystrokes. Without a round of the inner loop the position stays. The counter
ends below zero either way. -/
def fakeKeysFrom (isLangSyncEnabled : Bool) : List Keystroke → UInt32 → List Keystroke
  | [], _ => []
  | key :: keys, count =>
    if key.repeats then
      let run := (key :: keys).takeWhile Keystroke.repeats
      let next := if count = 0 then key :: keys else (key :: keys).dropWhile Keystroke.repeats
      repeatRun run count.toNat ++ fakeKeysFrom isLangSyncEnabled next (0 - 1)
    else if key.isSent isLangSyncEnabled then key :: fakeKeysFrom isLangSyncEnabled keys count
    else fakeKeysFrom isLangSyncEnabled keys count
termination_by keys count => 2 * keys.length + if count = 0 then 1 else 0
decreasing_by
  · rename_i hrepeats
    have hshorter := @length_dropWhile_repeats key keys hrepeats
    have hnonzero : ¬ (0 - 1 : UInt32) = 0 := by decide
    rw [if_neg hnonzero, List.length_cons]
    split_ifs
    · rw [List.length_cons]
      omega
    · omega
  all_goals
    rw [List.length_cons]
    omega

def fakeKeys (isLangSyncEnabled : Bool) (keys : List Keystroke) (count : UInt32) : List Keystroke :=
  if count = 0 ∨ keys = [] then [] else fakeKeysFrom isLangSyncEnabled keys count

inductive Honours (sends : Keystroke → Bool) : List Nat → List Keystroke → List Keystroke → Prop
  | done : Honours sends [] [] []
  | skipped {counts : List Nat} {key : Keystroke} {keys events : List Keystroke}
    (honce : key.repeats = false) (hskipped : sends key = false)
    (hrest : Honours sends counts keys events) : Honours sends counts (key :: keys) events
  | sent {counts : List Nat} {key : Keystroke} {keys events : List Keystroke}
    (honce : key.repeats = false) (hsent : sends key = true)
    (hrest : Honours sends counts keys events) : Honours sends counts (key :: keys) (key :: events)
  | run {counts : List Nat} {count : Nat} {run keys events : List Keystroke} (hnonempty : run ≠ [])
    (hrun : ∀ key ∈ run, key.repeats = true) (hmaximal : ∀ key ∈ keys.head?, key.repeats = false)
    (hrest : Honours sends counts keys events) :
    Honours sends (count :: counts) (run ++ keys) ((List.replicate count run).flatten ++ events)

theorem repeatRun_eq {run : List Keystroke} {count : Nat} :
    repeatRun run count = (List.replicate count run).flatten := by
  induction count with
  | zero => rfl
  | succ count ih => rw [repeatRun, ih, List.replicate_succ, List.flatten_cons]

theorem length_repeatRun {run : List Keystroke} {count : Nat} :
    (repeatRun run count).length = count * run.length := by
  induction count with
  | zero => rw [repeatRun, List.length_nil, Nat.zero_mul]
  | succ count ih => rw [repeatRun, List.length_append, ih, Nat.succ_mul, Nat.add_comm]

theorem honours_fakeKeysFrom {isLangSyncEnabled : Bool} {keys : List Keystroke} {count : UInt32}
    (hcount : count ≠ 0) : ∃ counts, Honours (·.isSent isLangSyncEnabled) counts keys
      (fakeKeysFrom isLangSyncEnabled keys count) ∧
        (∀ first ∈ counts.head?, first = count.toNat) ∧
        ∀ later ∈ counts.tail, later = (0 - 1 : UInt32).toNat := by
  induction keys, count using fakeKeysFrom.induct isLangSyncEnabled with
  | case1 count =>
    rw [fakeKeysFrom]
    exact ⟨[], .done, nofun, nofun⟩
  | case2 key keys count hrepeats next ih =>
    obtain ⟨counts, hhonours, hfirst, hlater⟩ := ih (by decide)
    have hnext : next = (key :: keys).dropWhile Keystroke.repeats := dif_neg hcount
    have hsplit : key :: keys = (key :: keys).takeWhile Keystroke.repeats ++ next := by
      rw [hnext, List.takeWhile_append_dropWhile]
    have hnonempty : (key :: keys).takeWhile Keystroke.repeats ≠ [] := by
      rw [List.takeWhile_cons_of_pos hrepeats]
      exact List.cons_ne_nil _ _
    have hmaximal : ∀ other ∈ next.head?, other.repeats = false := by
      intro other hother
      have hhead := List.head?_dropWhile_not Keystroke.repeats (key :: keys)
      rw [← hnext, Option.mem_def.mp hother] at hhead
      exact hhead
    have hrun : Honours (·.isSent isLangSyncEnabled) (count.toNat :: counts)
        ((key :: keys).takeWhile Keystroke.repeats ++ next)
        ((List.replicate count.toNat ((key :: keys).takeWhile Keystroke.repeats)).flatten ++
          fakeKeysFrom isLangSyncEnabled next (0 - 1)) :=
      .run hnonempty (List.all_eq_true.mp List.all_takeWhile) hmaximal hhonours
    rw [← hsplit] at hrun
    rw [fakeKeysFrom, if_pos hrepeats]
    dsimp only
    rw [if_neg hcount, ← hnext, repeatRun_eq]
    refine ⟨count.toNat :: counts, hrun, fun first h => (Option.some.inj h).symm, ?_⟩
    rcases counts with _ | ⟨first, counts⟩
    · nofun
    · exact List.forall_mem_cons.mpr ⟨hfirst first rfl, hlater⟩
  | case3 key keys count hrepeats hsent ih =>
    obtain ⟨counts, hhonours, hcounts⟩ := ih hcount
    rw [fakeKeysFrom, if_neg hrepeats, if_pos hsent]
    exact ⟨counts, .sent (Bool.eq_false_iff.mpr hrepeats) hsent hhonours, hcounts⟩
  | case4 key keys count hrepeats hskipped ih =>
    obtain ⟨counts, hhonours, hcounts⟩ := ih hcount
    rw [fakeKeysFrom, if_neg hrepeats, if_neg hskipped]
    exact ⟨counts, .skipped (Bool.eq_false_iff.mpr hrepeats) (Bool.eq_false_iff.mpr hskipped) hhonours,
      hcounts⟩

/-- **Repeat counts**: a count of zero sends nothing. Otherwise each button that is not a repeat is
sent once and in its place, as is a group unless it is skipped, and the first run of repeats as often as
the count says. -/
theorem fakeKeys_honours {isLangSyncEnabled : Bool} {keys : List Keystroke} {count : UInt32} :
    (count = 0 → fakeKeys isLangSyncEnabled keys count = []) ∧
      (count ≠ 0 → ∃ counts, Honours (·.isSent isLangSyncEnabled) counts keys
        (fakeKeys isLangSyncEnabled keys count) ∧ ∀ first ∈ counts.head?, first = count.toNat) := by
  unfold fakeKeys
  constructor
  · intro hcount
    rw [if_pos (.inl hcount)]
  · intro hcount
    by_cases hkeys : keys = []
    · rw [if_pos (.inr hkeys), hkeys]
      exact ⟨[], .done, nofun⟩
    · rw [if_neg (not_or.mpr ⟨hcount, hkeys⟩)]
      obtain ⟨counts, hhonours, hfirst, -⟩ := @honours_fakeKeysFrom isLangSyncEnabled keys count hcount
      exact ⟨counts, hhonours, hfirst⟩

theorem Honours.mem {sends : Keystroke → Bool} {counts : List Nat} {keys events : List Keystroke}
    (h : Honours sends counts keys events) {key : Keystroke} (hkey : key ∈ keys)
    (honce : key.repeats = false) (hsent : sends key = true) : key ∈ events := by
  induction h with
  | done => cases hkey
  | skipped _ hskipped _ ih =>
    rcases List.mem_cons.mp hkey with rfl | hkey
    · rw [hskipped] at hsent
      cases hsent
    · exact ih hkey
  | sent _ _ _ ih =>
    rcases List.mem_cons.mp hkey with rfl | hkey
    · exact List.mem_cons_self
    · exact List.mem_cons_of_mem _ (ih hkey)
  | run _ hrun _ _ ih =>
    rcases List.mem_append.mp hkey with hkey | hkey
    · rw [hrun key hkey] at honce
      cases honce
    · exact List.mem_append_right _ (ih hkey)

theorem Honours.length_le {sends : Keystroke → Bool} {counts : List Nat}
    {keys events : List Keystroke} (h : Honours sends counts keys events)
    (honce : ∀ count ∈ counts, count = 1) : events.length ≤ keys.length := by
  induction h with
  | done => exact Nat.le_refl _
  | skipped _ _ _ ih => exact Nat.le_succ_of_le (ih honce)
  | sent _ _ _ ih => exact Nat.succ_le_succ (ih honce)
  | run _ _ _ _ ih =>
    obtain ⟨rfl, hrest⟩ := List.forall_mem_cons.mp honce
    rw [List.replicate_one, List.flatten_singleton, List.length_append, List.length_append]
    exact Nat.add_le_add_left (ih hrest) _

theorem length_fakeKeysFrom_second {isLangSyncEnabled : Bool} {first once second : Keystroke}
    (hfirst : first.repeats = true) (honce : once.repeats = false)
    (hsent : once.isSent isLangSyncEnabled = true) (hsecond : second.repeats = true) {count : UInt32}
    (hcount : count ≠ 0) : (fakeKeysFrom isLangSyncEnabled [first, once, second] count).length =
      count.toNat + ((0 - 1 : UInt32).toNat + 1) := by
  have hnonzero : (0 - 1 : UInt32) ≠ 0 := by decide
  have honce' : ¬ once.repeats = true := Bool.eq_false_iff.mp honce
  have hlast : (fakeKeysFrom isLangSyncEnabled [second] (0 - 1)).length = (0 - 1 : UInt32).toNat := by
    rw [fakeKeysFrom, if_pos hsecond]
    dsimp only
    rw [if_neg hnonzero, List.takeWhile_cons_of_pos hsecond, List.dropWhile_cons_of_pos hsecond,
      List.takeWhile_nil, List.dropWhile_nil, List.length_append, length_repeatRun, fakeKeysFrom,
      List.length_singleton, Nat.mul_one, List.length_nil, Nat.add_zero]
  rw [fakeKeysFrom, if_pos hfirst]
  dsimp only
  rw [if_neg hcount, List.takeWhile_cons_of_pos hfirst, List.dropWhile_cons_of_pos hfirst,
    List.takeWhile_cons_of_neg honce', List.dropWhile_cons_of_neg honce', List.length_append,
    length_repeatRun, List.length_singleton, Nat.mul_one, fakeKeysFrom, if_neg honce', if_pos hsent,
    List.length_cons, hlast]

def Claimed (keys : List Keystroke) (count : Nat) (events : List Keystroke) : Prop :=
  ∃ runs, Honours (fun _ => true) (List.replicate runs count) keys events

/-- No repeat at all sends nothing, without synchronization of the language a group is skipped, and a
second run goes on until the counter has gone round. -/
theorem fakeKeys_not_claimed :
    ¬ Claimed [.button 1 true false 0] 0 (fakeKeys true [.button 1 true false 0] 0) ∧
      ¬ Claimed [.group 1 true false] 1 (fakeKeys false [.group 1 true false] 1) ∧
      ¬ Claimed [.button 1 true true 0, .button 2 true false 0, .button 3 true true 0] 1
        (fakeKeys true [.button 1 true true 0, .button 2 true false 0, .button 3 true true 0] 1) := by
  refine ⟨?_, ?_, ?_⟩
  · rintro ⟨runs, h⟩
    exact absurd (h.mem List.mem_cons_self rfl rfl) (by decide)
  · rintro ⟨runs, h⟩
    refine absurd (h.mem List.mem_cons_self rfl rfl) ?_
    simp [fakeKeys, fakeKeysFrom, Keystroke.repeats, Keystroke.isSent]
  · rintro ⟨runs, h⟩
    have hlength := h.length_le fun count hcount => List.eq_of_mem_replicate hcount
    rw [fakeKeys, if_neg (by decide), length_fakeKeysFrom_second rfl rfl rfl rfl (by decide)] at hlength
    exact absurd hlength (by decide)

end DeskflowPlus
