import Mathlib.Data.List.Nodup

/-!
# What was used last

A history, newest item first, with each item kept where it comes first. A bounded list that takes an
item in front, drops it behind and is cut off shows the first of these, whatever was cut off.
-/

namespace DeskflowPlus

variable {α : Type*} [DecidableEq α]

def recent : List α → List α
  | [] => []
  | item :: history => item :: (recent history).filter (· ≠ item)

theorem nodup_recent (history : List α) : (recent history).Nodup := by
  induction history with
  | nil => exact .nil
  | cons item history ih =>
    rw [recent, List.nodup_cons]
    refine ⟨fun hmem => ?_, ih.filter _⟩
    simp at hmem

theorem take_filter_take {items : List α} (h : items.Nodup) (item : α) (bound : Nat) :
    ((items.take (bound + 1)).filter (· ≠ item)).take bound =
      (items.filter (· ≠ item)).take bound := by
  induction items generalizing bound with
  | nil => rfl
  | cons first rest ih =>
    obtain ⟨hfirst, hrest⟩ := List.nodup_cons.mp h
    rw [List.take_succ_cons]
    by_cases hsame : first = item
    · subst hsame
      have hkept : rest.filter (· ≠ first) = rest := List.filter_eq_self.mpr fun other hother => by
        simp only [decide_eq_true_eq]
        exact fun hsame => hfirst (hsame ▸ hother)
      have htaken : (rest.take bound).filter (· ≠ first) = rest.take bound :=
        List.filter_eq_self.mpr fun other hother => by
          simp only [decide_eq_true_eq]
          exact fun hsame => hfirst (hsame ▸ List.mem_of_mem_take hother)
      rw [List.filter_cons_of_neg (by simp), List.filter_cons_of_neg (by simp), htaken, hkept,
        List.take_take, Nat.min_self]
    · rw [List.filter_cons_of_pos (by simp [hsame]), List.filter_cons_of_pos (by simp [hsame])]
      cases bound with
      | zero => rfl
      | succ bound => rw [List.take_succ_cons, List.take_succ_cons, ih hrest]

/-- The cut loses nothing that is shown later. -/
theorem take_recent_cons (item : α) (history : List α) (bound : Nat) :
    (item :: ((recent history).take bound).filter (· ≠ item)).take bound =
      (recent (item :: history)).take bound := by
  cases bound with
  | zero => rfl
  | succ bound =>
    rw [recent, List.take_succ_cons, List.take_succ_cons, take_filter_take (nodup_recent history)]

end DeskflowPlus
