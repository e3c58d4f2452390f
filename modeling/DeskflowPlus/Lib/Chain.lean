import Mathlib.Data.Fintype.Pigeonhole
import Mathlib.Data.Set.Finite.Basic
import Mathlib.Dynamics.PeriodicPts.Defs

/-!
# Chains of a partial step

A step takes a point to the next one, or ends. Among finitely many points a chain ends exactly if it
never comes back to a point that it has passed.
-/

namespace DeskflowPlus

namespace Chain

variable {Point : Type} (step : Point → Option Point)

/-- The point after a number of steps, if the chain has not ended before. -/
def follow (count : Nat) (first : Point) : Option Point :=
  (fun point => Option.bind point step)^[count] (some first)

def Ends (first : Point) : Prop := ∃ count, follow step count first = none

def ComesBack (first : Point) : Prop :=
  ∃ earlier later, earlier < later ∧ (follow step earlier first).isSome ∧
    follow step earlier first = follow step later first

variable {step} {first : Point} {count later : Nat}

theorem follow_succ : follow step (count + 1) first = (step first).bind (follow step count) := by
  have hnone : (fun point => Option.bind point step)^[count] none = none := by
    induction count with
    | zero => rfl
    | succ count ih => exact (Function.iterate_succ_apply _ _ _).trans ih
  unfold follow
  rw [Function.iterate_succ_apply, Option.bind_some]
  cases step first with
  | none => exact hnone
  | some next => rfl

theorem follow_succ' : follow step (count + 1) first = (follow step count first).bind step :=
  Function.iterate_succ_apply' ..

theorem follow_none_of_le (h : follow step count first = none) (hle : count ≤ later) :
    follow step later first = none := by
  induction later, hle using Nat.le_induction with
  | base => exact h
  | succ later _ ih => rw [follow_succ', ih, Option.bind_none]

theorem not_ends_of_comesBack (h : ComesBack step first) : ¬ Ends step first := by
  rintro ⟨count, hcount⟩
  obtain ⟨earlier, later, hlt, hsome, hback⟩ := h
  have hperiod : Function.IsPeriodicPt (fun point => Option.bind point step) (later - earlier)
      (follow step earlier first) := by
    show (fun point => Option.bind point step)^[later - earlier]
      ((fun point => Option.bind point step)^[earlier] (some first)) = follow step earlier first
    rw [← Function.iterate_add_apply, Nat.sub_add_cancel hlt.le]
    exact hback.symm
  have hround : follow step (count * (later - earlier) + earlier) first =
      follow step earlier first := by
    have hrounds := hperiod.const_mul count
    unfold follow
    rw [Function.iterate_add_apply]
    exact hrounds
  have hle : count ≤ count * (later - earlier) + earlier := by
    calc count ≤ count * (later - earlier) := Nat.le_mul_of_pos_right _ (Nat.sub_pos_of_lt hlt)
      _ ≤ count * (later - earlier) + earlier := Nat.le_add_right ..
  rw [← hround, follow_none_of_le hcount hle] at hsome
  cases hsome

theorem ends_iff {points : Set Point} (hfinite : points.Finite)
    (hpoints : ∀ count point, follow step count first = some point → point ∈ points) :
    Ends step first ↔ ¬ ComesBack step first := by
  refine ⟨fun hends hback => not_ends_of_comesBack hback hends, fun hback => ?_⟩
  by_contra hends
  have hsome (count : Nat) : ∃ point, follow step count first = some point :=
    Option.ne_none_iff_exists'.mp fun hnone => hends ⟨count, hnone⟩
  choose point hpoint using hsome
  have := hfinite.to_subtype
  obtain ⟨earlier, later, hne, hsame⟩ := Finite.exists_ne_map_eq_of_infinite fun count =>
    (⟨point count, hpoints count _ (hpoint count)⟩ : points)
  have hfollow : follow step earlier first = follow step later first := by
    rw [hpoint, hpoint]
    exact congrArg some (congrArg Subtype.val hsame)
  rcases Nat.lt_or_gt_of_ne hne with hlt | hgt
  · exact hback ⟨earlier, later, hlt, by rw [hpoint]; rfl, hfollow⟩
  · exact hback ⟨later, earlier, hgt, by rw [hpoint]; rfl, hfollow.symm⟩

end Chain

end DeskflowPlus
