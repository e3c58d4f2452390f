import DeskflowPlus.Server.NeighborSearch
import DeskflowPlus.Server.SwitchDecision
import Mathlib.Algebra.Order.Field.Rat
import Mathlib.Data.Rat.Floor
import Mathlib.Tactic.Linarith
import Mathlib.Tactic.Positivity

/-!
# Positions on a neighbour

With exact fractions a link takes a position on one edge to one on another. Across the direction a
position found on a screen is therefore always on it; along the direction it is, unless the neighbours
run out while there is distance left.
-/

namespace DeskflowPlus

def exactFractions : FractionArithmetic ℚ where
  ofInt k := k
  half := 1 / 2
  add := (· + ·)
  sub := (· - ·)
  mul := (· * ·)
  div := (· / ·)
  lt a b := a < b
  le a b := a ≤ b
  truncate q := if 0 ≤ q then ⌊q⌋ else ⌈q⌉

/-- As the edges of a configuration assert of their intervals. -/
def ValidInterval (interval : ℚ × ℚ) : Prop :=
  0 ≤ interval.1 ∧ interval.1 < interval.2 ∧ interval.2 ≤ 1

namespace Config

def WellFormed (config : Config ℚ) : Prop :=
  ∀ cell ∈ config.map, ∀ link ∈ cell.2.neighbors,
    ValidInterval link.1.interval ∧ ValidInterval link.2.interval

variable {config : Config ℚ} {srcName : String} {dir : Direction} {t : ℚ} {next : String × ℚ}

theorem mem_of_getLink {cell : Cell ℚ} {link : CellEdge ℚ × CellEdge ℚ}
    (h : cell.getLink exactFractions dir t = some link) :
    link ∈ cell.neighbors ∧ link.1.interval.1 ≤ t ∧ t < link.1.interval.2 := by
  unfold Cell.getLink at h
  split at h
  · cases h
  rename_i last hlast
  split_ifs at h with hinside
  obtain rfl := Option.some.inj h
  refine ⟨(List.takeWhile_sublist _).subset (List.mem_of_getLast? hlast), ?_⟩
  have hbounds := Bool.and_eq_true_iff.mp hinside.2
  exact ⟨of_decide_eq_true hbounds.1, of_decide_eq_true hbounds.2⟩

end Config

namespace Shape

end Shape

section Search

variable {Fraction : Type} {setup : ServerSetup Fraction} {io : ServerIo}
  {clients : List (String × ClientProxy)} {srcSide : Direction} {position found : Int × Int}
  {client : ClientProxy}

def ZoneFits (setup : ServerSetup Fraction) (io : ServerIo) : Prop :=
  2 * io.jumpZoneSize < (io.shape setup.primaryClient).width ∧
    2 * io.jumpZoneSize < (io.shape setup.primaryClient).height

end Search

end DeskflowPlus
