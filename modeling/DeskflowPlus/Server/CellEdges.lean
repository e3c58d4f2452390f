import Mathlib.Order.CompletePartialOrder
import DeskflowPlus.Lib.OrderedRow
import DeskflowPlus.Server.ConfigReferences
import DeskflowPlus.Server.NeighborPosition

/-!
# The edges of a screen

With exact fractions the edges that are linked on a side are intervals apart from each other, in their
order. The map only compares an edge with the two beside it, which is enough: whatever overlaps it is
one of these or behind one that overlaps it too.
-/

namespace DeskflowPlus

theorem Direction.toNat_inj {a b : Direction} : a.toNat = b.toNat ↔ a = b := by
  cases a <;> cases b <;> decide

namespace CellEdge

def span (edge : CellEdge ℚ) : Set ℚ := Set.Ico edge.interval.1 edge.interval.2

def Before (x y : CellEdge ℚ) : Prop :=
  x.side.toNat < y.side.toNat ∨ x.side = y.side ∧ x.interval.2 ≤ y.interval.1

def across (src dst : CellEdge ℚ) (position : ℚ) : ℚ :=
  dst.inverseTransform exactFractions (src.transform exactFractions position)

variable {x y z : CellEdge ℚ} {t : ℚ}

theorem less_iff : x.less exactFractions y = true ↔
    x.side.toNat < y.side.toNat ∨ x.side = y.side ∧ x.interval.1 < y.interval.1 := by
  unfold less
  rw [← Direction.toNat_inj]
  split_ifs with hless hgreater
  · exact iff_of_true rfl (.inl hless)
  · exact iff_of_false not_false fun h => by omega
  · have hsame : x.side.toNat = y.side.toNat := by omega
    rw [or_iff_right hless, and_iff_right hsame]
    exact decide_eq_true_iff

theorem isInside_iff : x.isInside exactFractions t = true ↔ t ∈ x.span := by
  unfold isInside
  rw [Bool.and_eq_true_iff]
  exact and_congr decide_eq_true_iff decide_eq_true_iff

theorem overlaps_iff (hx : ValidInterval x.interval) (hy : ValidInterval y.interval) :
    x.overlaps exactFractions y = true ↔
      x.side = y.side ∧ x.interval.1 < y.interval.2 ∧ y.interval.1 < x.interval.2 := by
  obtain ⟨-, hx, -⟩ := hx
  obtain ⟨-, hy, -⟩ := hy
  unfold overlaps
  split_ifs with hside
  · exact iff_of_false not_false fun h => hside h.1
  rw [and_iff_right (not_not.mp hside)]
  simp only [exactFractions, Bool.or_eq_true, Bool.and_eq_true, decide_eq_true_eq]
  constructor
  · rintro (((h | h) | h) | h)
    · exact ⟨h.2, h.1.trans_lt hx⟩
    · exact ⟨hx.trans_le h.2, h.1⟩
    · exact ⟨h.1.trans_lt hy, h.2⟩
    · exact ⟨h.1, hy.trans_le h.2⟩
  · rintro ⟨hleft, hright⟩
    rcases le_total y.interval.1 x.interval.1 with hstart | hstart
    · exact .inl (.inl (.inl ⟨hstart, hleft⟩))
    · exact .inl (.inr ⟨hstart, hright⟩)

theorem overlaps_iff_span (hx : ValidInterval x.interval) (hy : ValidInterval y.interval) :
    x.overlaps exactFractions y = true ↔ x.side = y.side ∧ (x.span ∩ y.span).Nonempty := by
  rw [overlaps_iff hx hy]
  refine and_congr_right fun _ => ?_
  unfold span
  rw [Set.Ico_inter_Ico, Set.nonempty_Ico, max_lt_iff, lt_min_iff, lt_min_iff]
  have hx := hx.2.1
  have hy := hy.2.1
  tauto

theorem before_of_not_overlaps (hx : ValidInterval x.interval) (hy : ValidInterval y.interval)
    (h : ¬ x.overlaps exactFractions y = true) : x.Before y ∨ y.Before x := by
  rw [overlaps_iff hx hy] at h
  rcases lt_trichotomy x.side.toNat y.side.toNat with hless | hsame | hgreater
  · exact .inl (.inl hless)
  · have hside := Direction.toNat_inj.mp hsame
    rcases le_or_gt x.interval.2 y.interval.1 with hend | hstart
    · exact .inl (.inr ⟨hside, hend⟩)
    · refine .inr (.inr ⟨hside.symm, not_lt.mp fun hinside => h ⟨hside, hinside, hstart⟩⟩)
  · exact .inr (.inl hgreater)

theorem Before.trans (hy : ValidInterval y.interval) (hxy : x.Before y) (hyz : y.Before z) :
    x.Before z := by
  rcases hxy with hxy | ⟨hside, hxy⟩
  · rcases hyz with hyz | ⟨hside, -⟩
    · exact .inl (hxy.trans hyz)
    · exact .inl (hside ▸ hxy)
  · rcases hyz with hyz | ⟨hside', hyz⟩
    · exact .inl (hside ▸ hyz)
    · exact .inr ⟨hside.trans hside', hxy.trans (hy.2.1.le.trans hyz)⟩

theorem Before.less (hx : ValidInterval x.interval) (h : x.Before y) :
    x.less exactFractions y = true := by
  refine less_iff.mpr (h.imp_right fun h => ⟨h.1, hx.2.1.trans_le h.2⟩)

theorem not_less_of_less (h : x.less exactFractions y = true) : ¬ y.less exactFractions x = true := by
  rw [less_iff] at h ⊢
  rintro (hless | ⟨hside, hless⟩)
  · rcases h with h | ⟨hside, -⟩
    · exact lt_asymm h hless
    · exact lt_irrefl _ (hside ▸ hless)
  · rcases h with h | ⟨-, h⟩
    · exact lt_irrefl _ (hside ▸ h)
    · exact lt_asymm h hless

theorem less_trans (hxy : x.less exactFractions y = true) (hyz : y.less exactFractions z = true) :
    x.less exactFractions z = true := by
  rw [less_iff] at hxy hyz ⊢
  rcases hxy with hxy | ⟨hside, hxy⟩
  · exact .inl (hyz.elim hxy.trans fun h => h.1 ▸ hxy)
  · exact hyz.imp (hside ▸ ·) fun h => ⟨hside.trans h.1, hxy.trans h.2⟩

theorem overlaps_of_between (hx : ValidInterval x.interval) (hy : ValidInterval y.interval)
    (hz : ValidInterval z.interval) (hless : x.less exactFractions y = true) (hbefore : y.Before z)
    (hoverlaps : z.overlaps exactFractions x = true) : y.overlaps exactFractions x = true := by
  obtain ⟨hside, hstart, -⟩ := (overlaps_iff hz hx).mp hoverlaps
  rw [less_iff] at hless
  rcases hbefore with hbefore | ⟨hsame, hend⟩
  · rw [hside] at hbefore
    rcases hless with hless | ⟨hsame, -⟩
    · exact absurd hless hbefore.asymm
    · exact absurd hbefore (hsame ▸ lt_irrefl _)
  · have hyx : y.side = x.side := hsame.trans hside
    rw [hyx, or_iff_right (lt_irrefl _)] at hless
    refine (overlaps_iff hy hx).mpr ⟨hyx, ?_, hless.2.trans hy.2.1⟩
    exact hy.2.1.trans (hend.trans_lt hstart)

theorem end_le_of_before (hless : ¬ x.less exactFractions z = true) (hbefore : y.Before z)
    (hside : y.side = x.side) : y.interval.2 ≤ x.interval.1 := by
  rw [less_iff, not_or] at hless
  rcases hbefore with hbefore | ⟨hsame, hend⟩
  · exact absurd (hside ▸ hbefore) hless.1
  · have hxz : x.side = z.side := hside.symm.trans hsame
    exact hend.trans (not_lt.mp fun hlt => hless.2 ⟨hxz, hlt⟩)

theorem across_eq : x.across y t =
    (t - x.interval.1) / (x.interval.2 - x.interval.1) * (y.interval.2 - y.interval.1) +
      y.interval.1 := rfl

theorem strictMono_across (hx : ValidInterval x.interval) (hy : ValidInterval y.interval) :
    StrictMono (x.across y) := by
  intro s t hst
  rw [across_eq, across_eq]
  have hlength : 0 < x.interval.2 - x.interval.1 := sub_pos.mpr hx.2.1
  have hlength' : 0 < y.interval.2 - y.interval.1 := sub_pos.mpr hy.2.1
  gcongr

theorem across_start : x.across y x.interval.1 = y.interval.1 := by
  rw [across_eq, sub_self, zero_div, zero_mul, zero_add]

theorem across_end (hx : ValidInterval x.interval) : x.across y x.interval.2 = y.interval.2 := by
  have hlength : x.interval.2 - x.interval.1 ≠ 0 := (sub_pos.mpr hx.2.1).ne'
  rw [across_eq, div_self hlength, one_mul, sub_add_cancel]

theorem mapsTo_across (hx : ValidInterval x.interval) (hy : ValidInterval y.interval) :
    Set.MapsTo (x.across y) x.span y.span := by
  intro t ht
  have hmono := strictMono_across hx hy
  have hstart := hmono.monotone ht.1
  have hend := hmono ht.2
  rw [across_start] at hstart
  rw [across_end hx] at hend
  exact ⟨hstart, hend⟩

end CellEdge

namespace Cell

structure Partition (cell : Cell ℚ) : Prop where
  valid : ∀ link ∈ cell.neighbors, ValidInterval link.1.interval ∧ ValidInterval link.2.interval
  ordered : cell.neighbors.Pairwise fun x y => x.1.Before y.1

variable {cell : Cell ℚ} {edge src dst : CellEdge ℚ} {side : Direction} {position : ℚ}
  {link : CellEdge ℚ × CellEdge ℚ}

theorem side_of_getLink (h : cell.getLink exactFractions side position = some link) :
    link.1.side = side := by
  unfold getLink at h
  split at h
  · cases h
  split_ifs at h with hinside
  obtain rfl := Option.some.inj h
  exact hinside.1

namespace Partition

theorem sorted (hcell : cell.Partition) : cell.neighbors.Pairwise fun x y =>
    (!edge.less exactFractions y.1) = true → (!edge.less exactFractions x.1) = true := by
  refine hcell.ordered.imp_of_mem fun {x y} hx _ hbefore hy => ?_
  rw [Bool.not_eq_true'] at hy ⊢
  refine Bool.eq_false_iff.mpr fun hless => Bool.eq_false_iff.mp hy ?_
  exact CellEdge.less_trans hless (hbefore.less (hcell.valid x hx).1)

theorem upTo_eq (hcell : cell.Partition) : cell.upTo exactFractions edge =
    cell.neighbors.filter fun link => !edge.less exactFractions link.1 :=
  OrderedRow.takeWhile_eq_filter hcell.sorted

theorem behind_eq (hcell : cell.Partition) : cell.behind exactFractions edge =
    cell.neighbors.filter fun link => !!edge.less exactFractions link.1 :=
  OrderedRow.dropWhile_eq_filter hcell.sorted

theorem mem_upTo (hcell : cell.Partition) : link ∈ cell.upTo exactFractions edge ↔
    link ∈ cell.neighbors ∧ ¬ edge.less exactFractions link.1 = true := by
  rw [hcell.upTo_eq, List.mem_filter, Bool.not_eq_true', Bool.not_eq_true]

theorem mem_behind (hcell : cell.Partition) : link ∈ cell.behind exactFractions edge ↔
    link ∈ cell.neighbors ∧ edge.less exactFractions link.1 = true := by
  rw [hcell.behind_eq, List.mem_filter, Bool.not_not]

theorem upTo_ordered (hcell : cell.Partition) :
    (cell.upTo exactFractions edge).Pairwise fun x y => x.1.Before y.1 :=
  hcell.ordered.sublist (List.takeWhile_sublist _)

theorem behind_ordered (hcell : cell.Partition) :
    (cell.behind exactFractions edge).Pairwise fun x y => x.1.Before y.1 :=
  hcell.ordered.sublist (List.dropWhile_sublist _)

theorem overlaps_iff (hcell : cell.Partition) (hedge : ValidInterval edge.interval) :
    cell.overlaps exactFractions edge = true ↔
      ∃ link ∈ cell.neighbors, link.1.overlaps exactFractions edge = true := by
  unfold Cell.overlaps
  rw [Bool.or_eq_true, Option.any_eq_true, Option.any_eq_true]
  constructor
  · rintro (⟨link, hlink, hoverlaps⟩ | ⟨link, hlink, hoverlaps⟩)
    · exact ⟨link, (hcell.mem_behind.mp (List.mem_of_head? hlink)).1, hoverlaps⟩
    · exact ⟨link, (hcell.mem_upTo.mp (List.mem_of_getLast? hlink)).1, hoverlaps⟩
  rintro ⟨link, hlink, hoverlaps⟩
  have hvalid := (hcell.valid link hlink).1
  obtain ⟨hside, hstart, hend⟩ := (CellEdge.overlaps_iff hvalid hedge).mp hoverlaps
  by_cases hless : edge.less exactFractions link.1 = true
  · have hbehind := hcell.mem_behind.mpr ⟨hlink, hless⟩
    obtain ⟨first, hfirst⟩ := Option.isSome_iff_exists.mp
      (List.isSome_head?.mpr (List.ne_nil_of_mem hbehind))
    refine .inl ⟨first, hfirst, ?_⟩
    rcases OrderedRow.eq_or_head?_before hcell.behind_ordered hfirst hbehind with rfl | hbefore
    · exact hoverlaps
    obtain ⟨hmem, hless⟩ := hcell.mem_behind.mp (List.mem_of_head? hfirst)
    exact CellEdge.overlaps_of_between hedge (hcell.valid first hmem).1 hvalid hless hbefore hoverlaps
  · have hupTo := hcell.mem_upTo.mpr ⟨hlink, hless⟩
    obtain ⟨last, hlast⟩ := Option.isSome_iff_exists.mp
      (List.getLast?_isSome.mpr (List.ne_nil_of_mem hupTo))
    refine .inr ⟨last, hlast, ?_⟩
    rcases OrderedRow.eq_or_before_getLast? hcell.upTo_ordered hlast hupTo with rfl | hbefore
    · exact hoverlaps
    obtain ⟨-, hless⟩ := hcell.mem_upTo.mp (List.mem_of_getLast? hlast)
    exact absurd hend (CellEdge.end_le_of_before hless hbefore hside).not_gt

theorem getLink_iff (hcell : cell.Partition) :
    cell.getLink exactFractions side position = some link ↔
      link ∈ cell.neighbors ∧ link.1.side = side ∧ position ∈ link.1.span := by
  let edge : CellEdge ℚ := { side, interval := (position, position) }
  constructor
  · intro h
    obtain ⟨hmem, hstart, hend⟩ := Config.mem_of_getLink h
    exact ⟨hmem, side_of_getLink h, hstart, hend⟩
  · rintro ⟨hmem, rfl, hinside⟩
    have hnotLess : ¬ edge.less exactFractions link.1 = true := by
      rw [CellEdge.less_iff]
      rintro (hless | ⟨-, hless⟩)
      · exact lt_irrefl _ hless
      · exact absurd hinside.1 hless.not_ge
    have hupTo := hcell.mem_upTo.mpr ⟨hmem, hnotLess⟩
    obtain ⟨last, hlast⟩ := Option.isSome_iff_exists.mp
      (List.getLast?_isSome.mpr (List.ne_nil_of_mem hupTo))
    obtain rfl : link = last := by
      refine (OrderedRow.eq_or_before_getLast? hcell.upTo_ordered hlast hupTo).resolve_right
        fun hbefore => ?_
      obtain ⟨-, hless⟩ := hcell.mem_upTo.mp (List.mem_of_getLast? hlast)
      exact absurd hinside.2 (CellEdge.end_le_of_before hless hbefore rfl).not_gt
    unfold getLink
    rw [hlast]
    exact if_pos ⟨rfl, CellEdge.isInside_iff.mpr hinside⟩

theorem before_or_behind (hcell : cell.Partition) (hsrc : ValidInterval src.interval)
    (hadds : cell.hasEdge exactFractions src = true ∨ ¬ cell.overlaps exactFractions src = true)
    (hlink : link ∈ cell.neighbors) (hkey : sameKey exactFractions src link.1 = false) :
    link.1.Before src ∨ src.Before link.1 := by
  have hvalid := (hcell.valid link hlink).1
  rcases hadds with hreplaces | hapart
  · unfold hasEdge at hreplaces
    obtain ⟨old, hfind, hsame⟩ := (Option.any_eq_true _ _).mp hreplaces
    obtain ⟨hside, hinterval⟩ := of_decide_eq_true hsame
    have hold : old ∈ cell.neighbors := List.mem_of_find?_eq_some hfind
    have holdKey := List.find?_some hfind
    rcases OrderedRow.eq_or_before hcell.ordered hlink hold with rfl | hbefore
    · exact absurd (hkey.symm.trans holdKey) Bool.false_ne_true
    · unfold CellEdge.Before at hbefore ⊢
      rwa [hside, hinterval] at hbefore
  · refine CellEdge.before_of_not_overlaps hvalid hsrc fun hoverlaps => hapart ?_
    exact (hcell.overlaps_iff hsrc).mpr ⟨link, hlink, hoverlaps⟩

theorem add (hcell : cell.Partition) (hsrc : ValidInterval src.interval)
    (hdst : ValidInterval dst.interval) : (cell.add exactFractions src dst).2.Partition := by
  by_cases hrefused : ¬ cell.hasEdge exactFractions src = true ∧ cell.overlaps exactFractions src = true
  · unfold Cell.add
    rwa [if_pos hrefused]
  have hadds : cell.hasEdge exactFractions src = true ∨ ¬ cell.overlaps exactFractions src = true := by
    rwa [not_and_or, not_not] at hrefused
  let others : Cell ℚ :=
    { cell with neighbors := cell.neighbors.filter fun link => !sameKey exactFractions src link.1 }
  have hothers : others.Partition :=
    { valid := fun link hlink => hcell.valid link (List.mem_filter.mp hlink).1
      ordered := hcell.ordered.filter _ }
  have hapart (link : CellEdge ℚ × CellEdge ℚ) (hlink : link ∈ others.neighbors) :
      link.1.Before src ∨ src.Before link.1 := by
    obtain ⟨hmem, hkey⟩ := List.mem_filter.mp hlink
    rw [Bool.not_eq_true'] at hkey
    exact hcell.before_or_behind hsrc hadds hmem hkey
  have hneighbors : (cell.add exactFractions src dst).2.neighbors =
      others.upTo exactFractions src ++ (src, dst) :: others.behind exactFractions src := by
    unfold Cell.add
    rw [if_neg hrefused]
  constructor
  · intro link hlink
    rcases mem_of_add hlink with rfl | hlink
    · exact ⟨hsrc, hdst⟩
    · exact hcell.valid link hlink
  · rw [hneighbors, hothers.upTo_eq, hothers.behind_eq]
    refine OrderedRow.pairwise_insert hothers.ordered ?_ ?_ fun x y => CellEdge.Before.trans hsrc
    · intro other hother hless
      rw [Bool.not_eq_true'] at hless
      refine (hapart other hother).resolve_right fun hbehind => ?_
      exact Bool.false_ne_true (hless.symm.trans (hbehind.less hsrc))
    · intro other hother hless
      rw [Bool.not_eq_false'] at hless
      refine (hapart other hother).resolve_left fun hbefore => ?_
      exact CellEdge.not_less_of_less hless (hbefore.less (hothers.valid other hother).1)

theorem removeSide (hcell : cell.Partition) : (cell.removeSide side).Partition where
  valid link hlink := hcell.valid link (List.mem_filter.mp hlink).1
  ordered := hcell.ordered.filter _

theorem removeAt (hcell : cell.Partition) : (cell.removeAt exactFractions side position).Partition where
  valid link hlink := hcell.valid link (List.mem_of_mem_eraseP hlink)
  ordered := hcell.ordered.sublist List.eraseP_sublist

theorem removeName (hcell : cell.Partition) {name : String → Bool} : (cell.removeName name).Partition where
  valid link hlink := hcell.valid link (List.mem_filter.mp hlink).1
  ordered := hcell.ordered.filter _

end Partition

inductive Operation where
  | add (src dst : CellEdge ℚ)
  | removeSide (side : Direction)
  | removeAt (side : Direction) (position : ℚ)
  | removeName (name : String → Bool)

def Operation.Valid : Operation → Prop
  | .add src dst => ValidInterval src.interval ∧ ValidInterval dst.interval
  | _ => True

def apply (cell : Cell ℚ) : Operation → Cell ℚ
  | .add src dst => (cell.add exactFractions src dst).2
  | .removeSide side => cell.removeSide side
  | .removeAt side position => cell.removeAt exactFractions side position
  | .removeName name => cell.removeName name

theorem Partition.apply {operation : Operation} (hcell : cell.Partition) (hvalid : operation.Valid) :
    (cell.apply operation).Partition := by
  cases operation with
  | add src dst => exact hcell.add hvalid.1 hvalid.2
  | removeSide side => exact hcell.removeSide
  | removeAt side position => exact hcell.removeAt
  | removeName name => exact hcell.removeName

theorem partition_foldl {operations : List Operation} (hcell : cell.Partition)
    (hvalid : ∀ operation ∈ operations, operation.Valid) :
    (operations.foldl apply cell).Partition := by
  induction operations generalizing cell with
  | nil => exact hcell
  | cons operation operations ih =>
    obtain ⟨hoperation, hvalid⟩ := List.forall_mem_cons.mp hvalid
    exact ih (hcell.apply hoperation) hvalid

end Cell

namespace Config

variable {Fraction : Type} (float : FractionArithmetic Fraction)

def hasNeighbor (config : Config Fraction) (srcName : String) (srcSide : Direction)
    (interval : Fraction × Fraction) : Bool :=
  match find config.map (config.canonicalName srcName) with
  | none => false
  | some cell => cell.overlaps float { side := srcSide, interval }

end Config

namespace Cell

/-- **The edges of a side.** Apart and in order, each is found by the positions on it and by the
intervals that share a position with it, and taken to the edge that it is linked to. -/
structure EdgesOfSide (cell : Cell ℚ) (side : Direction) : Prop where
  apart : (cell.neighbors.filter (·.1.side = side)).Pairwise fun x y =>
    x.1.interval.1 < y.1.interval.1 ∧ Disjoint x.1.span y.1.span
  getLink : ∀ position link, cell.getLink exactFractions side position = some link ↔
    link ∈ cell.neighbors ∧ link.1.side = side ∧ position ∈ link.1.span
  onlyLink : ∀ position, ∀ x ∈ cell.neighbors, ∀ y ∈ cell.neighbors, x.1.side = side →
    y.1.side = side → position ∈ x.1.span → position ∈ y.1.span → x = y
  hasNeighbor : ∀ (config : Config ℚ) (name : String) (interval : ℚ × ℚ), ValidInterval interval →
    Config.find config.map (config.canonicalName name) = some cell →
      (config.hasNeighbor exactFractions name side interval = true ↔
        ∃ link ∈ cell.neighbors, link.1.side = side ∧
          (link.1.span ∩ Set.Ico interval.1 interval.2).Nonempty)
  across : ∀ link ∈ cell.neighbors, link.1.side = side →
    Set.MapsTo (link.1.across link.2) link.1.span link.2.span ∧
      StrictMonoOn (link.1.across link.2) link.1.span

theorem Partition.edgesOfSide (hcell : cell.Partition) (side : Direction) : EdgesOfSide cell side := by
  constructor
  · refine (hcell.ordered.filter _).imp_of_mem fun {x y} hx hy hbefore => ?_
    obtain ⟨hmem, hside⟩ := List.mem_filter.mp hx
    have hside' := of_decide_eq_true (List.mem_filter.mp hy).2
    have hsame : x.1.side = y.1.side := (of_decide_eq_true hside).trans hside'.symm
    unfold CellEdge.Before at hbefore
    rw [hsame, or_iff_right (lt_irrefl _)] at hbefore
    refine ⟨(hcell.valid x hmem).1.2.1.trans_le hbefore.2, ?_⟩
    exact Set.disjoint_left.mpr fun t hx hy => absurd hx.2 (hbefore.2.trans hy.1).not_gt
  · exact fun position link => hcell.getLink_iff
  · intro position x hx y hy hside hside' hinside hinside'
    have hfound := hcell.getLink_iff.mpr ⟨hx, hside, hinside⟩
    exact Option.some.inj (hfound.symm.trans (hcell.getLink_iff.mpr ⟨hy, hside', hinside'⟩))
  · intro config name interval hinterval hfind
    unfold Config.hasNeighbor
    rw [hfind]
    refine (hcell.overlaps_iff hinterval).trans (exists_congr fun link => and_congr_right fun hlink => ?_)
    exact CellEdge.overlaps_iff_span (hcell.valid link hlink).1 hinterval
  · intro link hlink _
    obtain ⟨hsrc, hdst⟩ := hcell.valid link hlink
    exact ⟨CellEdge.mapsTo_across hsrc hdst, (CellEdge.strictMono_across hsrc hdst).strictMonoOn _⟩

theorem partition_empty : ({} : Cell ℚ).Partition :=
  ⟨fun _ hlink => absurd hlink List.not_mem_nil, .nil⟩

theorem edgesOfSide_foldl (operations : List Operation)
    (hvalid : ∀ operation ∈ operations, operation.Valid) (side : Direction) :
    EdgesOfSide (operations.foldl apply {}) side :=
  (partition_foldl partition_empty hvalid).edgesOfSide side

def leftHalf : CellEdge ℚ := { side := .right, interval := (0, 1 / 2) }

def rightHalf : CellEdge ℚ := { side := .right, interval := (1 / 2, 1) }

theorem edgesOfSide_halves :
    EdgesOfSide ([.add leftHalf leftHalf, .add rightHalf leftHalf, .removeAt .right (1 / 4),
      .add leftHalf rightHalf].foldl apply {}) .right := by
  have hleft : ValidInterval leftHalf.interval := by norm_num [ValidInterval, leftHalf]
  have hright : ValidInterval rightHalf.interval := by norm_num [ValidInterval, rightHalf]
  refine edgesOfSide_foldl _ ?_ .right
  simp only [List.forall_mem_cons, Operation.Valid]
  exact ⟨⟨hleft, hleft⟩, ⟨hright, hleft⟩, trivial, ⟨hleft, hright⟩,
    fun _ hnone => absurd hnone List.not_mem_nil⟩

end Cell

end DeskflowPlus
