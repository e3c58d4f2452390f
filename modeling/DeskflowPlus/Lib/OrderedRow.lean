import Mathlib.Data.List.Basic

/-!
# Rows in order

A property that holds up to some item of a list, and of none behind it, splits the list. So does the
place of a new item in a list that is in order.
-/

namespace OrderedRow

variable {α : Type} {Before : α → α → Prop} {row : List α} {p : α → Bool}

theorem takeWhile_eq_filter (hrow : row.Pairwise fun x y => p y = true → p x = true) :
    row.takeWhile p = row.filter p := by
  induction row with
  | nil => rfl
  | cons item row ih =>
    obtain ⟨hitem, hrow⟩ := List.pairwise_cons.mp hrow
    by_cases hp : p item = true
    · rw [List.takeWhile_cons_of_pos hp, List.filter_cons_of_pos hp, ih hrow]
    · rw [List.takeWhile_cons_of_neg hp, List.filter_cons_of_neg hp]
      exact (List.filter_eq_nil_iff.mpr fun other hother h => hp (hitem other hother h)).symm

theorem dropWhile_eq_filter (hrow : row.Pairwise fun x y => p y = true → p x = true) :
    row.dropWhile p = row.filter (!p ·) := by
  induction row with
  | nil => rfl
  | cons item row ih =>
    obtain ⟨hitem, hrow⟩ := List.pairwise_cons.mp hrow
    by_cases hp : p item = true
    · rw [List.dropWhile_cons_of_pos hp, ih hrow, List.filter_cons_of_neg (by simp [hp])]
    · have hall : ∀ other ∈ item :: row, (!p other) = true := by
        refine List.forall_mem_cons.mpr ⟨by simpa using hp, fun other hother => ?_⟩
        simpa using fun h => hp (hitem other hother h)
      rw [List.dropWhile_cons_of_neg hp, List.filter_eq_self.mpr hall]

theorem eq_or_before_getLast? (hrow : row.Pairwise Before) {last item : α}
    (hlast : row.getLast? = some last) (hitem : item ∈ row) : item = last ∨ Before item last := by
  obtain ⟨before, rfl⟩ := List.getLast?_eq_some_iff.mp hlast
  rcases List.mem_append.mp hitem with hbefore | hsame
  · exact .inr ((List.pairwise_append.mp hrow).2.2 item hbefore last List.mem_cons_self)
  · exact .inl (List.mem_singleton.mp hsame)

theorem eq_or_head?_before (hrow : row.Pairwise Before) {first item : α}
    (hfirst : row.head? = some first) (hitem : item ∈ row) : item = first ∨ Before first item := by
  obtain ⟨behind, rfl⟩ := List.head?_eq_some_iff.mp hfirst
  rcases List.mem_cons.mp hitem with hsame | hbehind
  · exact .inl hsame
  · exact .inr ((List.pairwise_cons.mp hrow).1 item hbehind)

theorem pairwise_insert (hrow : row.Pairwise Before) {item : α}
    (hbefore : ∀ other ∈ row, p other = true → Before other item)
    (hbehind : ∀ other ∈ row, p other = false → Before item other)
    (htrans : ∀ x y, Before x item → Before item y → Before x y) :
    (row.filter p ++ item :: row.filter (!p ·)).Pairwise Before := by
  have hfront (x : α) (hx : x ∈ row.filter p) : Before x item :=
    hbefore x (List.mem_filter.mp hx).1 (List.mem_filter.mp hx).2
  have hback (y : α) (hy : y ∈ row.filter (!p ·)) : Before item y := by
    obtain ⟨hmem, hp⟩ := List.mem_filter.mp hy
    exact hbehind y hmem (by simpa using hp)
  refine List.pairwise_append.mpr ⟨hrow.filter _, ?_, fun x hx y hy => ?_⟩
  · exact List.pairwise_cons.mpr ⟨hback, hrow.filter _⟩
  · rcases List.mem_cons.mp hy with rfl | hy
    · exact hfront x hx
    · exact htrans x y (hfront x hx) (hback y hy)

theorem eq_or_before (hrow : row.Pairwise Before) {x y : α} (hx : x ∈ row) (hy : y ∈ row) :
    x = y ∨ Before x y ∨ Before y x := by
  obtain ⟨front, back, rfl⟩ := List.append_of_mem hy
  obtain ⟨-, hback, hcross⟩ := List.pairwise_append.mp hrow
  rcases List.mem_append.mp hx with hfront | hx
  · exact .inr (.inl (hcross x hfront y List.mem_cons_self))
  rcases List.mem_cons.mp hx with hsame | hbehind
  · exact .inl hsame
  · exact .inr (.inr ((List.pairwise_cons.mp hback).1 x hbehind))

end OrderedRow
