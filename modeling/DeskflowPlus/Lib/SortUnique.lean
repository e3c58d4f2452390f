import Mathlib.Data.List.Dedup
import Mathlib.Data.List.Destutter

/-!
# Sorting and dropping adjacent repeats

A standard sort gives some permutation in which no item comes before a smaller one. A standard
unique keeps the first item of each run of items with one key. Together they leave one item for each
key only if the items of each key are next to each other.
-/

/-- `std::sort`, which leaves the order of equivalent items open. -/
structure StdSort {α : Type} (less : α → α → Bool) where
  sort : List α → List α
  perm : ∀ items, (sort items).Perm items
  sorted : ∀ items, (sort items).Pairwise fun left right => less right left = false

namespace StdUnique

variable {α κ : Type} [DecidableEq κ] (key : α → κ)

/-- `std::unique` by a key. -/
def unique (items : List α) : List α :=
  items.destutter fun left right => key left ≠ key right

variable {key} {items : List α} {item : α}

theorem unique_sublist (key : α → κ) (items : List α) : (unique key items).Sublist items :=
  List.destutter_sublist _ items

theorem destutter'_concat (first item : α) (items : List α) :
    (items ++ [item]).destutter' (fun left right => key left ≠ key right) first =
      if key (items.getLast?.getD first) = key item then
        items.destutter' (fun left right => key left ≠ key right) first
      else items.destutter' (fun left right => key left ≠ key right) first ++ [item] := by
  induction items generalizing first with
  | nil =>
    rw [List.nil_append, List.destutter'_singleton]
    by_cases hkey : key first = key item
    · simp [hkey]
    · simp [hkey]
  | cons next items ih =>
    have hlast (other : α) : (next :: items).getLast?.getD other = items.getLast?.getD next := by
      cases items with
      | nil => rfl
      | cons second items => simp [List.getLast?_cons]
    rw [hlast, List.cons_append, List.destutter'_cons, List.destutter'_cons]
    by_cases hkey : key first = key next
    · rw [if_neg (not_not.mpr hkey), if_neg (not_not.mpr hkey), ih first]
      have hsame : key (items.getLast?.getD first) = key (items.getLast?.getD next) := by
        cases items.getLast? with
        | none => exact hkey
        | some last => rfl
      rw [hsame]
    · rw [if_pos hkey, if_pos hkey, ih next]
      split
      · rfl
      · rfl

theorem unique_concat (items : List α) (item : α) :
    unique key (items ++ [item]) =
      if items.getLast?.map key = some (key item) then unique key items
      else unique key items ++ [item] := by
  cases items with
  | nil => rfl
  | cons first items =>
    have hlast : (first :: items).getLast?.map key = some (key (items.getLast?.getD first)) := by
      rw [List.getLast?_cons]
      rfl
    simp only [hlast, Option.some.injEq]
    exact destutter'_concat first item items

theorem mem_map_unique {value : κ} :
    value ∈ (unique key items).map key ↔ value ∈ items.map key := by
  induction items using List.reverseRecOn with
  | nil => rfl
  | append_singleton items item ih =>
    rw [unique_concat]
    split
    · rename_i hlast
      rw [ih, List.map_append, List.mem_append]
      refine ⟨.inl, fun h => h.elim id fun hitem => ?_⟩
      obtain ⟨last, hmem, hkey⟩ := Option.map_eq_some_iff.mp hlast
      rw [List.mem_singleton.mp hitem, ← hkey]
      exact List.mem_map_of_mem (List.mem_of_getLast? hmem)
    · rw [List.map_append, List.mem_append, ih, List.map_append, List.mem_append]

/-- The rows of the first items come first. -/
theorem unique_prefix_append (key : α → κ) (before after : List α) :
    unique key before <+: unique key (before ++ after) := by
  induction after using List.reverseRecOn with
  | nil => exact (List.append_nil before).symm ▸ List.prefix_refl _
  | append_singleton after item ih =>
    rw [← List.append_assoc, unique_concat]
    split
    · exact ih
    · exact ih.trans (List.prefix_append _ _)

theorem exists_split_of_unique_eq {front back : List α}
    (h : unique key items = front ++ item :: back) :
    ∃ before after, items = before ++ item :: after ∧ unique key before = front ∧
      before.getLast?.map key ≠ some (key item) := by
  induction items using List.reverseRecOn generalizing back with
  | nil => exact absurd h (by simp [unique])
  | append_singleton items last ih =>
    rw [unique_concat] at h
    split at h
    · obtain ⟨before, after, rfl, hfront⟩ := ih h
      exact ⟨before, after ++ [last], by simp, hfront⟩
    · rename_i hlast
      obtain rfl | ⟨back, other, rfl⟩ := List.eq_nil_or_concat' back
      · obtain ⟨hfront, hitem⟩ := List.append_inj' h rfl
        rw [List.singleton_inj] at hitem
        exact ⟨items, [], by rw [hitem], hfront, hitem ▸ hlast⟩
      · rw [← List.cons_append, ← List.append_assoc] at h
        obtain ⟨hrows, -⟩ := List.append_inj' h rfl
        obtain ⟨before, after, rfl, hfront⟩ := ih hrows
        exact ⟨before, after ++ [last], by simp, hfront⟩

/-- The rows of a page are those of the first items; the others only matter if it is full. -/
theorem exists_split_of_take (key : α → κ) (items : List α) (count : Nat) :
    ∃ before after, items = before ++ after ∧
      unique key before = (unique key items).take count ∧
      (after ≠ [] → ((unique key items).take count).length = count) := by
  by_cases hcount : (unique key items).length ≤ count
  · rw [List.take_of_length_le hcount]
    exact ⟨items, [], (List.append_nil _).symm, rfl, fun h => absurd rfl h⟩
  · obtain ⟨item, back, hback⟩ := List.exists_cons_of_ne_nil
      (mt List.drop_eq_nil_iff.mp hcount : (unique key items).drop count ≠ [])
    have hrows : unique key items = (unique key items).take count ++ item :: back := by
      rw [← hback, List.take_append_drop]
    obtain ⟨before, after, hitems, hbefore, -⟩ := exists_split_of_unique_eq hrows
    refine ⟨before, item :: after, hitems, hbefore, fun _ => ?_⟩
    rw [List.length_take, Nat.min_eq_left (Nat.le_of_not_le hcount)]

theorem key_eq_of_nodup {first middle last : α} (h : ((unique key items).map key).Nodup)
    (hitems : [first, middle, last].Sublist items) (hkey : key first = key last) :
    key middle = key last := by
  induction items using List.reverseRecOn generalizing last with
  | nil => exact absurd (List.sublist_nil.mp hitems) (List.cons_ne_nil _ _)
  | append_singleton items item ih =>
    have hbefore : ((unique key items).map key).Nodup :=
      h.sublist ((unique_prefix_append key items [item]).sublist.map key)
    obtain hbefore' | ⟨rfl, hpair⟩ : [first, middle, last].Sublist items ∨
        last = item ∧ [first, middle].Sublist items := by
      have hreverse := List.reverse_sublist.mpr hitems
      rw [List.reverse_append, List.reverse_singleton, List.singleton_append] at hreverse
      rcases List.sublist_cons_iff.mp hreverse with hrest | ⟨rest, heq, hrest⟩
      · exact .inl (List.reverse_sublist.mp hrest)
      · rw [show [first, middle, last].reverse = last :: [first, middle].reverse from rfl,
          List.cons_eq_cons] at heq
        obtain ⟨rfl, rfl⟩ := heq
        exact .inr ⟨rfl, List.reverse_sublist.mp hrest⟩
    · exact ih hbefore hbefore' hkey
    · rw [unique_concat] at h
      split at h
      · rename_i hlast
        obtain ⟨other, hmem, hother⟩ := Option.map_eq_some_iff.mp hlast
        obtain ⟨rest, rfl⟩ := List.getLast?_eq_some_iff.mp hmem
        -- the pair ends in the last of the items before, or the run goes on to it
        have hreverse := List.reverse_sublist.mpr hpair
        rw [List.reverse_append, List.reverse_singleton, List.singleton_append] at hreverse
        rcases List.sublist_cons_iff.mp hreverse with hrest | ⟨pair, heq, -⟩
        · have htriple : [first, middle, other].Sublist (rest ++ [other]) :=
            (List.reverse_sublist.mp hrest).append (List.Sublist.refl [other])
          exact (ih hbefore htriple (hkey.trans hother.symm)).trans hother
        · rw [show [first, middle].reverse = middle :: [first] from rfl, List.cons_eq_cons] at heq
          rw [heq.1, hother]
      · rw [List.map_append, List.nodup_append] at h
        have hfirst : key first ∈ (unique key items).map key :=
          mem_map_unique.mpr (List.mem_map_of_mem (hpair.subset List.mem_cons_self))
        exact absurd hkey (h.2.2 _ hfirst _ (List.mem_singleton_self _))

end StdUnique
