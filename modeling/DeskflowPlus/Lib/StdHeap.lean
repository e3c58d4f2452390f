import Mathlib.Data.List.Sort
import Mathlib.Order.Defs.LinearOrder

/-!
# Heaps of a standard library

A heap stands in one list, each item before its two children. What the library's algorithms make of
a heap is a heap of the same items; where equal items end up is left open.
-/

namespace DeskflowPlus

variable {α β : Type} [LinearOrder β] {key : α → β}

/-- No parent's key is above that of its child. -/
def IsHeap (key : α → β) (items : List α) : Prop :=
  ∀ index parent child, items[index / 2]? = some parent → items[index + 1]? = some child →
    key parent ≤ key child

namespace IsHeap

variable {first : α} {items rest : List α}

theorem nil : IsHeap key [] := fun _ _ _ hparent => nomatch hparent

theorem front_le (h : IsHeap key (first :: rest)) {item : α} (hitem : item ∈ first :: rest) :
    key first ≤ key item := by
  obtain ⟨index, hindex⟩ := List.mem_iff_getElem?.mp hitem
  clear hitem
  induction index using Nat.strong_induction_on generalizing item with
  | _ index ih =>
    cases index with
    | zero =>
      cases hindex
      exact le_refl _
    | succ index =>
      have hchild := (List.getElem?_eq_some_iff.mp hindex).1
      have hparent : index / 2 < (first :: rest).length := by omega
      have hget := List.getElem?_eq_getElem hparent
      exact le_trans (ih (index / 2) (by omega) hget) (h index _ _ hget hindex)

/-- Items whose keys keep their order keep their places. -/
theorem map {f : α → α} (hf : ∀ first second, key first ≤ key second → key (f first) ≤ key (f second))
    (h : IsHeap key items) : IsHeap key (items.map f) := by
  intro index parent child hparent hchild
  rw [List.getElem?_map] at hparent hchild
  obtain ⟨before, hbefore, rfl⟩ := Option.map_eq_some_iff.mp hparent
  obtain ⟨after, hafter, rfl⟩ := Option.map_eq_some_iff.mp hchild
  exact hf before after (h index before after hbefore hafter)

theorem of_pairwise (h : items.Pairwise (key · ≤ key ·)) : IsHeap key items := by
  intro index parent child hparent hchild
  obtain ⟨hbefore, rfl⟩ := List.getElem?_eq_some_iff.mp hparent
  obtain ⟨hafter, rfl⟩ := List.getElem?_eq_some_iff.mp hchild
  exact List.pairwise_iff_getElem.mp h _ _ hbefore hafter (by omega)

end IsHeap

/-- The heap algorithms on a vector: each with the change of its length that goes with it. -/
structure StdHeap (key : α → β) where
  pushHeap : α → List α → List α
  popHeap : List α → List α
  makeHeap : List α → List α
  pushHeap_perm : ∀ item items, (pushHeap item items).Perm (item :: items)
  isHeap_pushHeap : ∀ item items, IsHeap key items → IsHeap key (pushHeap item items)
  popHeap_perm : ∀ first rest, IsHeap key (first :: rest) → (popHeap (first :: rest)).Perm rest
  isHeap_popHeap : ∀ first rest, IsHeap key (first :: rest) → IsHeap key (popHeap (first :: rest))
  makeHeap_perm : ∀ items, (makeHeap items).Perm items
  isHeap_makeHeap : ∀ items, IsHeap key (makeHeap items)

/-- Sorted lists are heaps. -/
def sortingHeap (key : α → β) : StdHeap key :=
  have htotal : Std.Total fun first second : α => key first ≤ key second :=
    ⟨fun first second => le_total (key first) (key second)⟩
  have htrans : IsTrans α fun first second => key first ≤ key second :=
    ⟨fun _ _ _ => le_trans⟩
  have hsorted (items : List α) : IsHeap key (items.insertionSort (key · ≤ key ·)) :=
    .of_pairwise (List.pairwise_insertionSort _ items)
  { pushHeap := fun item items => (item :: items).insertionSort (key · ≤ key ·)
    popHeap := fun items => items.tail.insertionSort (key · ≤ key ·)
    makeHeap := fun items => items.insertionSort (key · ≤ key ·)
    pushHeap_perm := fun item items => List.perm_insertionSort _ (item :: items)
    isHeap_pushHeap := fun item items _ => hsorted (item :: items)
    popHeap_perm := fun _ rest _ => List.perm_insertionSort _ rest
    isHeap_popHeap := fun _ rest _ => hsorted rest
    makeHeap_perm := List.perm_insertionSort _
    isHeap_makeHeap := hsorted }

end DeskflowPlus
