import Mathlib.Logic.Basic

/-!
# Vectors whose elements are copied when they move

A vector keeps its elements in one block. As long as the block has room a new element is only put
behind the others; otherwise all of them are copied into a larger block. Erasing an element assigns
each later one to the place before it, which again is a copy. Where a copy is not the same as its
original, what the vector holds hangs on how full it was and on what stood where.
-/

namespace DeskflowPlus

structure CopiedVector (α : Type) where
  items : List α
  capacity : Nat
  bounded : items.length ≤ capacity

namespace CopiedVector

variable {α σ : Type}

def empty : CopiedVector α := ⟨[], 0, Nat.le_refl 0⟩

section Copies

variable (copy : α → α)

/-- Of a full block the larger one has the capacity `growth` gives, and room for one more. -/
def pushBack (growth : Nat → Nat) (item : α) (vector : CopiedVector α) : CopiedVector α :=
  if h : vector.items.length < vector.capacity then
    { items := vector.items ++ [copy item]
      capacity := vector.capacity
      bounded := by rw [List.length_append]; exact h }
  else
    { items := vector.items.map copy ++ [copy item]
      capacity := max (vector.items.length + 1) (growth vector.items.length)
      bounded := by rw [List.length_append, List.length_map]; exact Nat.le_max_left _ _ }

def erase (index : Nat) (vector : CopiedVector α) : CopiedVector α where
  items := vector.items.take index ++ (vector.items.drop (index + 1)).map copy
  capacity := vector.capacity
  bounded := by
    have := vector.bounded
    rw [List.length_append, List.length_take, List.length_map, List.length_drop]
    omega

def assign (source : List α) (vector : CopiedVector α) : CopiedVector α where
  items := source.map copy
  capacity := max vector.capacity source.length
  bounded := by
    rw [List.length_map]
    exact Nat.le_max_right _ _

variable {copy} {growth : Nat → Nat} {item : α} {vector : CopiedVector α}

theorem items_pushBack_of_lt (h : vector.items.length < vector.capacity) :
    (vector.pushBack copy growth item).items = vector.items ++ [copy item] := by
  unfold pushBack
  rw [dif_pos h]

theorem items_pushBack_of_not_lt (h : ¬vector.items.length < vector.capacity) :
    (vector.pushBack copy growth item).items = vector.items.map copy ++ [copy item] := by
  unfold pushBack
  rw [dif_neg h]

theorem map_copy {items : List α} (h : ∀ item ∈ items, copy item = item) :
    items.map copy = items :=
  (List.map_congr_left h).trans (List.map_id _)

/-- Where copies are no different, or none is made, only the new element is copied. -/
theorem items_pushBack
    (h : vector.items.length < vector.capacity ∨ ∀ item ∈ vector.items, copy item = item) :
    (vector.pushBack copy growth item).items = vector.items ++ [copy item] := by
  by_cases hroom : vector.items.length < vector.capacity
  · exact items_pushBack_of_lt hroom
  · rw [items_pushBack_of_not_lt hroom, map_copy (h.resolve_left hroom)]

end Copies

/-- A function is applied to each element in turn, and hands something on to the next. -/
def walk (f : σ → α → α × σ) : List α → σ → List α × σ
  | [], state => ([], state)
  | item :: rest, state =>
    let visited := f state item
    let walked := walk f rest visited.2
    (visited.1 :: walked.1, walked.2)

theorem length_walk (f : σ → α → α × σ) (items : List α) (state : σ) :
    (walk f items state).1.length = items.length := by
  induction items generalizing state with
  | nil => rfl
  | cons item rest ih => exact congrArg (· + 1) (ih _)

def forEach (f : σ → α → α × σ) (state : σ) (vector : CopiedVector α) : CopiedVector α × σ :=
  ({ items := (walk f vector.items state).1
     capacity := vector.capacity
     bounded := by rw [length_walk]; exact vector.bounded },
    (walk f vector.items state).2)

/-- The function applied to the element at an index, if there is one. -/
def visit (f : σ → α → α × σ) (index : Nat) (state : σ) (vector : CopiedVector α) :
    CopiedVector α × σ :=
  match vector.items[index]? with
  | none => (vector, state)
  | some item =>
    ({ items := vector.items.set index (f state item).1
       capacity := vector.capacity
       bounded := by rw [List.length_set]; exact vector.bounded }, (f state item).2)

theorem visit_of_getElem? {f : σ → α → α × σ} {index : Nat} {state : σ} {vector : CopiedVector α}
    {item : α} (h : vector.items[index]? = some item) :
    (vector.visit f index state).1.items = vector.items.set index (f state item).1 ∧
      (vector.visit f index state).1.capacity = vector.capacity ∧
      (vector.visit f index state).2 = (f state item).2 := by
  unfold visit
  split
  · rename_i hnone
    rw [h] at hnone
    cases hnone
  · rename_i other hother
    obtain rfl : other = item := Option.some.inj (hother.symm.trans h)
    exact ⟨rfl, rfl, rfl⟩

theorem visit_last {f : σ → α → α × σ} {state : σ} {vector : CopiedVector α} {before : List α}
    {item : α} (h : vector.items = before ++ [item]) :
    (vector.visit f (vector.items.length - 1) state).1.items = before ++ [(f state item).1] ∧
      (vector.visit f (vector.items.length - 1) state).2 = (f state item).2 := by
  have hlast : vector.items.length - 1 = before.length := by
    rw [h, List.length_append]
    rfl
  have hitem : vector.items[vector.items.length - 1]? = some item := by
    rw [hlast, h]
    exact List.getElem?_concat_length
  obtain ⟨hitems, -, hstate⟩ := @visit_of_getElem? _ _ f _ state _ _ hitem
  refine ⟨?_, hstate⟩
  rw [hitems, hlast, h, List.set_append_right _ _ (Nat.le_refl _), Nat.sub_self]
  rfl

theorem items_erase_visit {f : σ → α → α × σ} {copy : α → α} {index : Nat} {state : σ}
    {vector : CopiedVector α} {item : α} (h : vector.items[index]? = some item) :
    ((vector.visit f index state).1.erase copy index).items =
      vector.items.take index ++ (vector.items.drop (index + 1)).map copy := by
  obtain ⟨hitems, -, -⟩ := @visit_of_getElem? _ _ f _ state _ _ h
  unfold erase
  dsimp only
  rw [hitems, List.take_set_of_le (Nat.le_refl _), List.drop_set_of_lt (Nat.lt_succ_self _)]

end CopiedVector

end DeskflowPlus
