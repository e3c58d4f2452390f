import Mathlib.Order.Lattice
import Mathlib.Order.Basic

/-!
# Rows in the order of a key

A new row goes to the first place where a greater one follows. The rows stay in strictly ascending
order if no row has its key.
-/

namespace SortedRows

variable {α κ : Type} [LinearOrder κ] (key : α → κ)

/-- How many rows stay before the item. -/
def place (item : α) : List α → Nat
  | [] => 0
  | row :: rows => if key item < key row then 0 else place item rows + 1

def insert (item : α) (rows : List α) : List α := rows.insertIdx (place key item rows) item

def Ascending (rows : List α) : Prop := rows.Pairwise fun left right => key left < key right

variable {key} {item other : α} {rows before after : List α}

theorem insertIdx_append_length (before after : List α) (item : α) :
    (before ++ after).insertIdx before.length item = before ++ item :: after := by
  induction before with
  | nil => rfl
  | cons first before ih =>
    rw [List.cons_append, List.length_cons, List.insertIdx_succ_cons, ih]
    rfl

theorem getElem?_append_length (before after : List α) (item : α) :
    (before ++ item :: after)[before.length]? = some item := by
  rw [List.getElem?_append_right (Nat.le_refl _), Nat.sub_self]
  rfl

theorem eraseIdx_append_length (before after : List α) (item : α) :
    (before ++ item :: after).eraseIdx before.length = before ++ after := by
  rw [List.eraseIdx_append_of_length_le (Nat.le_refl _), Nat.sub_self]
  rfl

theorem set_append_length (before after : List α) (item other : α) :
    (before ++ item :: after).set before.length other = before ++ other :: after := by
  rw [List.set_append_right _ _ (Nat.le_refl _), Nat.sub_self]
  rfl

theorem insert_cons (row item : α) (rows : List α) :
    insert key item (row :: rows) =
      if key item < key row then item :: row :: rows else row :: insert key item rows := by
  show (row :: rows).insertIdx (if key item < key row then 0 else place key item rows + 1) item = _
  split
  · rfl
  · rfl

theorem place_le (item : α) (rows : List α) : place key item rows ≤ rows.length := by
  induction rows with
  | nil => exact Nat.le_refl 0
  | cons row rows ih =>
    unfold place
    split
    · exact Nat.zero_le _
    · exact Nat.succ_le_succ ih

theorem mem_insert : other ∈ insert key item rows ↔ other = item ∨ other ∈ rows :=
  List.mem_insertIdx (place_le item rows)

theorem insert_perm (item : α) (rows : List α) : (insert key item rows).Perm (item :: rows) :=
  List.perm_insertIdx item rows (place_le item rows)

theorem Ascending.insert (hrows : Ascending key rows) (hnew : ∀ row ∈ rows, key row ≠ key item) :
    Ascending key (insert key item rows) := by
  induction rows with
  | nil => exact List.pairwise_singleton _ _
  | cons row rows ih =>
    obtain ⟨hrow, hrest⟩ := List.pairwise_cons.mp hrows
    rw [insert_cons]
    split
    · rename_i hbefore
      refine List.pairwise_cons.mpr ⟨?_, hrows⟩
      refine List.forall_mem_cons.mpr ⟨hbefore, fun later hlater => ?_⟩
      exact hbefore.trans (hrow later hlater)
    · rename_i hbehind
      have hfirst : key row < key item :=
        lt_of_le_of_ne (not_lt.mp hbehind) (hnew row List.mem_cons_self)
      refine List.pairwise_cons.mpr ⟨?_, ih hrest fun later hlater =>
        hnew later (List.mem_cons_of_mem _ hlater)⟩
      intro later hlater
      obtain rfl | hlater := mem_insert.mp hlater
      · exact hfirst
      · exact hrow later hlater

theorem Ascending.append_of_cons (h : Ascending key (before ++ item :: after)) :
    Ascending key (before ++ after) :=
  h.sublist (List.Sublist.append_left (List.sublist_cons_self _ _) _)

end SortedRows
