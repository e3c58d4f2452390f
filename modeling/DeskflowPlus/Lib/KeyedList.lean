import Mathlib.Algebra.Group.Nat.Defs
import Mathlib.Data.List.Pairwise
import Mathlib.Data.Finset.Dedup
import Mathlib.Data.Set.Finite.Basic

/-!
# Maps whose keys are compared by class

A map that compares its keys by something coarser than equality finds an entry by any key of its
class, keeps the key it was first given, and holds one entry of a class. The entries are a list, whose
order nothing here depends on.
-/

namespace DeskflowPlus

namespace KeyedList

variable {Key Value Class : Type} [DecidableEq Class] (classOf : Key → Class)

def find (map : List (Key × Value)) (key : Key) : Option Value :=
  (map.find? fun entry => classOf entry.1 = classOf key).map (·.2)

/-- An entry that is there stays as it is. -/
def insert (map : List (Key × Value)) (key : Key) (value : Value) : List (Key × Value) :=
  if (find classOf map key).isSome then map else (key, value) :: map

def erase (map : List (Key × Value)) (key : Key) : List (Key × Value) :=
  map.filter fun entry => classOf entry.1 ≠ classOf key

def Distinct (map : List (Key × Value)) : Prop :=
  (map.map Prod.fst).Pairwise fun x y => classOf x ≠ classOf y

variable {classOf} {map : List (Key × Value)} {key other : Key} {value : Value}

theorem find_congr (h : classOf key = classOf other) :
    find classOf map key = find classOf map other := by
  unfold find
  rw [h]

theorem find_cons : find classOf ((key, value) :: map) other =
    if classOf key = classOf other then some value else find classOf map other := by
  by_cases h : classOf key = classOf other <;> simp [find, h]

theorem find_erase : find classOf (erase classOf map key) other =
    if classOf key = classOf other then none else find classOf map other := by
  unfold find erase
  rw [List.find?_filter]
  by_cases h : classOf key = classOf other
  · simp [h]
  · rw [if_neg h]
    congr 2
    funext entry
    by_cases hentry : classOf entry.1 = classOf other
    · simp [hentry, Ne.symm h]
    · simp [hentry]

theorem isSome_find :
    (find classOf map key).isSome = true ↔ ∃ entry ∈ map, classOf entry.1 = classOf key := by
  simp [find]

theorem find_eq_none :
    find classOf map key = none ↔ ∀ entry ∈ map, classOf entry.1 ≠ classOf key := by
  simp [find]

theorem mem_of_find (h : find classOf map key = some value) :
    ∃ found, (found, value) ∈ map ∧ classOf found = classOf key := by
  obtain ⟨entry, hentry, rfl⟩ := Option.map_eq_some_iff.mp h
  have hclass := List.find?_some hentry
  exact ⟨entry.1, List.mem_of_find?_eq_some hentry, of_decide_eq_true hclass⟩

omit [DecidableEq Class] in
theorem Distinct.eq_of_mem (hmap : Distinct classOf map) {x y : Key × Value} (hx : x ∈ map)
    (hy : y ∈ map) (h : classOf x.1 = classOf y.1) : x = y := by
  by_contra hne
  have hpairs : map.Pairwise fun x y => classOf x.1 ≠ classOf y.1 := by
    rwa [Distinct, List.pairwise_map] at hmap
  have : Std.Symm fun x y : Key × Value => classOf x.1 ≠ classOf y.1 := ⟨fun _ _ => Ne.symm⟩
  exact hpairs.forall hx hy hne h

theorem Distinct.find_of_mem (hmap : Distinct classOf map) (h : (key, value) ∈ map)
    (hclass : classOf key = classOf other) : find classOf map other = some value := by
  have hsome : (find classOf map other).isSome = true := isSome_find.mpr ⟨_, h, hclass⟩
  obtain ⟨found, hfound⟩ := Option.isSome_iff_exists.mp hsome
  obtain ⟨name, hmem, hname⟩ := mem_of_find hfound
  have hsame := hmap.eq_of_mem hmem h (hname.trans hclass.symm)
  rw [hfound, (Prod.mk.inj hsame).2]

variable {entry : Key × Value}

theorem mem_erase :
    entry ∈ erase classOf map key ↔ entry ∈ map ∧ classOf entry.1 ≠ classOf key := by
  simp [erase]

theorem insert_of_find_eq_none (h : find classOf map key = none) :
    insert classOf map key value = (key, value) :: map := by
  simp [insert, h]

theorem mem_insert (h : entry ∈ insert classOf map key value) :
    entry = (key, value) ∨ entry ∈ map := by
  unfold insert at h
  split at h
  · exact .inr h
  · exact List.mem_cons.mp h

omit [DecidableEq Class] in
theorem Distinct.filter (hmap : Distinct classOf map) (keep : Key × Value → Bool) :
    Distinct classOf (map.filter keep) := by
  apply List.Pairwise.sublist _ hmap
  exact List.filter_sublist.map Prod.fst

theorem Distinct.erase (hmap : Distinct classOf map) :
    Distinct classOf (erase classOf map key) :=
  hmap.filter _

theorem Distinct.cons (hmap : Distinct classOf map) (h : find classOf map key = none) :
    Distinct classOf ((key, value) :: map) := by
  refine List.pairwise_cons.mpr ⟨fun name hname => ?_, hmap⟩
  obtain ⟨entry, hentry, rfl⟩ := List.mem_map.mp hname
  exact (find_eq_none.mp h entry hentry).symm

theorem Distinct.insert (hmap : Distinct classOf map) :
    Distinct classOf (insert classOf map key value) := by
  unfold KeyedList.insert
  split
  · exact hmap
  · rename_i hnone
    exact hmap.cons (Option.not_isSome_iff_eq_none.mp hnone)

theorem mem_insert_of_mem (h : entry ∈ map) :
    entry ∈ insert classOf map key value := by
  unfold KeyedList.insert
  split
  · exact h
  · exact List.mem_cons_of_mem _ h

theorem exists_find_eq_none (hinfinite : (Set.range classOf).Infinite)
    (map : List (Key × Value)) : ∃ key, find classOf map key = none := by
  obtain ⟨_, ⟨key, rfl⟩, hmissing⟩ :=
    hinfinite.exists_notMem_finset (map.map (classOf ·.1)).toFinset
  refine ⟨key, find_eq_none.mpr fun entry hentry h => hmissing ?_⟩
  exact List.mem_toFinset.mpr (List.mem_map.mpr ⟨entry, hentry, h⟩)

end KeyedList

end DeskflowPlus
