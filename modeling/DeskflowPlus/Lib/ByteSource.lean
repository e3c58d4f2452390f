import Mathlib.Data.List.Basic

/-!
# Bytes that come in pieces

A read gives at least one byte where some are wanted and left, but may give fewer than are wanted.
Reading on until there are enough gives the same bytes however short the single reads are.
-/

/-- The bytes that are left, and how many each of the next reads gives at most besides one. -/
structure ByteSource where
  bytes : List UInt8
  grants : Nat → Nat

namespace ByteSource

def read (source : ByteSource) (count : Nat) : List UInt8 × ByteSource :=
  let size := min count (source.grants 0 + 1)
  (source.bytes.take size,
    { bytes := source.bytes.drop size, grants := fun n => source.grants (n + 1) })

/-- Reads on, unless nothing is left. -/
def readRounds : Nat → Nat → ByteSource → Option (List UInt8) × ByteSource
  | _, 0, source => (some [], source)
  | 0, _ + 1, source => (none, source)
  | rounds + 1, count + 1, source =>
    let (data, source) := source.read (count + 1)
    if data = [] then (none, source)
    else
      let (more, source) := readRounds rounds (count + 1 - data.length) source
      (more.map (data ++ ·), source)

/-- As each read but the last gives something, there are no more of them than bytes wanted. -/
def readAll (count : Nat) (source : ByteSource) : Option (List UInt8) × ByteSource :=
  readRounds count count source

variable {rounds count : Nat} {bytes data rest : List UInt8} {grants : Nat → Nat}

theorem readRounds_append (hrounds : count ≤ rounds) (hcount : data.length = count) :
    ∃ left, readRounds rounds count { bytes := data ++ rest, grants } =
      (some data, { bytes := rest, grants := left }) := by
  induction rounds generalizing count data grants with
  | zero =>
    obtain rfl := Nat.le_zero.mp hrounds
    obtain rfl := List.eq_nil_of_length_eq_zero hcount
    exact ⟨grants, rfl⟩
  | succ rounds ih =>
    rcases count with _ | count
    · obtain rfl := List.eq_nil_of_length_eq_zero hcount
      exact ⟨grants, rfl⟩
    · generalize hsize : min (count + 1) (grants 0 + 1) = size
      have hfits : size ≤ data.length := by omega
      have htaken : (data.take size).length = size := List.length_take_of_le hfits
      have hsome : data.take size ≠ [] := by
        intro h
        rw [h, List.length_nil] at htaken
        omega
      have hlast : (data.drop size).length = count + 1 - size := by rw [List.length_drop, hcount]
      obtain ⟨left, hmore⟩ := @ih (count + 1 - size) (data.drop size)
        (fun n => grants (n + 1)) (by omega) hlast
      refine ⟨left, ?_⟩
      rw [readRounds, read]
      dsimp only
      rw [hsize, List.take_append_of_le_length hfits, List.drop_append_of_le_length hfits,
        if_neg hsome, htaken, hmore, Option.map_some, List.take_append_drop]

theorem readAll_append (hcount : data.length = count) :
    ∃ left, readAll count { bytes := data ++ rest, grants } =
      (some data, { bytes := rest, grants := left }) :=
  readRounds_append (Nat.le_refl _) hcount

end ByteSource
