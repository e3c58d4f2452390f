import Mathlib.Algebra.Group.Nat.Defs
import Mathlib.Logic.Basic

/-!
# Bits of a mask

A mask of 32 bits is the set of its bits, and the operations on masks are those on sets.
-/

namespace DeskflowPlus

def hasBit (mask : UInt32) (bit : Nat) : Bool := mask.toBitVec.getLsbD bit

variable {mask other : UInt32} {bit : Nat}

theorem hasBit_lt (h : hasBit mask bit = true) : bit < 32 := BitVec.lt_of_getLsbD h

theorem hasBit_ext (h : ∀ bit, bit < 32 → hasBit mask bit = hasBit other bit) : mask = other :=
  UInt32.toBitVec_inj.mp (BitVec.eq_of_getLsbD_eq h)

@[simp] theorem hasBit_zero : hasBit 0 bit = false := by simp [hasBit]

@[simp] theorem hasBit_or : hasBit (mask ||| other) bit = (hasBit mask bit || hasBit other bit) := by
  simp [hasBit]

@[simp] theorem hasBit_and : hasBit (mask &&& other) bit = (hasBit mask bit && hasBit other bit) := by
  simp [hasBit]

@[simp] theorem hasBit_xor : hasBit (mask ^^^ other) bit = (hasBit mask bit ^^ hasBit other bit) := by
  simp [hasBit]

theorem hasBit_not (hbit : bit < 32) : hasBit (~~~mask) bit = !hasBit mask bit := by
  simp [hasBit, hbit]

theorem hasBit_and_not : hasBit (mask &&& ~~~other) bit = (hasBit mask bit && !hasBit other bit) := by
  rcases hmask : hasBit mask bit with _ | _
  · simp [hmask]
  · rw [hasBit_and, hasBit_not (hasBit_lt hmask), hmask]

theorem hasBit_one_shiftLeft {index : Nat} (hindex : index < 32) :
    hasBit (1 <<< UInt32.ofNat index) bit = decide (bit = index) := by
  have hshift : (UInt32.ofNat index).toBitVec % 32 = BitVec.ofNat 32 index := by
    apply BitVec.eq_of_toNat_eq
    simp
    omega
  unfold hasBit
  rw [UInt32.toBitVec_shiftLeft, hshift, Bool.eq_iff_iff]
  simp
  omega

theorem eq_zero_iff_hasBit : mask = 0 ↔ ∀ bit, hasBit mask bit = false := by
  constructor
  · rintro rfl bit
    exact hasBit_zero
  · intro h
    exact hasBit_ext fun bit _ => (h bit).trans hasBit_zero.symm

theorem and_one_shiftLeft_eq_zero_iff (hbit : bit < 32) :
    mask &&& (1 <<< UInt32.ofNat bit) = 0 ↔ hasBit mask bit = false := by
  rw [eq_zero_iff_hasBit]
  constructor
  · intro h
    have hthis := h bit
    rw [hasBit_and, hasBit_one_shiftLeft hbit, decide_eq_true rfl, Bool.and_true] at hthis
    exact hthis
  · intro h index
    rw [hasBit_and, hasBit_one_shiftLeft hbit]
    by_cases hsame : index = bit
    · rw [hsame, h, Bool.false_and]
    · rw [decide_eq_false hsame, Bool.and_false]

theorem two_pow_le_toNat (h : hasBit mask bit = true) : 2 ^ bit ≤ mask.toNat :=
  Nat.ge_two_pow_of_testBit h

theorem toNat_one_shiftLeft (hbit : bit < 32) : (1 <<< UInt32.ofNat bit : UInt32).toNat = 2 ^ bit := by
  have hbound : 2 ^ bit < 2 ^ 32 := Nat.pow_lt_pow_right (by decide) hbit
  have hshift : (UInt32.ofNat bit).toNat % 32 = bit := by
    rw [UInt32.toNat_ofNat']
    omega
  rw [UInt32.toNat_shiftLeft, hshift, UInt32.toNat_one, Nat.shiftLeft_eq, Nat.one_mul,
    Nat.mod_eq_of_lt hbound]

theorem and_eq_and_iff {within : UInt32} :
    mask &&& within = other &&& within ↔
      ∀ bit, hasBit within bit = true → hasBit mask bit = hasBit other bit := by
  constructor
  · intro h bit hbit
    have hthis : hasBit (mask &&& within) bit = hasBit (other &&& within) bit := by rw [h]
    rw [hasBit_and, hasBit_and, hbit, Bool.and_true, Bool.and_true] at hthis
    exact hthis
  · intro h
    refine hasBit_ext fun bit _ => ?_
    rw [hasBit_and, hasBit_and]
    rcases hbit : hasBit within bit with _ | _
    · rw [Bool.and_false, Bool.and_false]
    · rw [h bit hbit]

end DeskflowPlus
