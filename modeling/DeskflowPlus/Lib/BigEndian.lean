import Mathlib.Data.List.Induction
import Mathlib.Tactic.Ring

/-!
# Fixed-width big-endian naturals

A natural is written as its `n` low base-256 digits, most significant first, and read back by
folding the digits. The two are inverse below the wrap in both directions, which is what a fixed
header rests on: the bytes determine the field, and the field determines the bytes.
-/

namespace BigEndian

instance lawfulBEqBytes : LawfulBEq (List UInt8) := inferInstance

/-- The `n` low bytes of `x`, most significant first. -/
def encode : Nat → Nat → List UInt8
  | 0, _ => []
  | n + 1, x => encode n (x / 256) ++ [UInt8.ofNat x]

/-- The natural the bytes spell, most significant first. -/
def decode (bytes : List UInt8) : Nat :=
  bytes.foldl (fun acc byte => acc * 256 + byte.toNat) 0

@[simp]
theorem encode_length (n x : Nat) : (encode n x).length = n := by
  induction n generalizing x with
  | zero => rfl
  | succ n ih => simp [encode, ih]

@[simp]
theorem decode_nil : decode [] = 0 := rfl

@[simp]
theorem decode_concat (bytes : List UInt8) (byte : UInt8) :
    decode (bytes ++ [byte]) = decode bytes * 256 + byte.toNat := by
  simp [decode]

theorem decode_encode_mod (n x : Nat) : decode (encode n x) = x % 256 ^ n := by
  induction n generalizing x with
  | zero => simp [encode, Nat.mod_one]
  | succ n ih =>
    have hbyte : (UInt8.ofNat x).toNat = x % 256 := by simp
    rw [encode, decode_concat, ih, hbyte, pow_succ, Nat.mul_comm (256 ^ n) 256, Nat.mod_mul]
    ring

/-- **Reading back.** A field below the wrap is what its bytes spell. -/
theorem decode_encode {n x : Nat} (hx : x < 256 ^ n) : decode (encode n x) = x := by
  rw [decode_encode_mod, Nat.mod_eq_of_lt hx]

/-- **Writing back.** The bytes are what the field they spell is written as. -/
theorem encode_decode (bytes : List UInt8) : encode bytes.length (decode bytes) = bytes := by
  induction bytes using List.reverseRecOn with
  | nil => rfl
  | append_singleton bytes byte ih =>
    have hdiv : (decode bytes * 256 + byte.toNat) / 256 = decode bytes := by
      have := byte.toNat_lt
      omega
    have hlow : UInt8.ofNat (decode bytes * 256 + byte.toNat) = byte := by
      apply UInt8.toNat_inj.mp
      have := byte.toNat_lt
      simp only [UInt8.toNat_ofNat']
      omega
    rw [List.length_append, List.length_singleton, decode_concat, encode, hdiv, hlow, ih]

theorem decode_lt (bytes : List UInt8) : decode bytes < 256 ^ bytes.length := by
  induction bytes using List.reverseRecOn with
  | nil => simp
  | append_singleton bytes byte ih =>
    have := byte.toNat_lt
    rw [decode_concat, List.length_append, List.length_singleton, pow_succ]
    omega

/-- The field of `n` bytes at the front and what follows it, where there are as many bytes. -/
def readField (n : Nat) (bytes : List UInt8) : Option (Nat × List UInt8) :=
  if n ≤ bytes.length then some (decode (bytes.take n), bytes.drop n) else none

theorem readField_of_le_length {n : Nat} {bytes : List UInt8} (h : n ≤ bytes.length) :
    readField n bytes = some (decode (bytes.take n), bytes.drop n) :=
  if_pos h

theorem readField_encode {n x : Nat} (hx : x < 256 ^ n) (rest : List UInt8) :
    readField n (encode n x ++ rest) = some (x, rest) := by
  have hlength : n ≤ (encode n x ++ rest).length := by simp
  rw [readField_of_le_length hlength, List.take_left' (encode_length n x),
    List.drop_left' (encode_length n x), decode_encode hx]

end BigEndian
