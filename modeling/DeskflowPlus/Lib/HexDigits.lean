import Mathlib.Algebra.Group.Nat.Defs
import Mathlib.Data.List.Basic

/-!
# Hexadecimal digits

Numbers are written with the digits of `Nat.toDigits 16`, with zeros in front up to a width, and read
back digit by digit.
-/

namespace DeskflowPlus

def isHexDigit (c : Char) : Bool :=
  c.isDigit || ('a' ≤ c && c ≤ 'f') || ('A' ≤ c && c ≤ 'F')

def hexDigitValue (c : Char) : Nat :=
  if c.isDigit then c.toNat - '0'.toNat
  else if 'a' ≤ c && c ≤ 'f' then c.toNat - 'a'.toNat + 10
  else c.toNat - 'A'.toNat + 10

def hexValue (digits : List Char) : Nat :=
  digits.foldl (fun value digit => 16 * value + hexDigitValue digit) 0

/-- The digits of a number, with at least as many as the width says. -/
def padHex (width n : Nat) : List Char :=
  List.replicate (width - (Nat.toDigits 16 n).length) '0' ++ Nat.toDigits 16 n

variable {n width : Nat}

theorem isHexDigit_digitChar {d : Nat} (hd : d < 16) :
    isHexDigit d.digitChar = true ∧ hexDigitValue d.digitChar = d := by
  have hall : ∀ d < 16, isHexDigit (Nat.digitChar d) = true ∧ hexDigitValue (Nat.digitChar d) = d := by
    decide
  exact hall d hd

theorem isHexDigit_of_mem_toDigits {c : Char} (h : c ∈ Nat.toDigits 16 n) : isHexDigit c = true := by
  induction n using Nat.strongRecOn with
  | ind n ih =>
    rw [Nat.toDigits_eq_if (by decide)] at h
    split_ifs at h with hsmall
    · rw [List.mem_singleton.mp h]
      exact (isHexDigit_digitChar hsmall).1
    · rcases List.mem_append.mp h with h | h
      · exact ih (n / 16) (Nat.div_lt_self (by omega) (by decide)) h
      · rw [List.mem_singleton.mp h]
        exact (isHexDigit_digitChar (Nat.mod_lt _ (by decide))).1

theorem hexValue_toDigits : hexValue (Nat.toDigits 16 n) = n := by
  induction n using Nat.strongRecOn with
  | ind n ih =>
    rw [Nat.toDigits_eq_if (by decide)]
    split_ifs with hsmall
    · show 16 * 0 + hexDigitValue n.digitChar = n
      rw [(isHexDigit_digitChar hsmall).2]
      omega
    · have hquotient : hexValue (Nat.toDigits 16 (n / 16)) = n / 16 :=
        ih (n / 16) (Nat.div_lt_self (by omega) (by decide))
      unfold hexValue at hquotient ⊢
      rw [List.foldl_append, hquotient, List.foldl_cons, List.foldl_nil,
        (isHexDigit_digitChar (Nat.mod_lt _ (by decide))).2]
      omega

theorem hexValue_replicate_append {digits : List Char} {count : Nat} :
    hexValue (List.replicate count '0' ++ digits) = hexValue digits := by
  induction count with
  | zero => rfl
  | succ count ih =>
    rw [List.replicate_succ, List.cons_append, ← ih]
    rfl

theorem hexValue_padHex : hexValue (padHex width n) = n := by
  rw [padHex, hexValue_replicate_append, hexValue_toDigits]

theorem isHexDigit_of_mem_padHex {c : Char} (h : c ∈ padHex width n) : isHexDigit c = true := by
  rcases List.mem_append.mp h with h | h
  · rw [List.eq_of_mem_replicate h]
    rfl
  · exact isHexDigit_of_mem_toDigits h

theorem length_padHex : (padHex width n).length = max width (Nat.toDigits 16 n).length := by
  unfold padHex
  rw [List.length_append, List.length_replicate]
  omega

theorem length_padHex_le_iff (hwidth : 0 < width) :
    (padHex width n).length ≤ width ↔ n < 16 ^ width := by
  rw [length_padHex, ← Nat.length_toDigits_le_iff (by decide) hwidth]
  omega

end DeskflowPlus
