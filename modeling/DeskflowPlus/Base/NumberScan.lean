import DeskflowPlus.Client.KeyNames

/-!
# Decimal numbers at the front of a text

The number scanners of the C library skip blanks, take a sign and digits, and stop at the first other
character. Where there is no digit they read nothing.
-/

namespace DeskflowPlus.NumberScan

open KeyMap (isSpace splitSign)

def decimalValue (digits : List Char) : Nat :=
  digits.foldl (fun value digit => 10 * value + (digit.toNat - '0'.toNat)) 0

def scanDecimal (text : List Char) : Option (Int × List Char) :=
  let signed := splitSign (text.dropWhile isSpace)
  let digits := signed.2.takeWhile Char.isDigit
  if digits = [] then none
  else
    some (if signed.1 then -(decimalValue digits : Int) else decimalValue digits,
      signed.2.dropWhile Char.isDigit)

/-- A character that may belong to a number. -/
def isNumeral (c : Char) : Bool := isSpace c || c = '+' || c = '-' || c.isDigit

variable {text rest : List Char} {value : Int}

theorem splitSign_spec (text : List Char) :
    ∃ sign, text = sign ++ (splitSign text).2 ∧ ∀ c ∈ sign, c = '+' ∨ c = '-' := by
  unfold splitSign
  split
  · exact ⟨['-'], rfl, by simp⟩
  · exact ⟨['+'], rfl, by simp⟩
  · exact ⟨[], rfl, by simp⟩

/-- A number is read off the front, and leaves off before a character that is no digit. -/
theorem scanDecimal_spec (h : scanDecimal text = some (value, rest)) :
    ∃ numeral, text = numeral ++ rest ∧ ∀ c ∈ numeral, isNumeral c = true := by
  unfold scanDecimal at h
  obtain ⟨sign, hsign, hsigns⟩ := splitSign_spec (text.dropWhile isSpace)
  dsimp only at h
  split at h
  · cases h
  · obtain ⟨-, hrest⟩ := Prod.mk.inj (Option.some.inj h)
    refine ⟨text.takeWhile isSpace ++ sign ++
      (splitSign (text.dropWhile isSpace)).2.takeWhile Char.isDigit, ?_, fun c hc => ?_⟩
    · rw [← hrest, List.append_assoc, List.takeWhile_append_dropWhile, List.append_assoc, ← hsign,
        List.takeWhile_append_dropWhile]
    · unfold isNumeral
      rcases List.mem_append.mp hc with hc | hdigit
      · rcases List.mem_append.mp hc with hspace | hc
        · simp [List.mem_takeWhile_imp hspace]
        · rcases hsigns c hc with rfl | rfl <;> simp
      · simp [List.mem_takeWhile_imp hdigit]

end DeskflowPlus.NumberScan
