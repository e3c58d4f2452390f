import DeskflowPlus.Server.ConfigSections
import Mathlib.Data.List.Forall2
import Mathlib.Data.List.TakeWhile
import Mathlib.Logic.Relation

/-!
# The layout of a configuration file

What is read depends on the lines only as they are stripped. A line of nothing but blanks is not
stripped, though: it is the one layout that a reader sees.
-/

namespace DeskflowPlus

open ConfigReadContext KeyMap Checks

def IsLayout (text : List Char) : Prop := ∀ c ∈ (text.dropWhile isBlank).head?, c = '#'

inductive LayoutEdit where
  | insert (line : List Char)
  | append (line suffix : List Char)

namespace LayoutEdit

def Valid : LayoutEdit → Prop
  | insert line => IsLayout line
  | append _ suffix => IsLayout suffix

/-- The line that is inserted is empty or has a comment. What is appended is not the blanks of a line
that has nothing else, nor a comment behind such blanks. -/
def Harmless : LayoutEdit → Prop
  | insert line => line = [] ∨ '#' ∈ line
  | append line suffix =>
    (∃ c ∈ line, isBlank c = false) ∨ suffix = [] ∨ line = [] ∧ '#' ∈ suffix

def before : LayoutEdit → List (List Char)
  | insert _ => []
  | append line _ => [line]

def after : LayoutEdit → List (List Char)
  | insert line => [line]
  | append line suffix => [line ++ suffix]

end LayoutEdit

namespace ConfigReadContext

variable {line suffix blanks comment : List Char} {c : Char}

/-- Two lines that are read as the same, or are both refused. -/
def LineAlike (line other : List Char) : Prop :=
  line = other ∨ line.all isAllowed = false ∧ other.all isAllowed = false

theorem LineAlike.find?_eq_none (h : LineAlike line suffix) :
    line.find? (!isAllowed ·) = none ↔ suffix.find? (!isAllowed ·) = none := by
  have hiff (text : List Char) : text.find? (!isAllowed ·) = none ↔ text.all isAllowed = true := by
    rw [List.find?_eq_none, List.all_eq_true]
    refine forall₂_congr fun c _ => ?_
    rw [Bool.not_eq_true, Bool.not_eq_false']
  rw [hiff, hiff]
  rcases h with rfl | ⟨hline, hother⟩
  · exact Iff.rfl
  · rw [hline, hother]

variable {text : List (List Char)}

end ConfigReadContext

namespace ParsedConfig

variable {State : Type} {entry : State → List Char → Except String State} {name : String}
  {reading other : Reading}

variable {rounds : Nat}

variable {Address : Type} {resolve : List Char → Except String Address}
  {float : FractionArithmetic Floating} {strtod : List Char → Floating × List Char}
  {state : ParsedConfig Address}

variable {line blanks : List Char}

variable {number endLine last : Nat} {lines : List (Nat × List Char)}

end ParsedConfig

end DeskflowPlus
