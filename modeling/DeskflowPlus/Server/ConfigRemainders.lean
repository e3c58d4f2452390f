import DeskflowPlus.Server.ConfigSections
import Mathlib.Data.List.TakeWhile

/-!
# What is left of the lines of a configuration file

All of a line that is accepted should be in what is parsed of it, but for blanks. The characters at
which a name is left are not looked at by every reader, though, and what is behind the last value not
by all.
-/

namespace DeskflowPlus

open ConfigReadContext KeyMap Checks

def squeeze (text : List Char) : List Char := text.filter (!isBlank ·)

section Squeeze

variable {text more : List Char} {c : Char}

end Squeeze

namespace ConfigReadContext

/-- With commas in between. -/
def joined (parts : List (List Char)) : List Char := [','].intercalate parts

def NameWithArgs.text (parsed : NameWithArgs) : List Char :=
  parsed.name ++ if parsed.args = [] then [] else '(' :: joined parsed.args ++ [')']

variable {arg text rest delim : List Char} {args : List (List Char)} {c : Char}

def nameOf (delim text : List Char) : List Char :=
  (text.dropWhile isBlank).takeWhile (!endsName delim ·)

/-- A name, its arguments up to the first closing parenthesis and blanks are passed over. -/
def behindArgs (delim text : List Char) : List Char :=
  match behindName delim text with
  | '(' :: behind => ((behind.dropWhile (· ≠ ')')).tail).dropWhile isBlank
  | behind => behind

theorem length_behindArgs : (behindArgs delim text).length ≤ text.length := by
  have hdrop (p : Char → Bool) (text : List Char) : (text.dropWhile p).length ≤ text.length :=
    (List.dropWhile_sublist p).length_le
  have hname : (behindName delim text).length ≤ text.length :=
    (hdrop _ _).trans ((hdrop _ _).trans (hdrop _ _))
  unfold behindArgs
  split
  · rename_i behind hbehind
    calc (((behind.dropWhile (· ≠ ')')).tail).dropWhile isBlank).length
        ≤ ((behind.dropWhile (· ≠ ')')).tail).length := hdrop _ _
      _ ≤ (behind.dropWhile (· ≠ ')')).length := List.length_tail ▸ Nat.sub_le _ _
      _ ≤ behind.length := hdrop _ _
      _ ≤ (behindName delim text).length := by rw [hbehind]; exact Nat.le_succ _
      _ ≤ text.length := hname
  · exact hname

/-- At one of the delimiters, or at the end of the line if that is one of them. -/
def AtDelimiter (delim : List Char) : List Char → Prop
  | [] => '\n' ∈ delim
  | c :: _ => c ∈ delim

structure NameRead (delim text : List Char) (parsed : NameWithArgs) (rest : List Char) : Prop where
  squeeze_eq : squeeze text = squeeze parsed.text ++ squeeze rest
  name_eq : parsed.name = nameOf delim text
  rest_eq : rest = behindArgs delim text
  rest_ne_nil : needsDelimiter delim = true → rest ≠ []
  verified : needsDelimiter delim = true → (behindName delim text).head? = some '(' →
    AtDelimiter delim rest

theorem NameRead.length_le {parsed : NameWithArgs} (h : NameRead delim text parsed rest) :
    rest.length ≤ text.length := by
  rw [h.rest_eq]
  exact length_behindArgs

end ConfigReadContext

namespace ParsedConfig

def valuesText (values : List NameWithArgs) : List Char := joined (values.map NameWithArgs.text)

def OptionEntry.text (entry : OptionEntry) : List Char :=
  entry.name.text ++ '=' :: valuesText entry.values ++
    match entry.deactivation with
    | none => []
    | some values => ';' :: valuesText values

def LinkEntry.text (entry : LinkEntry) : List Char := entry.side.text ++ '=' :: entry.screen.text

/-- All of a line but its blanks is in the text of what is parsed. -/
def Accounted (line text : List Char) : Prop := squeeze line = squeeze text

variable {Address : Type} {activate : Bool} {rounds : Nat} {state : ParsedConfig Address}
  {rule : FilterRule} {text more : List Char} {read : ActionsRead Address} {c : Char}

variable {resolve : List Char → Except String Address} {line : List Char}

end ParsedConfig

end DeskflowPlus
