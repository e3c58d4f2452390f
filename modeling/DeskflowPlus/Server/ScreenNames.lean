import DeskflowPlus.Server.Config

/-!
# Names of screens

A name is made of parts between dots. The loop over the parts goes on while it is at the end of the
name, and so it is never entered: every name that is not empty is valid. Its body would accept just
the names of the grammar.
-/

namespace DeskflowPlus

namespace Config

/-- `isalnum(c) || c == '_'` in the C locale. -/
def isWordCharacter (c : Char) : Bool := c.isAlphanum || c == '_'

/-- The loop over the parts, from a place in the name, with the condition that it goes on. -/
def scanParts (goesOn : List Char → Bool) (text : List Char) : Bool :=
  if ¬ goesOn text then true
  else
    let part := text.takeWhile (· ≠ '.')
    -- part may not be empty
    if part = [] then false
    -- check first and last characters
    else if ¬ (part.head?.all isWordCharacter ∧ part.getLast?.all isWordCharacter) then false
    -- check interior characters
    else if ¬ part.all fun c => isWordCharacter c || c == '-' then false
    else
      let after := text.dropWhile (· ≠ '.')
      -- no more parts
      if after = [] then true else scanParts goesOn after.tail
termination_by text.length
decreasing_by
  have hsuffix := (List.dropWhile_sublist (· ≠ '.') (l := text)).length_le
  have hpositive := List.length_pos_of_ne_nil (by assumption : text.dropWhile (· ≠ '.') ≠ [])
  rw [List.length_tail]
  omega

/-- The condition is that the place is the end of the name. -/
def isValidScreenName (name : String) : Bool :=
  name ≠ "" && scanParts List.isEmpty name.toList

/-- The checks of the loop's body, made of every part. -/
def partsPass (name : String) : Bool := scanParts (!·.isEmpty) name.toList

/-- `[_A-Za-z0-9] | [_A-Za-z0-9][-_A-Za-z0-9]*[_A-Za-z0-9]` -/
inductive NamePart : List Char → Prop where
  | character {c : Char} (hc : isWordCharacter c = true) : NamePart [c]
  | word {first last : Char} {interior : List Char} (hfirst : isWordCharacter first = true)
      (hinterior : ∀ c ∈ interior, isWordCharacter c = true ∨ c = '-')
      (hlast : isWordCharacter last = true) : NamePart (first :: interior ++ [last])

/-- `validname ::= name domain*` -/
inductive ValidName : List Char → Prop where
  | name {part : List Char} (hpart : NamePart part) : ValidName part
  | domain {part name : List Char} (hpart : NamePart part) (hname : ValidName name) :
      ValidName (part ++ '.' :: name)

/-- A name may also end in a dot. -/
def Accepted (text : List Char) : Prop :=
  ValidName text ∨ ∃ name, text = name ++ ['.'] ∧ ValidName name

variable {part text : List Char}

theorem namePart_iff :
    NamePart part ↔ part ≠ [] ∧ (part.head?.all isWordCharacter ∧ part.getLast?.all isWordCharacter) ∧
      part.all (fun c => isWordCharacter c || c == '-') = true := by
  constructor
  · rintro (hc | ⟨hfirst, hinterior, hlast⟩)
    · simp [hc]
    · refine ⟨List.cons_ne_nil _ _, ⟨hfirst, ?_⟩, List.all_eq_true.mpr fun c hc => ?_⟩
      · rw [List.getLast?_concat]
        exact hlast
      · rw [List.cons_append, List.mem_cons, List.mem_append, List.mem_singleton] at hc
        rcases hc with rfl | hc | rfl
        · rw [hfirst, Bool.true_or]
        · exact (hinterior c hc).elim (by simp [·]) (by simp [·])
        · rw [hlast, Bool.true_or]
  · rintro ⟨hne, ⟨hfirst, hlast⟩, hall⟩
    rcases part with _ | ⟨first, rest⟩
    · exact absurd rfl hne
    rcases List.eq_nil_or_concat rest with rfl | ⟨interior, last, rfl⟩
    · exact .character hfirst
    · rw [List.concat_eq_append, ← List.cons_append] at hlast hall ⊢
      rw [List.getLast?_concat] at hlast
      refine .word hfirst (fun c hc => ?_) hlast
      have hcharacter := List.all_eq_true.mp hall c (by simp [hc])
      simpa using hcharacter

theorem NamePart.ne_dot (h : NamePart part) {c : Char} (hc : c ∈ part) : c ≠ '.' := by
  have hall := List.all_eq_true.mp (namePart_iff.mp h).2.2 c hc
  rintro rfl
  cases hall

theorem accepted_iff :
    Accepted text ↔ ∃ part, NamePart part ∧
      (text = part ∨ ∃ rest, text = part ++ '.' :: rest ∧ (rest = [] ∨ Accepted rest)) := by
  constructor
  · rintro (hname | ⟨name, rfl, hname⟩)
    · cases hname with
      | name hpart => exact ⟨_, hpart, .inl rfl⟩
      | domain hpart hname => exact ⟨_, hpart, .inr ⟨_, rfl, .inr (.inl hname)⟩⟩
    · cases hname with
      | name hpart => exact ⟨_, hpart, .inr ⟨[], rfl, .inl rfl⟩⟩
      | domain hpart hname =>
        refine ⟨_, hpart, .inr ⟨_, ?_, .inr (.inr ⟨_, rfl, hname⟩)⟩⟩
        rw [List.append_assoc, List.cons_append]
  · rintro ⟨part, hpart, rfl | ⟨rest, rfl, rfl | hname | ⟨name, rfl, hname⟩⟩⟩
    · exact .inl (.name hpart)
    · exact .inr ⟨part, rfl, .name hpart⟩
    · exact .inl (.domain hpart hname)
    · refine .inr ⟨part ++ '.' :: name, ?_, .domain hpart hname⟩
      rw [List.append_assoc, List.cons_append]

theorem scan_split (hpart : ∀ c ∈ part, c ≠ '.') {rest : List Char} (hrest : rest.head?.all (· = '.')) :
    (part ++ rest).takeWhile (· ≠ '.') = part ∧ (part ++ rest).dropWhile (· ≠ '.') = rest := by
  have hall (c : Char) (hc : c ∈ part) : decide (c ≠ '.') = true := decide_eq_true (hpart c hc)
  rw [List.takeWhile_append_of_pos hall, List.dropWhile_append_of_pos hall]
  rcases rest with _ | ⟨c, rest⟩
  · exact ⟨List.append_nil _, rfl⟩
  · obtain rfl : c = '.' := of_decide_eq_true hrest
    exact ⟨List.append_nil _, rfl⟩

theorem scanParts_step (htext : text ≠ []) :
    scanParts (!·.isEmpty) text = true ↔ NamePart (text.takeWhile (· ≠ '.')) ∧
      (text.dropWhile (· ≠ '.') = [] ∨ scanParts (!·.isEmpty) (text.dropWhile (· ≠ '.')).tail = true) := by
  have hgoes : ¬ ¬ (!text.isEmpty) = true := by simpa using htext
  rw [scanParts, if_neg hgoes, namePart_iff]
  dsimp only
  by_cases hempty : text.takeWhile (· ≠ '.') = []
  · rw [if_pos hempty]
    exact iff_of_false Bool.false_ne_true fun h => h.1.1 hempty
  rw [if_neg hempty]
  by_cases hends : (text.takeWhile (· ≠ '.')).head?.all isWordCharacter ∧
      (text.takeWhile (· ≠ '.')).getLast?.all isWordCharacter
  · rw [if_neg (not_not.mpr hends)]
    by_cases hinterior : (text.takeWhile (· ≠ '.')).all fun c => isWordCharacter c || c == '-'
    · rw [if_neg (not_not.mpr hinterior), and_iff_right ⟨hempty, hends, hinterior⟩]
      split_ifs with hafter
      · exact iff_of_true rfl (.inl hafter)
      · rw [or_iff_right hafter]
    · rw [if_pos hinterior]
      exact iff_of_false Bool.false_ne_true fun h => hinterior h.1.2.2
  · rw [if_pos hends]
    exact iff_of_false Bool.false_ne_true fun h => hends h.1.2.1

theorem scanParts_iff : scanParts (!·.isEmpty) text = true ↔ text = [] ∨ Accepted text := by
  induction hlength : text.length using Nat.strong_induction_on generalizing text with
  | _ length ih =>
    by_cases htext : text = []
    · rw [htext]
      exact iff_of_true (by rw [scanParts]; rfl) (.inl rfl)
    rw [scanParts_step htext, or_iff_right htext, accepted_iff]
    have hsplit := List.takeWhile_append_dropWhile (p := (· ≠ '.')) (l := text)
    constructor
    · rintro ⟨hpart, hafter⟩
      refine ⟨_, hpart, ?_⟩
      have hhead := List.head?_dropWhile_not (· ≠ '.') text
      rcases hdrop : text.dropWhile (· ≠ '.') with _ | ⟨c, rest⟩
      · rw [hdrop, List.append_nil] at hsplit
        exact .inl hsplit.symm
      · rw [hdrop] at hsplit hhead hafter
        obtain rfl : c = '.' := by simpa using hhead
        rw [or_iff_right (List.cons_ne_nil _ _), List.tail_cons] at hafter
        have hless : rest.length < length := by
          rw [← hlength, ← hsplit, List.length_append, List.length_cons]
          omega
        exact .inr ⟨rest, hsplit.symm, (ih _ hless rfl).mp hafter⟩
    · rintro ⟨part, hpart, rfl | ⟨rest, rfl, hrest⟩⟩
      · obtain ⟨htake, hdrop⟩ := @scan_split text (fun _ => hpart.ne_dot) [] rfl
        rw [List.append_nil] at htake hdrop
        rw [htake, hdrop]
        exact ⟨hpart, .inl rfl⟩
      · obtain ⟨htake, hdrop⟩ := @scan_split part (fun _ => hpart.ne_dot) ('.' :: rest) rfl
        have hless : rest.length < length := by
          rw [← hlength, List.length_append, List.length_cons]
          omega
        rw [htake, hdrop, List.tail_cons]
        exact ⟨hpart, .inr ((ih _ hless rfl).mpr hrest)⟩

theorem not_accepted_nil : ¬ Accepted [] := by
  rw [accepted_iff]
  rintro ⟨part, hpart, hname | ⟨rest, hname, -⟩⟩
  · exact (namePart_iff.mp hpart).1 hname.symm
  · exact List.append_ne_nil_of_right_ne_nil _ (List.cons_ne_nil _ _) hname.symm

theorem isValidScreenName_eq {name : String} : isValidScreenName name = decide (name ≠ "") := by
  unfold isValidScreenName
  by_cases hname : name = ""
  · simp [hname]
  · have hstops : ¬ name.toList.isEmpty = true := by
      rwa [List.isEmpty_iff, String.toList_eq_nil_iff]
    rw [scanParts, if_pos hstops, Bool.and_true]

/-- **Names of screens.** A name is accepted just if it is one of the grammar, unless it is neither
empty nor passes the checks of its parts. -/
theorem isValidScreenName_iff (name : String) :
    (isValidScreenName name = true ↔ Accepted name.toList) ↔ name = "" ∨ partsPass name = true := by
  unfold partsPass
  rw [isValidScreenName_eq, decide_eq_true_iff, scanParts_iff, String.toList_eq_nil_iff]
  by_cases hname : name = ""
  · rw [hname]
    exact iff_of_true (iff_of_false (not_not.mpr rfl) not_accepted_nil) (.inl rfl)
  · rw [iff_true_left hname, or_iff_right hname, or_iff_right hname]

theorem isValidScreenName_dash : ¬ (isValidScreenName "-" = true ↔ Accepted "-".toList) := by
  intro h
  have haccepted := scanParts_iff.mpr (.inr (h.mp (isValidScreenName_eq.trans (by decide))))
  rw [scanParts] at haccepted
  exact absurd haccepted (by decide)

end Config

end DeskflowPlus
