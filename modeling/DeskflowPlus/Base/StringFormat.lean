import Mathlib.Algebra.GroupWithZero.Nat
import Mathlib.Algebra.Group.Int.Defs
import DeskflowPlus.Base.NumberScan

/-!
# Positional formatting

A first pass over the format notes where its placeholders are and counts its rounds as the length of
the format. The length of the result is predicted from that count by unsigned arithmetic, and a second
pass puts the pieces together.
-/

namespace DeskflowPlus

open NumberScan

/-- The characters before the terminator, within the address space. -/
structure CString where
  chars : List Char
  terminated : Char.ofNat 0 ∉ chars
  bound : chars.length < 2 ^ 63

namespace StringFormat

def openBrace : Char := Char.ofNat 0x7b
def closeBrace : Char := Char.ofNat 0x7d

/-- Where nothing is read, 0 and the whole text. -/
def strtol (text : List Char) : Int × List Char := (scanDecimal text).getD (0, text)

/-- What a round of the first pass comes to, from a character on: the characters behind it that it
takes, the argument's number if it found a placeholder, and whether it counts. -/
structure Round where
  more : Nat
  index : Option Nat := none
  counted : Nat := 1

def scanRound (c : Char) (rest : List Char) : Round :=
  if c ≠ '%' then { more := 0 }
  else
    match rest with
    | [] => { more := 0, counted := 0 }
    | next :: behind =>
      if next = '%' then { more := 1, index := some 0 }
      else if next = openBrace then
        let number := strtol behind
        let digits := behind.length - number.2.length
        -- an error of the range is one of the two bounds
        if number.1 < 0 ∨ 2 ^ 63 ≤ number.1 ∨ number.2.head? ≠ some closeBrace then
          { more := digits + 1 }
        else { more := digits + 2, index := some number.1.toNat }
      else { more := 1 }

structure Substitution where
  pos : Nat
  width : Nat
  index : Nat

def scanFormat (scan : Nat) : List Char → List Substitution × Nat
  | [] => ([], 0)
  | c :: rest =>
    let round := scanRound c rest
    let later := scanFormat (scan + round.more + 1) (rest.drop round.more)
    (match round.index with
      | none => later.1
      | some index => { pos := scan, width := round.more + 1, index } :: later.1,
      later.2 + round.counted)
termination_by text => text.length

/-- One step of the length computation, and whether its subtraction wrapped. -/
def lengthStep (length : Nat → Nat) (state : Nat × Bool) (sub : Substitution) : Nat × Bool :=
  ((state.1 + 2 ^ 64 - sub.width + length sub.index) % 2 ^ 64, state.2 || state.1 < sub.width)

def substitute (fmt : List Char) (value : Nat → List Char) : List Substitution → Nat → List Char
  | [], src => fmt.drop src
  | sub :: subs, src =>
    (fmt.drop src).take (sub.pos - src) ++ value sub.index ++
      substitute fmt value subs (sub.pos + sub.width)

inductive FormatError where
  | undefined
  | lengthError

structure Formatted where
  underflow : Bool
  reserved : Nat
  result : List Char

def argument (args : List CString) : Nat → List Char
  | 0 => ['%']
  | n + 1 => (args[n]?.map CString.chars).getD []

/-- More arguments than there are is undefined. The count of the substitutions is read as an `int`. -/
def vformat (fmt : CString) (args : List CString) : Except FormatError Formatted :=
  let (subs, fmtLength) := scanFormat 0 fmt.chars
  let n := if subs.length % 2 ^ 32 < 2 ^ 31 then subs.length % 2 ^ 32 else 0
  if subs.any fun sub => args.length < sub.index then .error .undefined
  else
    let length := (subs.take n).foldl (lengthStep fun index => (argument args index).length)
      (fmtLength, false)
    let result := substitute fmt.chars (argument args) (subs.take n) 0
    if 2 ^ 63 ≤ length.1 ∨ 2 ^ 63 ≤ result.length then .error .lengthError
    else .ok { underflow := length.2, reserved := length.1, result }

def placeholder (args : List CString) (behind : List Char) : Option (List Char × Nat) :=
  let number := strtol behind
  if 0 < number.1 ∧ number.1 < 2 ^ 63 ∧ number.1.toNat ≤ args.length ∧
      number.2.head? = some closeBrace then
    some (argument args number.1.toNat, behind.length - number.2.length + 1)
  else none

/-- The characters, and the arguments that take the place of a placeholder. -/
def parts (args : List CString) : List Char → List (Char ⊕ List Char)
  | [] => []
  | c :: rest =>
    if c = '%' ∧ rest.head? = some '%' then .inl '%' :: parts args (rest.drop 1)
    else
      match if c = '%' ∧ rest.head? = some openBrace then placeholder args rest.tail else none with
      | some (arg, length) => .inr arg :: parts args (rest.drop (length + 1))
      | none => .inl c :: parts args rest
termination_by text => text.length

def charsOf (parts : List (Char ⊕ List Char)) : List Char :=
  parts.flatMap fun part => part.elim (fun c => [c]) id

def substituted (parts : List (Char ⊕ List Char)) : Nat :=
  (parts.filterMap Sum.getRight?).flatten.length

/-- The call gives what the format says, and predicts its length without wrapping. -/
def Faithful (fmt : CString) (args : List CString) : Prop :=
  ∃ formatted, vformat fmt args = .ok formatted ∧ formatted.underflow = false ∧
    formatted.result = charsOf (parts args fmt.chars) ∧
    formatted.reserved ≤ fmt.chars.length + substituted (parts args fmt.chars)

/-- What a round takes. -/
structure Piece where
  text : List Char
  index : Option Nat
  counted : Nat

def pieces : List Char → List Piece
  | [] => []
  | c :: rest =>
    let round := scanRound c rest
    { text := c :: rest.take round.more, index := round.index, counted := round.counted } ::
      pieces (rest.drop round.more)
termination_by text => text.length

/-- What the second pass puts in the place of a piece. -/
def Piece.rendered (value : Nat → List Char) (piece : Piece) : List Char :=
  piece.index.elim piece.text value

def Piece.parts (args : List CString) (piece : Piece) : List (Char ⊕ List Char) :=
  match piece.index with
  | none => piece.text.map .inl
  | some index =>
    if piece.text.length = 2 then [.inl '%']
    else if 0 < index ∧ index ≤ args.length then [.inr (argument args index)]
    else piece.text.map .inl

/-- A piece counts at most one; a placeholder counts one and is `%%` or longer. -/
structure Piece.Ok (piece : Piece) : Prop where
  nonempty : 1 ≤ piece.text.length
  counted : piece.counted ≤ 1
  placed : ∀ index, piece.index = some index →
    piece.counted = 1 ∧ (piece.text.length = 2 ∧ index = 0 ∨ 3 ≤ piece.text.length)

variable {args : List CString} {text : List Char} {c : Char} {rest : List Char}

theorem strtol_spec (text : List Char) :
    ∃ numeral, text = numeral ++ (strtol text).2 ∧ ∀ c ∈ numeral, c ≠ '%' := by
  unfold strtol
  cases h : scanDecimal text with
  | none => exact ⟨[], rfl, fun _ hmem => absurd hmem List.not_mem_nil⟩
  | some number =>
    obtain ⟨numeral, htext, hnumeral⟩ := scanDecimal_spec h
    refine ⟨numeral, htext, fun c hmem hpercent => ?_⟩
    rw [hpercent] at hmem
    exact absurd (hnumeral '%' hmem) (by decide)

theorem parts_of_ne (h : c ≠ '%') : parts args (c :: rest) = .inl c :: parts args rest := by
  rw [parts, if_neg fun hc => h hc.1, if_neg fun hc => h hc.1]

theorem parts_append {plain : List Char} (h : ∀ c ∈ plain, c ≠ '%') :
    parts args (plain ++ rest) = plain.map .inl ++ parts args rest := by
  induction plain with
  | nil => rfl
  | cons c plain ih =>
    rw [List.cons_append, parts_of_ne (h c List.mem_cons_self),
      ih fun other hother => h other (List.mem_cons_of_mem _ hother)]
    rfl

theorem parts_singleton : parts args ['%'] = .inl '%' :: parts args [] := by
  conv_lhs => rw [parts]
  rw [if_neg nofun, if_neg nofun]

theorem parts_percent {next : Char} (hescape : next ≠ '%')
    (hnone : next = openBrace → placeholder args rest = none) :
    parts args ('%' :: next :: rest) = .inl '%' :: parts args (next :: rest) := by
  rw [parts, if_neg fun h => hescape (Option.some.inj h.2)]
  by_cases hbrace : next = openBrace
  · rw [if_pos ⟨rfl, congrArg some hbrace⟩, List.tail_cons, hnone hbrace]
  · rw [if_neg fun h => hbrace (Option.some.inj h.2)]

theorem parts_unread {behind numeral tail : List Char} (hbehind : behind = numeral ++ tail)
    (hnumeral : ∀ c ∈ numeral, c ≠ '%') (hnone : placeholder args behind = none) :
    parts args ('%' :: openBrace :: behind) =
      ('%' :: openBrace :: numeral).map .inl ++ parts args tail := by
  have hbrace : openBrace ≠ '%' := by decide
  rw [parts_percent hbrace fun _ => hnone, parts_of_ne hbrace, hbehind,
    parts_append hnumeral]
  rfl

theorem parts_placeholder {behind numeral after : List Char} {value : Int}
    (hstrtol : strtol behind = (value, closeBrace :: after))
    (hbehind : behind = numeral ++ closeBrace :: after) (hnumeral : ∀ c ∈ numeral, c ≠ '%')
    (hnonneg : 0 ≤ value) (hbound : value < 2 ^ 63) :
    parts args ('%' :: openBrace :: behind) =
      Piece.parts args { text := '%' :: openBrace :: (numeral ++ [closeBrace])
                         index := some value.toNat, counted := 1 } ++ parts args after := by
  have hlong : ('%' :: openBrace :: (numeral ++ [closeBrace])).length ≠ 2 := by
    simp
  have hdigits : behind.length - (closeBrace :: after).length + 1 = numeral.length + 1 := by
    rw [hbehind, List.length_append]
    omega
  rw [Piece.parts]
  dsimp only
  rw [if_neg hlong]
  by_cases hindex : 0 < value.toNat ∧ value.toNat ≤ args.length
  · have hsome : placeholder args behind = some (argument args value.toNat, numeral.length + 1) := by
      rw [placeholder, hstrtol]
      dsimp only
      rw [hdigits]
      exact if_pos ⟨by omega, hbound, hindex.2, rfl⟩
    have hrest : (openBrace :: behind).drop (numeral.length + 1 + 1) = after := by
      rw [List.drop_succ_cons, hbehind, ← List.drop_drop, List.drop_left]
      rfl
    rw [if_pos hindex, parts, if_neg fun h => absurd (Option.some.inj h.2) (by decide),
      if_pos ⟨rfl, rfl⟩, List.tail_cons, hsome, List.singleton_append]
    dsimp only
    rw [hrest]
  · have hnone : placeholder args behind = none := by
      rw [placeholder, hstrtol]
      exact if_neg fun h => hindex ⟨by omega, h.2.2.1⟩
    have hclose : ∀ c ∈ numeral ++ [closeBrace], c ≠ '%' := by
      intro c hc
      rcases List.mem_append.mp hc with hc | hc
      · exact hnumeral c hc
      · rw [List.mem_singleton.mp hc]
        decide
    rw [if_neg hindex]
    exact parts_unread (by rw [hbehind, List.append_assoc]; rfl) hclose hnone

theorem scanRound_spec (c : Char) (rest : List Char) :
    let round := scanRound c rest
    let piece : Piece := { text := c :: rest.take round.more, index := round.index
                           counted := round.counted }
    round.more ≤ rest.length ∧ piece.Ok ∧
      parts args (c :: rest) = piece.parts args ++ parts args (rest.drop round.more) := by
  have hplain {counted : Nat} (more : Nat) (hmore : more ≤ rest.length) (hcounted : counted ≤ 1)
      (hparts : parts args (c :: rest) =
        (c :: rest.take more).map .inl ++ parts args (rest.drop more)) :
      let piece : Piece := { text := c :: rest.take more, index := none, counted }
      more ≤ rest.length ∧ piece.Ok ∧
        parts args (c :: rest) = piece.parts args ++ parts args (rest.drop more) :=
    ⟨hmore, ⟨Nat.le_add_left _ _, hcounted, fun _ h => absurd h nofun⟩, hparts⟩
  unfold scanRound
  by_cases hc : c ≠ '%'
  · rw [if_pos hc]
    exact hplain 0 (Nat.zero_le _) (Nat.le_refl _) (parts_of_ne hc)
  rw [if_neg hc]
  obtain rfl := not_not.mp hc
  cases rest with
  | nil => exact hplain 0 (Nat.zero_le _) (Nat.zero_le _) parts_singleton
  | cons next behind =>
    dsimp only
    by_cases hescape : next = '%'
    · subst hescape
      rw [if_pos rfl, parts, if_pos ⟨rfl, rfl⟩]
      refine ⟨Nat.le_add_left _ _, ⟨Nat.le_add_left _ _, Nat.le_refl _, ?_⟩, rfl⟩
      intro index hindex
      exact ⟨rfl, Or.inl ⟨rfl, (Option.some.inj hindex).symm⟩⟩
    rw [if_neg hescape]
    by_cases hbrace : next = openBrace
    · subst hbrace
      obtain ⟨numeral, hbehind, hnumeral⟩ := strtol_spec behind
      cases hstrtol : strtol behind with
      | mk value tail =>
        rw [hstrtol] at hbehind
        dsimp only at hbehind ⊢
        have hdigits : behind.length - tail.length = numeral.length := by
          rw [hbehind, List.length_append, Nat.add_sub_cancel]
        rw [if_pos rfl, hdigits]
        split
        case isTrue hinvalid =>
          refine hplain (numeral.length + 1) ?_ (Nat.le_refl _) ?_
          · rw [List.length_cons, hbehind, List.length_append]
            omega
          · have hnone : placeholder args behind = none := by
              rw [placeholder, hstrtol]
              refine if_neg fun h => ?_
              rcases hinvalid with hnegative | hlarge | hopen
              · exact absurd h.1 (by omega)
              · exact absurd h.2.1 (by omega)
              · exact hopen h.2.2.2
            rw [List.take_succ_cons, List.drop_succ_cons, parts_unread hbehind hnumeral hnone, hbehind,
              List.take_left, List.drop_left]
        case isFalse hvalid =>
          simp only [not_or, not_not] at hvalid
          obtain ⟨hnonneg, hbound, hclose⟩ := hvalid
          obtain ⟨after, rfl⟩ := List.head?_eq_some_iff.mp hclose
          have htake : behind.take (numeral.length + 1) = numeral ++ [closeBrace] := by
            rw [hbehind, List.take_append, List.take_of_length_le (Nat.le_succ _)]
            simp
          have hdrop : behind.drop (numeral.length + 1) = after := by
            rw [hbehind, ← List.drop_drop, List.drop_left]
            rfl
          dsimp only
          rw [List.take_succ_cons, List.drop_succ_cons, htake, hdrop]
          refine ⟨?_, ⟨Nat.le_add_left _ _, Nat.le_refl _, fun index hindex => ⟨rfl, Or.inr ?_⟩⟩, ?_⟩
          · rw [List.length_cons, hbehind, List.length_append, List.length_cons]
            omega
          · simp
          · exact parts_placeholder hstrtol hbehind hnumeral (by omega) (by omega)
    · rw [if_neg hbrace]
      refine hplain 1 (Nat.le_add_left _ _) (Nat.le_refl _) ?_
      rw [parts_percent hescape fun h => absurd h hbrace, parts_of_ne hescape]
      rfl

theorem pieces_spec (args : List CString) (text : List Char) :
    parts args text = (pieces text).flatMap (Piece.parts args) ∧
      (pieces text).flatMap (·.text) = text ∧ ∀ piece ∈ pieces text, piece.Ok := by
  fun_induction pieces text with
  | case1 => exact ⟨by rw [parts]; rfl, rfl, fun _ h => absurd h List.not_mem_nil⟩
  | case2 c rest round ih =>
    obtain ⟨hparts, htext, hok⟩ := ih
    obtain ⟨-, hpiece, hround⟩ := @scanRound_spec args c rest
    refine ⟨?_, ?_, fun piece hmem => ?_⟩
    · rw [hround, hparts, List.flatMap_cons]
    · rw [List.flatMap_cons, htext, List.cons_append, List.take_append_drop]
    · rcases List.mem_cons.mp hmem with rfl | hmem
      · exact hpiece
      · exact hok piece hmem

/-- Where the placeholders of the pieces are, from a position on. -/
def substitutions (scan : Nat) : List Piece → List Substitution
  | [] => []
  | piece :: later =>
    match piece.index with
    | none => substitutions (scan + piece.text.length) later
    | some index => { pos := scan, width := piece.text.length, index } ::
        substitutions (scan + piece.text.length) later

theorem scanFormat_eq (scan : Nat) (text : List Char) :
    scanFormat scan text = (substitutions scan (pieces text), ((pieces text).map (·.counted)).sum) := by
  induction hlength : text.length using Nat.strongRecOn generalizing text scan with
  | ind length ih =>
    cases text with
    | nil =>
      rw [scanFormat, pieces]
      rfl
    | cons c rest =>
      obtain ⟨hmore, -, -⟩ := @scanRound_spec [] c rest
      have hshorter : (rest.drop (scanRound c rest).more).length < length := by
        rw [List.length_drop, ← hlength, List.length_cons]
        omega
      have hwidth : (c :: rest.take (scanRound c rest).more).length = (scanRound c rest).more + 1 := by
        rw [List.length_cons, List.length_take_of_le hmore]
      rw [scanFormat, pieces, ih _ hshorter _ _ rfl, substitutions, List.map_cons, List.sum_cons, hwidth,
        Nat.add_comm (scanRound c rest).counted]
      cases (scanRound c rest).index <;> rfl

theorem substitute_eq {fmt : List Char} {value : Nat → List Char} {found : List Piece} {scan src : Nat}
    (hfound : fmt.drop scan = found.flatMap (·.text)) (hsrc : src ≤ scan) :
    substitute fmt value (substitutions scan found) src =
      (fmt.drop src).take (scan - src) ++ found.flatMap (Piece.rendered value) := by
  induction found generalizing scan src with
  | nil =>
    have hend : fmt.length ≤ scan := List.drop_eq_nil_iff.mp hfound
    rw [List.flatMap_nil, List.append_nil, List.take_of_length_le]
    · rfl
    · rw [List.length_drop]
      omega
  | cons piece found ih =>
    have hnext : fmt.drop (scan + piece.text.length) = found.flatMap (·.text) := by
      rw [← List.drop_drop, hfound, List.flatMap_cons, List.drop_left]
    have htext : (fmt.drop scan).take piece.text.length = piece.text := by
      rw [hfound, List.flatMap_cons, List.take_left]
    unfold substitutions
    cases hindex : piece.index with
    | none =>
      have hbehind : (fmt.drop src).drop (scan - src) = fmt.drop scan := by
        rw [List.drop_drop, Nat.add_sub_of_le hsrc]
      calc
        substitute fmt value (substitutions (scan + piece.text.length) found) src =
            (fmt.drop src).take (scan + piece.text.length - src) ++
              found.flatMap (Piece.rendered value) := ih hnext (by omega)
        _ = (fmt.drop src).take (scan - src) ++ piece.text ++ found.flatMap (Piece.rendered value) := by
          rw [Nat.sub_add_comm hsrc, List.take_add, hbehind, htext]
        _ = _ := by rw [List.flatMap_cons, List.append_assoc, Piece.rendered, hindex]; rfl
    | some index =>
      dsimp only
      rw [substitute]
      dsimp only
      rw [ih hnext (Nat.le_refl _), Nat.sub_self, List.take_zero, List.nil_append, List.flatMap_cons,
        List.append_assoc, Piece.rendered, hindex]
      rfl

def Covered (length : Nat → Nat) : Nat → List Substitution → Prop
  | _, [] => True
  | n, sub :: subs => sub.width ≤ n ∧ Covered length (n - sub.width + length sub.index) subs

def widths (subs : List Substitution) : Nat := (subs.map (·.width)).sum
def lengths (length : Nat → Nat) (subs : List Substitution) : Nat :=
  (subs.map fun sub => length sub.index).sum

variable {length : Nat → Nat} {subs : List Substitution}

theorem lengthStep_of_le {n : Nat} {sub : Substitution} (hle : sub.width ≤ n)
    (hbound : n + length sub.index < 2 ^ 64) :
    lengthStep length (n, false) sub = (n - sub.width + length sub.index, false) := by
  have hvalue : (n + 2 ^ 64 - sub.width + length sub.index) % 2 ^ 64 =
      n - sub.width + length sub.index := by
    omega
  rw [lengthStep, hvalue, decide_eq_false (Nat.not_lt.mpr hle)]
  rfl

theorem foldl_of_wrapped {n : Nat} : (subs.foldl (lengthStep length) (n, true)).2 = true := by
  induction subs generalizing n with
  | nil => rfl
  | cons sub subs ih => exact ih

theorem foldl_of_covered {n : Nat} (h : Covered length n subs)
    (hbound : n + lengths length subs < 2 ^ 64) :
    ∃ m, subs.foldl (lengthStep length) (n, false) = (m, false) ∧
      m + widths subs = n + lengths length subs := by
  induction subs generalizing n with
  | nil => exact ⟨n, rfl, rfl⟩
  | cons sub subs ih =>
    have hsum : lengths length (sub :: subs) = length sub.index + lengths length subs := by
      rw [lengths, List.map_cons, List.sum_cons]
      rfl
    have hwidths : widths (sub :: subs) = sub.width + widths subs := by
      rw [widths, List.map_cons, List.sum_cons]
      rfl
    have hle := h.1
    obtain ⟨m, hfold, hm⟩ := ih h.2 (by omega)
    refine ⟨m, ?_, by omega⟩
    rw [List.foldl_cons, lengthStep_of_le h.1 (by omega), hfold]

theorem covered_of_foldl {n : Nat} (h : (subs.foldl (lengthStep length) (n, false)).2 = false)
    (hbound : n + lengths length subs < 2 ^ 64) : Covered length n subs := by
  induction subs generalizing n with
  | nil => exact trivial
  | cons sub subs ih =>
    have hsum : lengths length (sub :: subs) = length sub.index + lengths length subs := by
      rw [lengths, List.map_cons, List.sum_cons]
      rfl
    rw [List.foldl_cons] at h
    by_cases hle : sub.width ≤ n
    · rw [lengthStep_of_le hle (by omega)] at h
      exact ⟨hle, ih h (by omega)⟩
    · rw [lengthStep, decide_eq_true (Nat.lt_of_not_le hle)] at h
      exact absurd (foldl_of_wrapped.symm.trans h) Bool.noConfusion

/-- The placeholder names an argument, or is an escaped percent sign. -/
def Piece.Named (args : List CString) (piece : Piece) : Prop :=
  ∀ index, piece.index = some index → piece.text.length = 2 ∨ 0 < index ∧ index ≤ args.length

/-- Each placeholder names an argument, the widths are covered, and the result fits the memory. -/
structure Foreseen (fmt : CString) (args : List CString) : Prop where
  named : ∀ piece ∈ pieces fmt.chars, piece.Named args
  covered : Covered (fun index => (argument args index).length)
    ((pieces fmt.chars).map (·.counted)).sum (substitutions 0 (pieces fmt.chars))
  short : (charsOf (parts args fmt.chars)).length < 2 ^ 63

theorem charsOf_append {left right : List (Char ⊕ List Char)} :
    charsOf (left ++ right) = charsOf left ++ charsOf right := List.flatMap_append

theorem charsOf_map_inl : charsOf (text.map .inl) = text := by
  induction text with
  | nil => rfl
  | cons c text ih => exact congrArg (c :: ·) ih

theorem substituted_append {left right : List (Char ⊕ List Char)} :
    substituted (left ++ right) = substituted left + substituted right := by
  unfold substituted
  rw [List.filterMap_append, List.flatten_append, List.length_append]

variable {piece : Piece} {found : List Piece}

theorem Piece.Named.rendered (hok : piece.Ok) (h : piece.Named args) :
    piece.rendered (argument args) = charsOf (piece.parts args) := by
  unfold Piece.rendered Piece.parts
  cases hindex : piece.index with
  | none => exact charsOf_map_inl.symm
  | some index =>
    dsimp only
    split
    case isTrue hshort =>
      obtain ⟨-, ⟨-, rfl⟩ | hlong⟩ := hok.placed index hindex
      · rfl
      · omega
    case isFalse hlong =>
      rw [if_pos ((h index hindex).resolve_left hlong)]
      exact (List.append_nil _).symm

theorem Piece.Ok.rendered_lt (hok : piece.Ok) (hunnamed : ¬ piece.Named args)
    (hdefined : ∀ index, piece.index = some index → index ≤ args.length) :
    (piece.rendered (argument args)).length < (charsOf (piece.parts args)).length := by
  unfold Piece.Named at hunnamed
  push_neg at hunnamed
  obtain ⟨index, hindex, hlong, hzero⟩ := hunnamed
  have hle := hdefined index hindex
  obtain rfl : index = 0 := by
    by_contra hne
    exact absurd hle (Nat.not_le.mpr (hzero (Nat.pos_of_ne_zero hne)))
  obtain ⟨-, hwide⟩ := hok.placed 0 hindex
  rw [Piece.rendered, Piece.parts, hindex]
  dsimp only
  rw [if_neg hlong, if_neg fun h => Nat.lt_irrefl 0 h.1, charsOf_map_inl]
  show 1 < piece.text.length
  omega

theorem rendered_of_named (hok : ∀ piece ∈ found, piece.Ok)
    (hnamed : ∀ piece ∈ found, piece.Named args) :
    found.flatMap (Piece.rendered (argument args)) = charsOf (found.flatMap (Piece.parts args)) := by
  induction found with
  | nil => rfl
  | cons piece found ih =>
    rw [List.flatMap_cons, List.flatMap_cons, charsOf_append,
      (hnamed piece List.mem_cons_self).rendered (hok piece List.mem_cons_self),
      ih (fun other h => hok other (List.mem_cons_of_mem _ h))
        fun other h => hnamed other (List.mem_cons_of_mem _ h)]

theorem rendered_length_le (hok : ∀ piece ∈ found, piece.Ok)
    (hdefined : ∀ piece ∈ found, ∀ index, piece.index = some index → index ≤ args.length) :
    (found.flatMap (Piece.rendered (argument args))).length ≤
        (charsOf (found.flatMap (Piece.parts args))).length ∧
      ((found.flatMap (Piece.rendered (argument args))).length =
        (charsOf (found.flatMap (Piece.parts args))).length →
          ∀ piece ∈ found, piece.Named args) := by
  induction found with
  | nil => exact ⟨Nat.le_refl _, fun _ _ h => absurd h List.not_mem_nil⟩
  | cons piece found ih =>
    obtain ⟨hle, hnamed⟩ := ih (fun other h => hok other (List.mem_cons_of_mem _ h))
      fun other h => hdefined other (List.mem_cons_of_mem _ h)
    rw [List.flatMap_cons, List.flatMap_cons, charsOf_append, List.length_append, List.length_append]
    by_cases hpiece : piece.Named args
    · rw [hpiece.rendered (hok piece List.mem_cons_self)]
      refine ⟨by omega, fun heq other hother => ?_⟩
      rcases List.mem_cons.mp hother with rfl | hother
      · exact hpiece
      · exact hnamed (by omega) other hother
    · have hlt := (hok piece List.mem_cons_self).rendered_lt hpiece
        (hdefined piece List.mem_cons_self)
      exact ⟨by omega, fun heq => absurd heq (by omega)⟩

theorem lengths_le (hok : ∀ piece ∈ found, piece.Ok) (scan : Nat) :
    (found.map (·.counted)).sum ≤ (found.flatMap (·.text)).length ∧
      lengths (fun index => (argument args index).length) (substitutions scan found) ≤
        (found.flatMap (Piece.rendered (argument args))).length ∧
      (found.map (·.counted)).sum +
          lengths (fun index => (argument args index).length) (substitutions scan found) ≤
        (found.flatMap (Piece.rendered (argument args))).length + widths (substitutions scan found) ∧
      ∀ sub ∈ substitutions scan found, ∃ piece ∈ found, piece.index = some sub.index := by
  induction found generalizing scan with
  | nil => exact ⟨Nat.le_refl _, Nat.le_refl _, Nat.le_refl _, fun _ h => absurd h List.not_mem_nil⟩
  | cons piece found ih =>
    obtain ⟨hcount, hlengths, hboth, hmem⟩ := ih (fun other h => hok other (List.mem_cons_of_mem _ h))
      (scan + piece.text.length)
    have hpiece := hok piece List.mem_cons_self
    have hone := hpiece.counted
    have hnonempty := hpiece.nonempty
    rw [List.map_cons, List.sum_cons, List.flatMap_cons, List.length_append, List.flatMap_cons,
      List.length_append, Piece.rendered, substitutions]
    refine ⟨by omega, ?_⟩
    cases hindex : piece.index with
    | none =>
      refine ⟨Nat.le_add_left_of_le hlengths, ?_, fun sub hsub => ?_⟩
      · show _ ≤ piece.text.length + _ + _
        dsimp only
        omega
      · obtain ⟨other, hother, heq⟩ := hmem sub hsub
        exact ⟨other, List.mem_cons_of_mem _ hother, heq⟩
    | some index =>
      refine ⟨Nat.add_le_add_left hlengths _, ?_, fun sub hsub => ?_⟩
      · unfold lengths widths at hboth ⊢
        rw [List.map_cons, List.sum_cons, List.map_cons, List.sum_cons]
        show _ ≤ (argument args index).length + _ + _
        dsimp only at hboth ⊢
        omega
      · rcases List.mem_cons.mp hsub with rfl | hsub
        · exact ⟨piece, List.mem_cons_self, hindex⟩
        · obtain ⟨other, hother, heq⟩ := hmem sub hsub
          exact ⟨other, List.mem_cons_of_mem _ hother, heq⟩

theorem exists_substitution {index : Nat} (hpiece : piece ∈ found) (hindex : piece.index = some index)
    (scan : Nat) : ∃ sub ∈ substitutions scan found, sub.index = index := by
  induction found generalizing scan with
  | nil => exact absurd hpiece List.not_mem_nil
  | cons first found ih =>
    unfold substitutions
    rcases List.mem_cons.mp hpiece with rfl | hlater
    · rw [hindex]
      exact ⟨_, List.mem_cons_self, rfl⟩
    · obtain ⟨sub, hsub, heq⟩ := ih hlater (scan + first.text.length)
      cases first.index with
      | none => exact ⟨sub, hsub, heq⟩
      | some other => exact ⟨sub, List.mem_cons_of_mem _ hsub, heq⟩

theorem lengths_le_substituted (hok : ∀ piece ∈ found, piece.Ok)
    (hnamed : ∀ piece ∈ found, piece.Named args) (scan : Nat) :
    lengths (fun index => (argument args index).length) (substitutions scan found) ≤
      widths (substitutions scan found) + substituted (found.flatMap (Piece.parts args)) := by
  induction found generalizing scan with
  | nil => exact Nat.le_refl _
  | cons piece found ih =>
    have hlater := ih (fun other h => hok other (List.mem_cons_of_mem _ h))
      (fun other h => hnamed other (List.mem_cons_of_mem _ h)) (scan + piece.text.length)
    rw [List.flatMap_cons, substituted_append, Piece.parts, substitutions]
    cases hindex : piece.index with
    | none => exact Nat.le_trans hlater (by dsimp only; omega)
    | some index =>
      have hvalue : (argument args index).length ≤ piece.text.length + substituted
          (if piece.text.length = 2 then [.inl '%']
          else if 0 < index ∧ index ≤ args.length then [.inr (argument args index)]
          else piece.text.map .inl) := by
        split
        case isTrue hshort =>
          obtain ⟨-, ⟨-, rfl⟩ | hlong⟩ := (hok piece List.mem_cons_self).placed index hindex
          · exact Nat.le_add_right_of_le (hok piece List.mem_cons_self).nonempty
          · omega
        case isFalse hlong =>
          rw [if_pos ((hnamed piece List.mem_cons_self index hindex).resolve_left hlong)]
          show _ ≤ _ + ([argument args index].flatten).length
          rw [List.flatten_singleton]
          omega
      unfold lengths widths at hlater ⊢
      rw [List.map_cons, List.sum_cons, List.map_cons, List.sum_cons]
      dsimp only at hlater ⊢
      omega

/-- **Positional formatting.** With fewer placeholders than an `int` counts, the call is right just if
every placeholder names an argument, each width is covered and the result fits the memory. -/
theorem vformat_faithful_iff {fmt : CString} {args : List CString}
    (hfew : (substitutions 0 (pieces fmt.chars)).length < 2 ^ 31) :
    Faithful fmt args ↔ Foreseen fmt args := by
  obtain ⟨hparts, htext, hok⟩ := pieces_spec args fmt.chars
  obtain ⟨hcount, hvalues, hboth, hmem⟩ := @lengths_le args _ hok 0
  have hbound := fmt.bound
  rw [htext] at hcount
  have hsubstitute : substitute fmt.chars (argument args) (substitutions 0 (pieces fmt.chars)) 0 =
      (pieces fmt.chars).flatMap (Piece.rendered (argument args)) := by
    rw [substitute_eq (show fmt.chars.drop 0 = _ from htext.symm) (Nat.le_refl 0)]
    rfl
  have hcall : vformat fmt args = if (substitutions 0 (pieces fmt.chars)).any
        (fun sub => args.length < sub.index) then .error .undefined
      else
        let length := (substitutions 0 (pieces fmt.chars)).foldl
          (lengthStep fun index => (argument args index).length)
          (((pieces fmt.chars).map (·.counted)).sum, false)
        let result := (pieces fmt.chars).flatMap (Piece.rendered (argument args))
        if 2 ^ 63 ≤ length.1 ∨ 2 ^ 63 ≤ result.length then .error .lengthError
        else .ok { underflow := length.2, reserved := length.1, result } := by
    rw [vformat, scanFormat_eq]
    dsimp only
    rw [Nat.mod_eq_of_lt (by omega), if_pos hfew, List.take_length, hsubstitute]
  constructor
  · rintro ⟨formatted, hok', hunderflow, hresult, -⟩
    rw [hcall] at hok'
    split at hok'
    · cases hok'
    rename_i hdefined
    dsimp only at hok'
    split at hok'
    · cases hok'
    rename_i hsizes
    obtain rfl := Except.ok.inj hok'
    have hlength : ((pieces fmt.chars).flatMap (Piece.rendered (argument args))).length =
        (charsOf ((pieces fmt.chars).flatMap (Piece.parts args))).length := by
      rw [← hparts]
      exact congrArg List.length hresult
    have hindices : ∀ piece ∈ pieces fmt.chars, ∀ index, piece.index = some index →
        index ≤ args.length := by
      intro piece hpiece index hindex
      obtain ⟨sub, hsub, rfl⟩ := exists_substitution hpiece hindex 0
      by_contra hlarge
      exact hdefined (List.any_eq_true.mpr ⟨sub, hsub, decide_eq_true (Nat.lt_of_not_le hlarge)⟩)
    refine ⟨(rendered_length_le hok hindices).2 hlength, covered_of_foldl hunderflow (by omega), ?_⟩
    rw [hparts, ← hlength]
    omega
  · rintro ⟨hnamed, hcovered, hshort⟩
    have hrendered := rendered_of_named hok hnamed
    rw [hparts] at hshort
    rw [← hrendered] at hshort
    obtain ⟨m, hfold, hm⟩ := foldl_of_covered hcovered (by omega)
    have hreserved := lengths_le_substituted hok hnamed 0
    have hdefined : ¬ (substitutions 0 (pieces fmt.chars)).any
        (fun sub => args.length < sub.index) = true := by
      intro hany
      obtain ⟨sub, hsub, hlarge⟩ := List.any_eq_true.mp hany
      obtain ⟨piece, hpiece, hindex⟩ := hmem sub hsub
      have hlarge := of_decide_eq_true hlarge
      rcases hnamed piece hpiece _ hindex with hescape | hargument
      · obtain ⟨-, hwide⟩ := (hok piece hpiece).placed _ hindex
        omega
      · omega
    refine ⟨{ underflow := false, reserved := m
              result := (pieces fmt.chars).flatMap (Piece.rendered (argument args)) }, ?_, rfl, ?_, ?_⟩
    · rw [hcall, if_neg hdefined, hfold]
      exact if_neg (by dsimp only; omega)
    · rw [hparts]
      exact hrendered
    · rw [hparts]
      dsimp only
      omega

/-- The format `abc%{1}`. -/
def sampleFormat : CString :=
  { chars := ['a', 'b', 'c', '%', openBrace, '1', closeBrace], terminated := by decide
    bound := by decide }

def sampleArgument : CString := { chars := ['x', 'y'], terminated := by decide, bound := by decide }

theorem pieces_sampleFormat : pieces sampleFormat.chars =
    [⟨['a'], none, 1⟩, ⟨['b'], none, 1⟩, ⟨['c'], none, 1⟩,
      ⟨['%', openBrace, '1', closeBrace], some 1, 1⟩] := by
  show pieces ('a' :: _) = _
  rw [pieces]
  show _ :: pieces ('b' :: _) = _
  rw [pieces]
  show _ :: _ :: pieces ('c' :: _) = _
  rw [pieces]
  show _ :: _ :: _ :: pieces ('%' :: _) = _
  rw [pieces]
  show _ :: _ :: _ :: _ :: pieces [] = _
  rw [pieces]
  rfl

theorem vformat_faithful_iff_sample : Faithful sampleFormat [sampleArgument] := by
  have hfew : (substitutions 0 (pieces sampleFormat.chars)).length < 2 ^ 31 := by
    rw [pieces_sampleFormat]
    decide
  refine (vformat_faithful_iff hfew).mpr ⟨?_, ?_, ?_⟩
  · rw [pieces_sampleFormat]
    intro piece hpiece index hindex
    simp only [List.mem_cons, List.not_mem_nil, or_false] at hpiece
    rcases hpiece with rfl | rfl | rfl | rfl <;> cases hindex
    exact Or.inr (by decide)
  · rw [pieces_sampleFormat]
    exact ⟨by decide, trivial⟩
  · rw [(pieces_spec [sampleArgument] sampleFormat.chars).1, pieces_sampleFormat]
    decide

/-- A placeholder at the front that stands for a short text: the predicted length wraps. -/
theorem shortArgument_thrown : ¬ Faithful
    { chars := ['%', openBrace, '1', closeBrace], terminated := by decide, bound := by decide }
    [sampleArgument] := by
  have hscan : scanFormat 0 ['%', openBrace, '1', closeBrace] = ([⟨0, 4, 1⟩], 1) := by
    rw [scanFormat]
    show (_ :: (scanFormat 4 []).1, (scanFormat 4 []).2 + 1) = _
    rw [scanFormat]
    rfl
  rintro ⟨formatted, hformatted, -⟩
  rw [vformat, hscan] at hformatted
  have hthrown : Except.error FormatError.lengthError = .ok formatted := hformatted
  cases hthrown

end StringFormat

end DeskflowPlus
