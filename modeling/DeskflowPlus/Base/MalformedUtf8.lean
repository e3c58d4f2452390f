import DeskflowPlus.Base.Unicode
import Mathlib.Data.List.TakeWhile
import Mathlib.Tactic.IntervalCases

/-!
# Malformed UTF-8

A sequence that is cut short ends before the first byte that cannot belong to it, unless it is
announced to be longer than what is left: then it takes all that is left. So what is read off some
bytes stays the same when others are behind them, just if no sequence is left unfinished that lacks
more bytes than are there.
-/

namespace DeskflowPlus

namespace Unicode

variable {data rest p q : List UInt8} {first : UInt8} {size : Nat}

/-- The bytes that continue a character of so many. -/
def continuations (size : Nat) (rest : List UInt8) : Nat :=
  ((rest.take (size - 1)).takeWhile isContinuation).length

def nextCharacter (first : UInt8) (rest : List UInt8) : Nat × List UInt8 :=
  match encodingLength first with
  | none => (s_invalid, rest)
  | some size =>
    if rest.length + 1 < size then (s_invalid, [])
    else if continuations size rest < size - 1 then (s_invalid, rest.drop (continuations size rest))
    else (checkCharacter size (extract size first (rest.take (size - 1))), rest.drop (size - 1))

theorem encodingLength_pos (h : encodingLength first = some size) : 1 ≤ size ∧ size ≤ 6 := by
  unfold encodingLength at h
  split_ifs at h <;> obtain rfl := Option.some.inj h <;> decide

theorem continuations_le : continuations size rest ≤ rest.length := by
  have htake := (List.takeWhile_sublist isContinuation (l := rest.take (size - 1))).length_le
  exact Nat.le_trans htake (List.length_take_le' _ _)

variable {count : Nat}

theorem mapM_getElem? {start : Nat} (h : start + count ≤ data.length) :
    (List.range' start count).mapM (data[·]?) = some ((data.drop start).take count) := by
  induction count generalizing start with
  | zero => rfl
  | succ count ih =>
    have hstart : start < data.length := by omega
    rw [List.range'_succ, List.mapM_cons, List.getElem?_eq_getElem hstart, ih (by omega),
      List.drop_eq_getElem_cons hstart, List.take_succ_cons]
    rfl

theorem fromUTF8_cons : fromUTF8 (first :: rest) = some (nextCharacter first rest) := by
  unfold fromUTF8 nextCharacter
  rw [List.getElem?_cons_zero, Option.bind_some]
  rcases hlength : encodingLength first with _ | size
  · rfl
  obtain ⟨hpositive, -⟩ := encodingLength_pos hlength
  dsimp only
  rw [List.length_cons]
  by_cases hshort : rest.length + 1 < size
  · rw [if_pos hshort, if_pos hshort]
  have hfollowing : (List.range' 1 (size - 1)).mapM ((first :: rest)[·]?) = some (rest.take (size - 1)) :=
    mapM_getElem? (by rw [List.length_cons]; omega)
  have hcount : (rest.take (size - 1)).length = size - 1 := by
    rw [List.length_take]
    omega
  rw [if_neg hshort, if_neg hshort, hfollowing, Option.map_some, hcount]
  congr 1
  refine if_congr Iff.rfl ?_ ?_
  · rw [Nat.add_comm, List.drop_succ_cons]
    rfl
  · obtain ⟨low, rfl⟩ := Nat.exists_eq_add_of_le' hpositive
    rfl

theorem length_nextCharacter : (nextCharacter first rest).2.length ≤ rest.length := by
  unfold nextCharacter
  split
  · exact Nat.le_refl _
  split_ifs
  · exact Nat.zero_le _
  · exact (List.drop_sublist _ _).length_le
  · exact (List.drop_sublist _ _).length_le

/-- The characters that are read off the bytes. -/
def characters : List UInt8 → List Nat
  | [] => []
  | first :: rest => (nextCharacter first rest).1 :: characters (nextCharacter first rest).2
termination_by data => data.length
decreasing_by
  exact Nat.lt_succ_of_le length_nextCharacter

theorem decodeRounds_eq {rounds : Nat} (h : data.length ≤ rounds) :
    decodeRounds rounds data = some (characters data) := by
  induction rounds generalizing data with
  | zero =>
    obtain rfl := List.eq_nil_of_length_eq_zero (Nat.le_zero.mp h)
    rw [decodeRounds, characters]
  | succ rounds ih =>
    rcases data with _ | ⟨first, rest⟩
    · rw [decodeRounds, characters]
    · have hrest : (nextCharacter first rest).2.length ≤ rounds :=
        Nat.le_trans length_nextCharacter (Nat.le_of_succ_le_succ h)
      rw [decodeRounds, fromUTF8_cons, Option.bind_some, ih hrest, characters]
      rfl

theorem decode_eq : decode data = some (characters data) := decodeRounds_eq (Nat.le_refl _)

/-- How many bytes are announced but not there. -/
def lacking (first : UInt8) (rest : List UInt8) : Nat :=
  (encodingLength first).getD 1 - (rest.length + 1)

/-- The last sequence, if it is announced to be longer than what is left. -/
def unfinished : List UInt8 → List UInt8
  | [] => []
  | first :: rest =>
    if 0 < lacking first rest then first :: rest else unfinished (nextCharacter first rest).2
termination_by data => data.length
decreasing_by
  exact Nat.lt_succ_of_le length_nextCharacter

/-- No sequence is unfinished, or one that could go on and lacks no more than so many bytes. -/
def Closed (p : List UInt8) (count : Nat) : Prop :=
  match unfinished p with
  | [] => True
  | first :: rest => lacking first rest ≤ count ∧ ∀ byte ∈ rest, isContinuation byte = true

def StartsAnew (q : List UInt8) : Prop := ∀ byte ∈ q.head?, isContinuation byte = false

theorem continuations_append (h : size - 1 ≤ rest.length) :
    continuations size (rest ++ q) = continuations size rest := by
  unfold continuations
  rw [List.take_append_of_le_length h]

theorem nextCharacter_append (h : lacking first rest = 0) : nextCharacter first (rest ++ q) =
    ((nextCharacter first rest).1, (nextCharacter first rest).2 ++ q) := by
  unfold nextCharacter
  unfold lacking at h
  rcases hlength : encodingLength first with _ | size
  · rfl
  rw [hlength, Option.getD_some] at h
  have henough : ¬ rest.length + 1 < size := by omega
  have henough' : ¬ (rest ++ q).length + 1 < size := by
    rw [List.length_append]
    omega
  have hcount := @continuations_le rest size
  dsimp only
  rw [if_neg henough', if_neg henough, continuations_append (by omega)]
  split_ifs with hcut
  · rw [List.drop_append_of_le_length hcount]
  · rw [List.take_append_of_le_length (by omega), List.drop_append_of_le_length (by omega)]

theorem nextCharacter_of_lacking (h : 0 < lacking first rest) :
    nextCharacter first rest = (s_invalid, []) := by
  unfold nextCharacter
  unfold lacking at h
  rcases hlength : encodingLength first with _ | size
  · rw [hlength, Option.getD_none] at h
    omega
  · rw [hlength, Option.getD_some] at h
    exact if_pos (by omega)

theorem lacking_append : lacking first (rest ++ q) = lacking first rest - q.length := by
  unfold lacking
  rw [List.length_append]
  omega

theorem takeWhile_append_startsAnew (hq : StartsAnew q) :
    (rest ++ q).takeWhile isContinuation = rest.takeWhile isContinuation := by
  have hstop : q.takeWhile isContinuation = [] := by
    rcases q with _ | ⟨byte, q⟩
    · rfl
    · rw [List.takeWhile_cons, hq byte rfl]
      rfl
  rw [List.takeWhile_append, hstop, List.append_nil]
  split_ifs with hall
  · exact (List.takeWhile_sublist _).eq_of_length hall |>.symm
  · rfl

theorem startsAnew_take (hq : StartsAnew q) : StartsAnew (q.take count) := by
  rcases count with _ | count
  · exact nofun
  · rcases q with _ | ⟨byte, q⟩
    · exact nofun
    · exact hq

theorem nextCharacter_startsAnew (hlacks : 0 < lacking first rest)
    (henough : lacking first rest ≤ q.length) (hq : StartsAnew q) :
    nextCharacter first (rest ++ q) = (s_invalid, rest.dropWhile isContinuation ++ q) := by
  unfold nextCharacter
  unfold lacking at hlacks henough
  rcases hlength : encodingLength first with _ | size
  · rw [hlength, Option.getD_none] at hlacks
    omega
  rw [hlength, Option.getD_some] at hlacks henough
  have hcount : continuations size (rest ++ q) = (rest.takeWhile isContinuation).length := by
    unfold continuations
    rw [List.take_append, List.take_of_length_le (by omega),
      takeWhile_append_startsAnew (startsAnew_take hq)]
  have hless := (List.takeWhile_sublist isContinuation (l := rest)).length_le
  have hthere : ¬ (rest ++ q).length + 1 < size := by
    rw [List.length_append]
    omega
  dsimp only
  rw [if_neg hthere, hcount, if_pos (by omega), List.drop_append_of_le_length hless]
  have hdrop : rest.drop (rest.takeWhile isContinuation).length = rest.dropWhile isContinuation :=
    (congrArg (List.drop _) List.takeWhile_append_dropWhile.symm).trans List.drop_left
  rw [hdrop]

theorem characters_cons : characters (first :: rest) =
    (nextCharacter first rest).1 :: characters (nextCharacter first rest).2 := by
  rw [characters]

theorem unfinished_cons : unfinished (first :: rest) =
    if 0 < lacking first rest then first :: rest else unfinished (nextCharacter first rest).2 := by
  rw [unfinished]

theorem characters_append (hclosed : Closed p q.length) (hq : StartsAnew q) :
    characters (p ++ q) = characters p ++ characters q := by
  induction p using characters.induct with
  | case1 => rw [characters, List.nil_append, List.nil_append]
  | case2 first rest ih =>
    rw [List.cons_append, characters_cons, characters_cons]
    unfold Closed at hclosed
    rw [unfinished_cons] at hclosed
    by_cases hlacks : 0 < lacking first rest
    · rw [if_pos hlacks] at hclosed
      obtain ⟨hthere, hall⟩ := hclosed
      have hdrop : rest.dropWhile isContinuation = [] := List.dropWhile_eq_nil_iff.mpr hall
      rw [nextCharacter_startsAnew hlacks hthere hq, nextCharacter_of_lacking hlacks, hdrop,
        List.nil_append, characters.eq_1]
      rfl
    · rw [if_neg hlacks] at hclosed
      rw [nextCharacter_append (by omega), ih hclosed, List.cons_append]

/-- A text that is valid and starts anew. -/
def letters (count : Nat) : List UInt8 := List.replicate count 0x41

theorem startsAnew_letters : StartsAnew (letters count) := by
  rcases count with _ | count
  · exact nofun
  · rintro byte ⟨⟩
    rfl

theorem characters_letters :
    characters (letters count) = List.replicate count 0x41 := by
  induction count with
  | zero => exact characters.eq_1
  | succ count ih =>
    rw [letters, List.replicate_succ, characters_cons]
    exact congrArg _ ih

theorem rest_of_letter (h : (nextCharacter first rest).1 = 0x41) :
    (nextCharacter first rest).2 = rest := by
  unfold nextCharacter at h ⊢
  rcases hlength : encodingLength first with _ | size
  · rfl
  rw [hlength] at h
  dsimp only at h ⊢
  split_ifs at h ⊢ with hshort hcut
  · cases h
  · cases h
  · dsimp only at h ⊢
    have hsize := encodingLength_pos hlength
    unfold checkCharacter at h
    split_ifs at h with hmin hsurrogate hnone
    · cases h
    · cases h
    · cases h
    · rw [h] at hmin
      have hone : size = 1 := by
        obtain ⟨hpositive, hle⟩ := hsize
        interval_cases size
        · rfl
        all_goals exact absurd (by decide) hmin
      rw [hone]
      rfl

theorem length_of_letters (h : characters data = List.replicate count 0x41) :
    data.length = count := by
  induction data using characters.induct generalizing count with
  | case1 =>
    rw [characters] at h
    exact (List.length_replicate (a := 0x41)).symm.trans (congrArg _ h.symm) |>.symm
  | case2 first rest ih =>
    rw [characters_cons] at h
    rcases count with _ | count
    · cases h
    · obtain ⟨hletter, htail⟩ := List.cons.inj (h.trans List.replicate_succ)
      have hlength := ih htail
      rw [rest_of_letter hletter] at hlength
      exact congrArg (· + 1) hlength

theorem characters_letters_ne (hpositive : 0 < count) (hopen : ¬ Closed p count) :
    characters (p ++ letters count) ≠ characters p ++ characters (letters count) := by
  have hlength : (letters count).length = count := List.length_replicate
  rw [characters_letters]
  induction p using characters.induct with
  | case1 =>
    refine absurd ?_ hopen
    unfold Closed
    rw [unfinished]
    trivial
  | case2 first rest ih =>
    unfold Closed at hopen
    rw [unfinished_cons] at hopen
    rw [List.cons_append, characters_cons, characters_cons]
    by_cases hlacks : 0 < lacking first rest
    · rw [if_pos hlacks] at hopen
      rw [nextCharacter_of_lacking hlacks, characters.eq_1]
      intro h
      by_cases hthere : lacking first rest ≤ count
      · have hleft : rest.dropWhile isContinuation ≠ [] := fun h =>
          hopen ⟨hthere, List.dropWhile_eq_nil_iff.mp h⟩
        rw [nextCharacter_startsAnew hlacks (by rw [hlength]; exact hthere) startsAnew_letters] at h
        have hletters := length_of_letters (List.cons.inj h).2
        rw [List.length_append, hlength] at hletters
        exact hleft (List.eq_nil_of_length_eq_zero (by omega))
      · have hlacks' : 0 < lacking first (rest ++ letters count) := by
          rw [lacking_append, hlength]
          omega
        rw [nextCharacter_of_lacking hlacks', characters.eq_1] at h
        have hnone : 0 = count :=
          (congrArg List.length (List.cons.inj h).2).trans List.length_replicate
        exact absurd hnone.symm (Nat.ne_of_gt hpositive)
    · rw [if_neg hlacks] at hopen
      rw [nextCharacter_append (by omega), List.cons_append]
      exact fun h => ih hopen (List.cons.inj h).2

/-- The loop consumes all bytes without a read past the end, and reads any so many bytes that start
anew behind them as it reads them alone. The number of bytes has 32 bits. -/
def Contained (p : List UInt8) (count : Nat) : Prop :=
  (∃ found, decode p = some found) ∧
    ∀ q, q.length = count → p.length + q.length < 2 ^ 32 → StartsAnew q →
      decode (p ++ q) = (decode p).bind fun before => (decode q).map (before ++ ·)

/-- **Malformed sequences.** They are contained just if no sequence is left unfinished that cannot go
on or lacks more bytes than are behind it, unless there are none or no room for them. -/
theorem contained_iff (p : List UInt8) (count : Nat) :
    Contained p count ↔ Closed p count ∨ count = 0 ∨ 2 ^ 32 ≤ p.length + count := by
  unfold Contained
  rw [and_iff_right ⟨_, decode_eq⟩]
  simp only [decode_eq, Option.bind_some, Option.map_some, Option.some.injEq]
  constructor
  · intro hall
    by_contra hnot
    rw [not_or, not_or, Nat.not_le] at hnot
    obtain ⟨hopen, hpositive, hroom⟩ := hnot
    have hlength : (letters count).length = count := List.length_replicate
    exact characters_letters_ne (Nat.pos_of_ne_zero hpositive) hopen
      (hall _ hlength (by rw [hlength]; exact hroom) startsAnew_letters)
  · rintro (hclosed | hnone | hfull) q rfl hroom hq
    · exact characters_append hclosed hq
    · obtain rfl : q = [] := List.eq_nil_of_length_eq_zero hnone
      rw [List.append_nil, characters.eq_1, List.append_nil]
    · exact absurd hroom (Nat.not_lt.mpr hfull)

/-- The first byte of three takes the letter behind it. -/
theorem letter_swallowed : ¬ Contained [0xe2] 1 := by
  intro h
  have hletter : StartsAnew [0x41] := @startsAnew_letters 1
  exact absurd (h.2 [0x41] rfl (by decide) hletter) (by decide)

end Unicode

end DeskflowPlus
