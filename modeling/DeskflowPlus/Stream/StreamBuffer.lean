import Mathlib.Data.List.Basic

/-!
# The byte queue of the streams

A stream buffer keeps its bytes in chunks, of which the first may be used up in part. Readers look
at the front, which may merge chunks, and pop it; writers fill the last chunk up and append others.
Whatever the chunks are, the buffer is a queue of bytes.
-/

namespace DeskflowPlus

structure StreamBuffer where
  chunks : List (List UInt8) := []
  headUsed : Nat := 0
  size : Nat := 0
  headUsed_le : headUsed ≤ (chunks.headD []).length
  size_add_headUsed : size + headUsed = chunks.flatten.length

namespace StreamBuffer

def kChunkSize : Nat := 4096

/-- The merging loop of `peek`, with the first chunk in hand. -/
def consolidate (headUsed n : Nat) : List UInt8 → List (List UInt8) → List (List UInt8)
  | head, [] => [head]
  | head, next :: rest =>
    if head.length - headUsed < n then consolidate headUsed n (head ++ next) rest
    else head :: next :: rest

/-- The discarding loop of `pop`: the chunks left, and how much of the first one is used up. -/
def discard : Nat → Nat → List (List UInt8) → List (List UInt8) × Nat
  | _, _, [] => ([], 0)
  | headUsed, n, head :: rest =>
    if head.length - headUsed ≤ n then discard 0 (n - (head.length - headUsed)) rest
    else (head :: rest, headUsed + n)

/-- The chunks that the loop of `write` appends, in as many rounds as there are bytes at most. -/
def split : Nat → List UInt8 → List (List UInt8)
  | 0, _ => []
  | rounds + 1, data =>
    if data = [] then [] else data.take kChunkSize :: split rounds (data.drop kChunkSize)

def fill (data : List UInt8) : List (List UInt8) → List (List UInt8)
  | [] => split data.length data
  | [last] =>
    if kChunkSize ≤ last.length then last :: split data.length data
    else
      (last ++ data.take (kChunkSize - last.length)) ::
        split data.length (data.drop (kChunkSize - last.length))
  | chunk :: next :: rest => chunk :: fill data (next :: rest)

theorem flatten_consolidate (headUsed n : Nat) (head : List UInt8) (rest : List (List UInt8)) :
    (consolidate headUsed n head rest).flatten = head ++ rest.flatten := by
  induction rest generalizing head with
  | nil => simp [consolidate]
  | cons next rest ih =>
    rw [consolidate]
    split
    · rw [ih, List.flatten_cons, List.append_assoc]
    · rfl

theorem length_le_head_consolidate (headUsed n : Nat) (head : List UInt8)
    (rest : List (List UInt8)) :
    head.length ≤ ((consolidate headUsed n head rest).headD []).length := by
  induction rest generalizing head with
  | nil => exact Nat.le_refl _
  | cons next rest ih =>
    rw [consolidate]
    split
    · have hmerged := ih (head ++ next)
      rw [List.length_append] at hmerged
      omega
    · exact Nat.le_refl _

theorem add_le_length_head_consolidate {headUsed n : Nat} {head : List UInt8}
    {rest : List (List UInt8)} (hused : headUsed ≤ head.length)
    (hn : headUsed + n ≤ (head ++ rest.flatten).length) :
    headUsed + n ≤ ((consolidate headUsed n head rest).headD []).length := by
  induction rest generalizing head with
  | nil =>
    rw [List.flatten_nil, List.append_nil] at hn
    exact hn
  | cons next rest ih =>
    rw [consolidate]
    by_cases hshort : head.length - headUsed < n
    · rw [if_pos hshort]
      apply ih
      · rw [List.length_append]
        omega
      · rw [List.append_assoc, ← List.flatten_cons]
        exact hn
    · rw [if_neg hshort]
      show headUsed + n ≤ head.length
      omega

theorem flatten_split {rounds : Nat} {data : List UInt8} (h : data.length ≤ rounds) :
    (split rounds data).flatten = data := by
  induction rounds generalizing data with
  | zero => exact (List.length_eq_zero_iff.mp (Nat.le_zero.mp h)).symm
  | succ rounds ih =>
    rw [split]
    by_cases hdata : data = []
    · rw [if_pos hdata, hdata, List.flatten_nil]
    · have hpos : 0 < data.length := List.length_pos_iff.mpr hdata
      have hchunk : 0 < kChunkSize := by decide
      have hless : (data.drop kChunkSize).length ≤ rounds := by
        rw [List.length_drop]
        omega
      rw [if_neg hdata, List.flatten_cons, ih hless, List.take_append_drop]

theorem flatten_fill (data : List UInt8) (chunks : List (List UInt8)) :
    (fill data chunks).flatten = chunks.flatten ++ data := by
  induction chunks with
  | nil => exact flatten_split (Nat.le_refl _)
  | cons chunk rest ih =>
    cases rest with
    | nil =>
      rw [fill]
      split
      · simp [flatten_split (Nat.le_refl data.length)]
      · have hless : (data.drop (kChunkSize - chunk.length)).length ≤ data.length := by simp
        simp [flatten_split hless]
    | cons next rest =>
      rw [fill, List.flatten_cons, ih, ← List.append_assoc, ← List.flatten_cons]

theorem length_head_le_fill (data : List UInt8) (chunks : List (List UInt8)) :
    (chunks.headD []).length ≤ ((fill data chunks).headD []).length := by
  match chunks with
  | [] => exact Nat.zero_le _
  | [last] =>
    rw [fill]
    split
    · exact Nat.le_refl _
    · show last.length ≤ (last ++ _).length
      rw [List.length_append]
      exact Nat.le_add_right _ _
  | chunk :: next :: rest => exact Nat.le_refl _

/-- What is left behind `n` bytes, and that the first chunk is not used up beyond its end. -/
theorem discard_spec {headUsed n : Nat} {chunks : List (List UInt8)}
    (hused : headUsed ≤ (chunks.headD []).length) (hn : headUsed + n < chunks.flatten.length) :
    (discard headUsed n chunks).1.flatten.drop (discard headUsed n chunks).2 =
        chunks.flatten.drop (headUsed + n) ∧
      (discard headUsed n chunks).2 ≤ ((discard headUsed n chunks).1.headD []).length ∧
      (discard headUsed n chunks).2 ≤ (discard headUsed n chunks).1.flatten.length := by
  induction chunks generalizing headUsed n with
  | nil => exact absurd hn (Nat.not_lt_zero _)
  | cons head rest ih =>
    replace hused : headUsed ≤ head.length := hused
    rw [List.flatten_cons, List.length_append] at hn
    rw [discard]
    by_cases hwhole : head.length - headUsed ≤ n
    · rw [if_pos hwhole]
      have hrest : 0 + (n - (head.length - headUsed)) < rest.flatten.length := by omega
      have hskip : headUsed + n = head.length + (n - (head.length - headUsed)) := by omega
      obtain ⟨hbytes, hlast⟩ := ih (Nat.zero_le _) hrest
      refine ⟨?_, hlast⟩
      rw [hbytes, Nat.zero_add, List.flatten_cons, hskip, ← List.drop_drop, List.drop_left]
    · rw [if_neg hwhole]
      refine ⟨rfl, ?_, ?_⟩
      · show headUsed + n ≤ head.length
        omega
      · show headUsed + n ≤ (head ++ rest.flatten).length
        rw [List.length_append]
        omega

def consolidateChunks (headUsed n : Nat) : List (List UInt8) → List (List UInt8)
  | [] => []
  | head :: rest => consolidate headUsed n head rest

@[simp]
theorem flatten_consolidateChunks (headUsed n : Nat) (chunks : List (List UInt8)) :
    (consolidateChunks headUsed n chunks).flatten = chunks.flatten := by
  cases chunks with
  | nil => rfl
  | cons head rest => exact flatten_consolidate headUsed n head rest

theorem length_headD_le_consolidateChunks (headUsed n : Nat) (chunks : List (List UInt8)) :
    (chunks.headD []).length ≤ ((consolidateChunks headUsed n chunks).headD []).length := by
  cases chunks with
  | nil => exact Nat.le_refl _
  | cons head rest => exact length_le_head_consolidate headUsed n head rest

theorem add_le_length_headD_consolidateChunks {headUsed n : Nat} {chunks : List (List UInt8)}
    (hused : headUsed ≤ (chunks.headD []).length) (hn : headUsed + n ≤ chunks.flatten.length) :
    headUsed + n ≤ ((consolidateChunks headUsed n chunks).headD []).length := by
  cases chunks with
  | nil => exact hn
  | cons head rest => exact add_le_length_head_consolidate hused hn

def bytes (buffer : StreamBuffer) : List UInt8 := buffer.chunks.flatten.drop buffer.headUsed

def empty : StreamBuffer where
  headUsed_le := Nat.zero_le _
  size_add_headUsed := rfl

/-- The first bytes, and the buffer with these bytes in its first chunk. -/
def peek (buffer : StreamBuffer) (n : Nat) : List UInt8 × StreamBuffer :=
  if n = 0 then ([], buffer)
  else
    let chunks := consolidateChunks buffer.headUsed n buffer.chunks
    (((chunks.headD []).drop buffer.headUsed).take n,
      { buffer with
        chunks
        headUsed_le := Nat.le_trans buffer.headUsed_le (length_headD_le_consolidateChunks _ _ _)
        size_add_headUsed := by
          rw [flatten_consolidateChunks]
          exact buffer.size_add_headUsed })

def pop (buffer : StreamBuffer) (n : Nat) : StreamBuffer :=
  if h : buffer.size ≤ n then empty
  else
    have hn : buffer.headUsed + n < buffer.chunks.flatten.length := by
      rw [← buffer.size_add_headUsed]
      omega
    have hspec := discard_spec buffer.headUsed_le hn
    { chunks := (discard buffer.headUsed n buffer.chunks).1
      headUsed := (discard buffer.headUsed n buffer.chunks).2
      size := buffer.size - n
      headUsed_le := hspec.2.1
      size_add_headUsed := by
        have hlength := congrArg List.length hspec.1
        have hsize := buffer.size_add_headUsed
        rw [List.length_drop, List.length_drop] at hlength
        omega }

def write (buffer : StreamBuffer) (data : List UInt8) : StreamBuffer where
  chunks := fill data buffer.chunks
  headUsed := buffer.headUsed
  size := buffer.size + data.length
  headUsed_le := Nat.le_trans buffer.headUsed_le (length_head_le_fill _ _)
  size_add_headUsed := by
    rw [flatten_fill, List.length_append, ← buffer.size_add_headUsed]
    omega

def getSize (buffer : StreamBuffer) : Nat := buffer.size

variable {buffer : StreamBuffer} {n : Nat} {data : List UInt8}

@[simp]
theorem bytes_empty : empty.bytes = [] := rfl

theorem getSize_eq : buffer.getSize = buffer.bytes.length := by
  have hsize := buffer.size_add_headUsed
  rw [bytes, List.length_drop, getSize]
  omega

theorem peek_fst (hn : n ≤ buffer.getSize) : (buffer.peek n).1 = buffer.bytes.take n := by
  rw [peek]
  by_cases hzero : n = 0
  · rw [if_pos hzero, hzero, List.take_zero]
  · rw [if_neg hzero]
    have hbound : buffer.headUsed + n ≤ buffer.chunks.flatten.length := by
      rw [← buffer.size_add_headUsed, Nat.add_comm]
      exact Nat.add_le_add_right hn _
    have hhead := add_le_length_headD_consolidateChunks buffer.headUsed_le hbound
    rw [bytes, ← flatten_consolidateChunks buffer.headUsed n buffer.chunks]
    dsimp only
    generalize consolidateChunks buffer.headUsed n buffer.chunks = chunks at hhead ⊢
    cases chunks with
    | nil => rfl
    | cons head rest =>
      replace hhead : buffer.headUsed + n ≤ head.length := hhead
      have hused : buffer.headUsed ≤ head.length := by omega
      have hrest : n ≤ (head.drop buffer.headUsed).length := by
        rw [List.length_drop]
        omega
      rw [List.flatten_cons, List.drop_append_of_le_length hused,
        List.take_append_of_le_length hrest]
      rfl

@[simp]
theorem bytes_peek_snd : (buffer.peek n).2.bytes = buffer.bytes := by
  rw [peek]
  by_cases hzero : n = 0
  · rw [if_pos hzero]
  · rw [if_neg hzero, bytes, bytes]
    dsimp only
    rw [flatten_consolidateChunks]

@[simp]
theorem bytes_pop : (buffer.pop n).bytes = buffer.bytes.drop n := by
  rw [pop]
  by_cases hall : buffer.size ≤ n
  · rw [dif_pos hall]
    rw [← getSize, getSize_eq] at hall
    exact (List.drop_eq_nil_of_le hall).symm
  · rw [dif_neg hall]
    have hn : buffer.headUsed + n < buffer.chunks.flatten.length := by
      rw [← buffer.size_add_headUsed]
      omega
    rw [bytes, bytes, List.drop_drop]
    exact (discard_spec buffer.headUsed_le hn).1

@[simp]
theorem bytes_write : (buffer.write data).bytes = buffer.bytes ++ data := by
  have hused : buffer.headUsed ≤ buffer.chunks.flatten.length := by
    rw [← buffer.size_add_headUsed]
    exact Nat.le_add_left _ _
  rw [bytes, bytes, write]
  dsimp only
  rw [flatten_fill, List.drop_append_of_le_length hused]

end StreamBuffer

end DeskflowPlus
