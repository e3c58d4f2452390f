import Mathlib.Algebra.Group.Nat.Defs
import DeskflowPlus.Stream.StreamBuffer

/-!
# The byte queue with counters of 32 bits

The stream buffer counts in 32 bits what it holds and how much of its first chunk is used up. The
first wraps only when too much is buffered. The second can wrap with few bytes in the buffer: every
`peek` may merge chunks into the first one, which then lives on while its bytes are popped and new
ones are written.
-/

namespace DeskflowPlus

structure WordBuffer where
  chunks : List (List UInt8) := []
  size : UInt32 := 0
  headUsed : UInt32 := 0

inductive QueueCall where
  | write (data : List UInt8)
  | peek (n : UInt32)
  | pop (n : UInt32)
  | getSize

inductive QueueAnswer where
  | done
  | bytes (bytes : List UInt8)
  | size (size : Nat)
  deriving DecidableEq

namespace WordBuffer

open StreamBuffer

/-- The first bytes, unless an assertion fails or they are not all in the first chunk. A used part
beyond the chunk's end would wrap the difference of the sizes, which ends the loop at once. -/
def peek (buffer : WordBuffer) (n : UInt32) : Option (List UInt8 × WordBuffer) :=
  if buffer.size < n then none
  else if n = 0 then some ([], buffer)
  else
    match buffer.chunks with
    | [] => none
    | head :: rest =>
      let chunks := consolidate buffer.headUsed.toNat n.toNat head rest
      if head.length < buffer.headUsed.toNat ∨
          (chunks.headD []).length < buffer.headUsed.toNat + n.toNat then none
      else
        some (((chunks.headD []).drop buffer.headUsed.toNat).take n.toNat, { buffer with chunks })

/-- The loop of `pop` and what follows it, unless the chunks run out. -/
def discardChunks (headUsed n : UInt32) : List (List UInt8) → Option (List (List UInt8) × UInt32)
  | [] => none
  | scan :: rest =>
    if headUsed.toNat ≤ scan.length ∧ scan.length - headUsed.toNat ≤ n.toNat then
      discardChunks 0 (n - (UInt32.ofNat scan.length - headUsed)) rest
    else some (scan :: rest, headUsed + n)

def pop (buffer : WordBuffer) (n : UInt32) : Option WordBuffer :=
  if buffer.size ≤ n then some {}
  else
    (discardChunks buffer.headUsed n buffer.chunks).map fun (chunks, headUsed) =>
      { chunks, size := buffer.size - n, headUsed }

/-- The loop of `write` from the chunk `scan` on, in as many rounds as there are bytes at most. -/
def appendChunks : Nat → List UInt8 → List UInt8 → Option (List (List UInt8))
  | 0, _, _ => none
  | rounds + 1, scan, data =>
    if kChunkSize < scan.length then none
    else
      let count := min (kChunkSize - scan.length) data.length
      if data.drop count = [] then some [scan ++ data.take count]
      else (appendChunks rounds [] (data.drop count)).map ((scan ++ data.take count) :: ·)

def write (buffer : WordBuffer) (data : List UInt8) : Option WordBuffer :=
  if data = [] then some buffer
  else
    let size := buffer.size + UInt32.ofNat data.length
    match buffer.chunks.getLast? with
    | none => (appendChunks data.length [] data).map fun chunks => { buffer with chunks, size }
    | some last =>
      if kChunkSize ≤ last.length then
        (appendChunks data.length [] data).map fun added =>
          { buffer with chunks := buffer.chunks ++ added, size }
      else
        (appendChunks data.length last data).map fun added =>
          { buffer with chunks := buffer.chunks.dropLast ++ added, size }

def step (buffer : WordBuffer) : QueueCall → Option (QueueAnswer × WordBuffer)
  | .write data => (buffer.write data).map (.done, ·)
  | .peek n => (buffer.peek n).map fun (bytes, buffer) => (.bytes bytes, buffer)
  | .pop n => (buffer.pop n).map (.done, ·)
  | .getSize => some (.size buffer.size.toNat, buffer)

def run (buffer : WordBuffer) : List QueueCall → Option (List QueueAnswer × WordBuffer)
  | [] => some ([], buffer)
  | call :: calls => do
    let (answer, buffer) ← buffer.step call
    let (answers, buffer) ← buffer.run calls
    return (answer :: answers, buffer)

end WordBuffer

namespace QueueCall

def onQueue (queue : List UInt8) : QueueCall → QueueAnswer × List UInt8
  | .write data => (.done, queue ++ data)
  | .peek n => (.bytes (queue.take n.toNat), queue)
  | .pop n => (.done, queue.drop n.toNat)
  | .getSize => (.size queue.length, queue)

def answers (queue : List UInt8) : List QueueCall → List QueueAnswer
  | [] => []
  | call :: calls => (call.onQueue queue).1 :: answers (call.onQueue queue).2 calls

/-- No call looks at more than there is, and what is buffered can be counted. -/
def Allowed (queue : List UInt8) : List QueueCall → Prop
  | [] => True
  | call :: calls =>
    (match call with
      | .write data => queue.length + data.length < 2 ^ 32
      | .peek n => n.toNat ≤ queue.length
      | .pop _ | .getSize => True) ∧
      Allowed (call.onQueue queue).2 calls

def Counts (buffer : WordBuffer) : QueueCall → Prop
  | .pop n =>
    buffer.size ≤ n ∨ (buffer.chunks.headD []).length ≤ buffer.headUsed.toNat + n.toNat ∨
      buffer.headUsed.toNat + n.toNat < 2 ^ 32
  | _ => True

def CountAll (buffer : WordBuffer) : List QueueCall → Prop
  | [] => True
  | call :: calls =>
    call.Counts buffer ∧ ∀ answer next, buffer.step call = some (answer, next) → CountAll next calls

end QueueCall

namespace WordBuffer

open StreamBuffer

structure Holds (buffer : WordBuffer) (queue : List UInt8) : Prop where
  headUsed_le : buffer.headUsed.toNat ≤ (buffer.chunks.headD []).length
  bytes : buffer.chunks.flatten.drop buffer.headUsed.toNat = queue
  size : buffer.size.toNat = queue.length

variable {buffer : WordBuffer} {queue : List UInt8}

theorem Holds.length (h : buffer.Holds queue) :
    buffer.chunks.flatten.length = buffer.headUsed.toNat + queue.length := by
  have hused : buffer.headUsed.toNat ≤ buffer.chunks.flatten.length := by
    refine Nat.le_trans h.headUsed_le ?_
    cases buffer.chunks with
    | nil => exact Nat.le_refl 0
    | cons head rest =>
      rw [List.flatten_cons, List.length_append]
      exact Nat.le_add_right _ _
  rw [← h.bytes, List.length_drop]
  omega

/-- What `peek` shows is in the first chunk afterwards. -/
theorem Holds.peek (h : buffer.Holds queue) {n : UInt32} (hn : n.toNat ≤ queue.length) :
    ∃ chunks, buffer.peek n = some (queue.take n.toNat, { buffer with chunks }) ∧
      Holds { buffer with chunks } queue ∧ chunks.flatten = buffer.chunks.flatten ∧
      (n ≠ 0 → buffer.headUsed.toNat + n.toNat ≤ (chunks.headD []).length) := by
  have hlength := h.length
  have hbytes := h.bytes
  have hused := h.headUsed_le
  have hsize : ¬ buffer.size < n := by
    rw [UInt32.lt_iff_toNat_lt, h.size]
    omega
  rw [WordBuffer.peek, if_neg hsize]
  by_cases hzero : n = 0
  · rw [if_pos hzero, hzero]
    exact ⟨_, rfl, h, rfl, fun hne => absurd rfl hne⟩
  · have hpos : 0 < n.toNat := by
      apply Nat.pos_of_ne_zero
      intro htoNat
      exact hzero (UInt32.toNat_inj.mp htoNat)
    rw [if_neg hzero]
    cases hchunks : buffer.chunks with
    | nil =>
      rw [hchunks, List.flatten_nil, List.length_nil] at hlength
      omega
    | cons head rest =>
      rw [hchunks] at hlength hbytes hused
      replace hused : buffer.headUsed.toNat ≤ head.length := hused
      have henough : buffer.headUsed.toNat + n.toNat ≤ (head ++ rest.flatten).length := by
        rw [← List.flatten_cons, hlength]
        omega
      have hhead := add_le_length_head_consolidate hused henough
      have hgrows := length_le_head_consolidate buffer.headUsed.toNat n.toNat head rest
      have hflatten := flatten_consolidate buffer.headUsed.toNat n.toNat head rest
      dsimp only
      rw [if_neg (by omega)]
      refine ⟨_, congrArg (fun bytes => some (bytes, _)) ?_,
        ⟨Nat.le_trans hused hgrows, ?_, h.size⟩, hflatten, fun _ => hhead⟩
      · rw [← hbytes, List.flatten_cons, ← hflatten]
        cases hmerged : consolidate buffer.headUsed.toNat n.toNat head rest with
        | nil =>
          rw [hmerged] at hhead
          exact absurd (Nat.le_trans (Nat.le_add_left _ _) hhead) (Nat.not_le_of_lt hpos)
        | cons first others =>
          rw [hmerged] at hhead hgrows
          replace hhead : buffer.headUsed.toNat + n.toNat ≤ first.length := hhead
          have hfirst : buffer.headUsed.toNat ≤ first.length := by omega
          have hrest : n.toNat ≤ (first.drop buffer.headUsed.toNat).length := by
            rw [List.length_drop]
            omega
          rw [List.flatten_cons, List.drop_append_of_le_length hfirst,
            List.take_append_of_le_length hrest]
          rfl
      · dsimp only
        rw [hflatten, ← List.flatten_cons]
        exact hbytes

theorem discardChunks_spec {headUsed n : UInt32} {chunks : List (List UInt8)}
    (hused : headUsed.toNat ≤ (chunks.headD []).length)
    (hn : headUsed.toNat + n.toNat < chunks.flatten.length)
    (hcounts : (chunks.headD []).length ≤ headUsed.toNat + n.toNat ∨
      headUsed.toNat + n.toNat < 2 ^ 32) :
    ∃ left used, discardChunks headUsed n chunks = some (left, used) ∧
      used.toNat ≤ (left.headD []).length ∧
      left.flatten.drop used.toNat = chunks.flatten.drop (headUsed.toNat + n.toNat) := by
  induction chunks generalizing headUsed n with
  | nil => exact absurd hn (Nat.not_lt_zero _)
  | cons head rest ih =>
    replace hused : headUsed.toNat ≤ head.length := hused
    replace hcounts : head.length ≤ headUsed.toNat + n.toNat ∨
      headUsed.toNat + n.toNat < 2 ^ 32 := hcounts
    have hbound := n.toNat_lt
    rw [List.flatten_cons, List.length_append] at hn
    rw [discardChunks]
    by_cases hwhole : head.length - headUsed.toNat ≤ n.toNat
    · have hskipped : (n - (UInt32.ofNat head.length - headUsed)).toNat =
          n.toNat - (head.length - headUsed.toNat) := by
        have := headUsed.toNat_lt
        rw [UInt32.toNat_sub, UInt32.toNat_sub, UInt32.toNat_ofNat']
        omega
      have hskip : headUsed.toNat + n.toNat =
          head.length + (n.toNat - (head.length - headUsed.toNat)) := by omega
      rw [if_pos ⟨hused, hwhole⟩, hskip, List.flatten_cons, ← List.drop_drop, List.drop_left,
        ← hskipped]
      have hzero : (0 : UInt32).toNat = 0 := rfl
      have hlater := @ih 0 (n - (UInt32.ofNat head.length - headUsed)) (Nat.zero_le _)
        (by rw [hskipped, hzero]; omega) (.inr (by rw [hskipped, hzero]; omega))
      rw [hzero, Nat.zero_add] at hlater
      exact hlater
    · have hadd : (headUsed + n).toNat = headUsed.toNat + n.toNat := by
        rw [UInt32.toNat_add]
        omega
      rw [if_neg (fun h => hwhole h.2)]
      refine ⟨_, _, rfl, ?_, ?_⟩
      · show (headUsed + n).toNat ≤ head.length
        omega
      · rw [hadd]

theorem Holds.pop (h : buffer.Holds queue) {n : UInt32} (hcounts : (QueueCall.pop n).Counts buffer) :
    ∃ next, buffer.pop n = some next ∧ next.Holds (queue.drop n.toNat) := by
  have hlength := h.length
  have hsize := h.size
  rw [WordBuffer.pop]
  by_cases hall : buffer.size ≤ n
  · rw [if_pos hall]
    rw [UInt32.le_iff_toNat_le] at hall
    rw [List.drop_eq_nil_of_le (by omega)]
    exact ⟨_, rfl, Nat.le_refl 0, rfl, rfl⟩
  · rw [if_neg hall]
    have hless := hall
    rw [UInt32.le_iff_toNat_le] at hless
    obtain ⟨left, used, hleft, hused, hbytes⟩ := discardChunks_spec h.headUsed_le (n := n)
      (by omega) (hcounts.resolve_left hall)
    refine ⟨_, by rw [hleft]; rfl, hused, ?_, ?_⟩
    · dsimp only
      rw [hbytes, ← h.bytes, List.drop_drop]
    · dsimp only
      rw [UInt32.toNat_sub_of_le _ _ (by rw [UInt32.le_iff_toNat_le]; omega), hsize,
        List.length_drop]

theorem appendChunks_spec {rounds : Nat} {scan data : List UInt8} (hscan : scan.length < kChunkSize)
    (hrounds : data.length < rounds + 1) (hdata : data ≠ []) :
    ∃ first more, appendChunks rounds scan data = some (first :: more) ∧
      scan.length ≤ first.length ∧ (first :: more).flatten = scan ++ data := by
  induction rounds generalizing scan data with
  | zero => exact absurd (List.length_eq_zero_iff.mp (by omega)) hdata
  | succ rounds ih =>
    have hpos : 0 < data.length := List.length_pos_iff.mpr hdata
    rw [appendChunks, if_neg (by omega)]
    dsimp only
    have hfirst (count : Nat) : scan.length ≤ (scan ++ data.take count).length := by
      rw [List.length_append]
      exact Nat.le_add_right _ _
    by_cases hlast : data.drop (min (kChunkSize - scan.length) data.length) = []
    · rw [if_pos hlast]
      refine ⟨_, [], rfl, hfirst _, ?_⟩
      have htake := List.take_append_drop (min (kChunkSize - scan.length) data.length) data
      rw [hlast, List.append_nil] at htake
      rw [List.flatten_cons, List.flatten_nil, List.append_nil, htake]
    · rw [if_neg hlast]
      have hless : (data.drop (min (kChunkSize - scan.length) data.length)).length < rounds + 1 := by
        rw [List.length_drop]
        omega
      obtain ⟨next, more, hmore, -, hflatten⟩ := @ih [] _ (by decide) hless hlast
      rw [hmore]
      refine ⟨_, next :: more, rfl, hfirst _, ?_⟩
      rw [List.flatten_cons, hflatten, List.nil_append, List.append_assoc, List.take_append_drop]

theorem Holds.write (h : buffer.Holds queue) {data : List UInt8}
    (hfits : queue.length + data.length < 2 ^ 32) :
    ∃ chunks size, buffer.write data = some { buffer with chunks, size } ∧
      Holds { buffer with chunks, size } (queue ++ data) ∧
      chunks.flatten = buffer.chunks.flatten ++ data := by
  have hlength := h.length
  have hused := h.headUsed_le
  rw [WordBuffer.write]
  by_cases hdata : data = []
  · rw [if_pos hdata, hdata, List.append_nil, List.append_nil]
    exact ⟨_, _, rfl, h, rfl⟩
  · rw [if_neg hdata]
    have hsize : (buffer.size + UInt32.ofNat data.length).toNat = (queue ++ data).length := by
      rw [UInt32.toNat_add, UInt32.toNat_ofNat', h.size, List.length_append]
      omega
    -- What is appended to chunks that the first chunk of the buffer is one of.
    have hholds (chunks : List (List UInt8)) (hhead :
        (buffer.chunks.headD []).length ≤ (chunks.headD []).length)
        (hflatten : chunks.flatten = buffer.chunks.flatten ++ data) :
        Holds { buffer with chunks, size := buffer.size + UInt32.ofNat data.length }
          (queue ++ data) ∧ chunks.flatten = buffer.chunks.flatten ++ data := by
      refine ⟨⟨Nat.le_trans hused hhead, ?_, hsize⟩, hflatten⟩
      dsimp only
      rw [hflatten, List.drop_append_of_le_length (by omega), h.bytes]
    have hchunk : ([] : List UInt8).length < kChunkSize := by decide
    obtain ⟨added, more, hadded, -, hflatten⟩ :=
      appendChunks_spec hchunk (Nat.lt_succ_self data.length) hdata
    obtain hchunks | ⟨init, last, hchunks⟩ := List.eq_nil_or_concat buffer.chunks
    · have hlast : buffer.chunks.getLast? = none := by rw [hchunks, List.getLast?_nil]
      rw [hlast]
      dsimp only
      rw [hadded]
      refine ⟨_, _, rfl, hholds _ ?_ ?_⟩
      · rw [hchunks]
        exact Nat.zero_le _
      · rw [hchunks, hflatten]
        rfl
    · rw [List.concat_eq_append] at hchunks
      have hlast : buffer.chunks.getLast? = some last := by rw [hchunks, List.getLast?_concat]
      have hinit : buffer.chunks.dropLast = init := by rw [hchunks, List.dropLast_concat]
      rw [hlast, hinit]
      dsimp only
      by_cases hfull : kChunkSize ≤ last.length
      · rw [if_pos hfull, hadded]
        refine ⟨_, _, rfl, hholds _ ?_ ?_⟩
        · rw [hchunks]
          cases init with
          | nil => exact Nat.le_refl _
          | cons head rest => exact Nat.le_refl _
        · rw [hchunks, List.flatten_append, hflatten, List.nil_append]
      · rw [if_neg hfull]
        obtain ⟨filled, others, hfilled, hlonger, hall⟩ :=
          appendChunks_spec (Nat.lt_of_not_le hfull) (Nat.lt_succ_self data.length) hdata
        rw [hfilled]
        refine ⟨_, _, rfl, hholds _ ?_ ?_⟩
        · rw [hchunks]
          cases init with
          | nil => exact hlonger
          | cons head rest => exact Nat.le_refl _
        · rw [hchunks, List.flatten_append, hall, List.flatten_append, List.flatten_singleton,
            List.append_assoc]

theorem step_write {data : List UInt8} {next : WordBuffer} (h : buffer.write data = some next) :
    buffer.step (.write data) = some (.done, next) :=
  congrArg (Option.map (QueueAnswer.done, ·)) h

theorem step_peek {n : UInt32} {bytes : List UInt8} {next : WordBuffer}
    (h : buffer.peek n = some (bytes, next)) : buffer.step (.peek n) = some (.bytes bytes, next) := by
  rw [WordBuffer.step, h]
  rfl

theorem step_pop {n : UInt32} {next : WordBuffer} (h : buffer.pop n = some next) :
    buffer.step (.pop n) = some (.done, next) :=
  congrArg (Option.map (QueueAnswer.done, ·)) h

theorem Holds.step (h : buffer.Holds queue) {call : QueueCall} {calls : List QueueCall}
    (hallowed : QueueCall.Allowed queue (call :: calls)) (hcounts : call.Counts buffer) :
    ∃ next, buffer.step call = some ((call.onQueue queue).1, next) ∧
      next.Holds (call.onQueue queue).2 := by
  cases call with
  | write data =>
    obtain ⟨chunks, size, hnext, hholds, -⟩ := h.write hallowed.1
    exact ⟨_, step_write hnext, hholds⟩
  | peek n =>
    obtain ⟨chunks, hnext, hholds, -⟩ := h.peek hallowed.1
    exact ⟨_, step_peek hnext, hholds⟩
  | pop n =>
    obtain ⟨next, hnext, hholds⟩ := h.pop hcounts
    exact ⟨next, step_pop hnext, hholds⟩
  | getSize => exact ⟨buffer, by rw [WordBuffer.step, h.size]; rfl, h⟩

theorem run_cons {call : QueueCall} {calls : List QueueCall} {answer : QueueAnswer}
    {answers : List QueueAnswer} {next last : WordBuffer}
    (hnext : buffer.step call = some (answer, next)) (hlast : next.run calls = some (answers, last)) :
    buffer.run (call :: calls) = some (answer :: answers, last) := by
  rw [WordBuffer.run, hnext, Option.bind_eq_bind, Option.bind_some]
  dsimp only
  rw [hlast]
  rfl

theorem holds_empty : Holds {} [] := ⟨Nat.le_refl 0, rfl, rfl⟩

theorem Holds.run (h : buffer.Holds queue) {calls : List QueueCall}
    (hallowed : QueueCall.Allowed queue calls) (hcounts : QueueCall.CountAll buffer calls) :
    ∃ next, buffer.run calls = some (QueueCall.answers queue calls, next) := by
  induction calls generalizing buffer queue with
  | nil => exact ⟨buffer, rfl⟩
  | cons call calls ih =>
    obtain ⟨next, hnext, hholds⟩ := h.step hallowed hcounts.1
    obtain ⟨last, hlast⟩ := ih hholds hallowed.2 (hcounts.2 _ _ hnext)
    exact ⟨last, run_cons hnext hlast⟩

/-- **The byte queue.** As long as the used part of the first chunk can be counted, no call fails
and every answer is that of the queue. -/
theorem answers_as_queue {calls : List QueueCall} (hallowed : QueueCall.Allowed [] calls)
    (hcounts : QueueCall.CountAll {} calls) :
    ∃ buffer, WordBuffer.run {} calls = some (QueueCall.answers [] calls, buffer) :=
  holds_empty.run hallowed hcounts

theorem answers_as_queue_two : ∃ buffer, WordBuffer.run {} [.write [7, 8], .pop 1, .peek 1] =
    some ([.done, .done, .bytes [8]], buffer) := by
  refine @answers_as_queue [.write [7, 8], .pop 1, .peek 1] ?_ ?_
  · exact ⟨by decide, trivial, by decide, trivial⟩
  · refine ⟨trivial, fun answer next h => ?_⟩
    cases show some (QueueAnswer.done, (⟨[[7, 8]], 2, 0⟩ : WordBuffer)) = some (answer, next) from h
    refine ⟨.inr (.inr (by decide)), fun answer next _ => ⟨trivial, fun _ _ _ => trivial⟩⟩

/-- A `pop` inside the first chunk adds to the part that is used up, however large that becomes. -/
theorem pop_inside {n : UInt32} (hsize : n < buffer.size)
    (hinside : buffer.headUsed.toNat + n.toNat < (buffer.chunks.headD []).length) :
    buffer.pop n = some
      { buffer with size := buffer.size - n, headUsed := buffer.headUsed + n } := by
  rw [WordBuffer.pop, if_neg (UInt32.not_le.mpr hsize)]
  cases hchunks : buffer.chunks with
  | nil =>
    rw [hchunks] at hinside
    exact absurd hinside (Nat.not_lt_zero _)
  | cons head rest =>
    rw [hchunks] at hinside
    replace hinside : buffer.headUsed.toNat + n.toNat < head.length := hinside
    rw [discardChunks, if_neg (by omega)]
    rfl

theorem peek_unused {first : UInt8} {more : List UInt8} {rest : List (List UInt8)}
    (hsize : buffer.size = 1) (hused : buffer.headUsed = 0)
    (hchunks : buffer.chunks = (first :: more) :: rest) :
    ∃ next, buffer.peek 1 = some ([first], next) := by
  have hmerged : consolidate 0 1 (first :: more) rest = (first :: more) :: rest := by
    cases rest with
    | nil => rfl
    | cons next others =>
      rw [consolidate, if_neg]
      exact Nat.not_lt_of_le (Nat.succ_le_succ (Nat.zero_le _))
  have hbound : ¬ (1 : UInt32) < 1 := by decide
  have hasked : ¬ (1 : UInt32) = 0 := by decide
  have hcount : (0 : UInt32).toNat = 0 ∧ (1 : UInt32).toNat = 1 := ⟨rfl, rfl⟩
  rw [WordBuffer.peek, hsize, hused, hchunks, if_neg hbound, if_neg hasked]
  dsimp only
  rw [hcount.1, hcount.2, hmerged, if_neg]
  · exact ⟨_, rfl⟩
  · rintro (hshort | hshort)
    · exact Nat.not_lt_zero _ hshort
    · exact Nat.not_lt_of_le (Nat.succ_le_succ (Nat.zero_le _)) hshort

/-- Calls after which one byte is left, the last of those that were written. -/
def wrappingCalls (old : List UInt8) (count popped : UInt32) : List QueueCall :=
  [.write old, .peek count, .pop popped, .write [1, 1], .peek 3, .pop 2, .peek 1]

variable {old : List UInt8} {count popped : UInt32}

theorem exists_drop_eq (hpopped : popped.toNat + 1 = old.length) :
    ∃ byte, old.drop popped.toNat = [byte] := by
  apply List.length_eq_one_iff.mp
  rw [List.length_drop]
  omega

theorem allowed_wrappingCalls (hcount : count.toNat = old.length)
    (hpopped : popped.toNat + 1 = old.length) :
    QueueCall.Allowed [] (wrappingCalls old count popped) := by
  obtain ⟨byte, hbyte⟩ := exists_drop_eq hpopped
  have hbound := count.toNat_lt
  refine ⟨?_, Nat.le_of_eq hcount, trivial, ?_, ?_, trivial, ?_, trivial⟩
  · show 0 + old.length < 2 ^ 32
    omega
  · show (old.drop popped.toNat).length + 2 < 2 ^ 32
    rw [hbyte]
    show 1 + 2 < 2 ^ 32
    decide
  · show 3 ≤ (old.drop popped.toNat ++ [1, 1]).length
    rw [hbyte]
    exact Nat.le_refl 3
  · show 1 ≤ ((old.drop popped.toNat ++ [1, 1]).drop 2).length
    rw [hbyte]
    exact Nat.le_refl 1

theorem exists_run_wrappingCalls {first : UInt8} {rest : List UInt8} (hcons : old = first :: rest)
    (hcount : count.toNat = old.length) (hpopped : popped.toNat + 1 = old.length)
    (hwraps : popped + 2 = 0) : ∃ answers buffer,
      WordBuffer.run {} (wrappingCalls old count popped) =
        some (answers ++ [.bytes [first]], buffer) := by
  obtain ⟨byte, hbyte⟩ := exists_drop_eq hpopped
  have hzero : (0 : UInt32).toNat = 0 := rfl
  have htwo : (2 : UInt32).toNat = 2 := rfl
  have hthree : (3 : UInt32).toNat = 3 := rfl
  have hsum : (0 + popped).toNat = popped.toNat := by rw [UInt32.zero_add]
  have hpos : count ≠ 0 := by
    intro hnone
    rw [hnone, hcons, List.length_cons] at hcount
    cases hcount
  obtain ⟨chunks₁, size₁, hwrite, hholds₁, hflatten₁⟩ :=
    @Holds.write _ _ holds_empty old (by have := count.toNat_lt; rw [List.length_nil]; omega)
  rw [List.nil_append] at hholds₁
  obtain ⟨chunks₂, hpeek, hholds₂, hflatten₂, hhead₂⟩ := hholds₁.peek (Nat.le_of_eq hcount)
  replace hhead₂ := hhead₂ hpos
  dsimp only at hhead₂
  have hinside : (0 : UInt32).toNat + popped.toNat < (chunks₂.headD []).length := by omega
  have hpop := @pop_inside ⟨chunks₂, size₁, 0⟩ popped
    (by rw [UInt32.lt_iff_toNat_lt, hholds₂.size]; omega) hinside
  obtain ⟨next, hnext, hholds₃⟩ := hholds₂.pop (n := popped)
    (.inr (.inr (by dsimp only; have := popped.toNat_lt; omega)))
  cases hpop.symm.trans hnext
  rw [hbyte] at hholds₃
  obtain ⟨chunks₄, size₄, hwrite₄, hholds₄, hflatten₄⟩ :=
    @Holds.write _ _ hholds₃ [1, 1] (by show 1 + 2 < 2 ^ 32; decide)
  obtain ⟨chunks₅, hpeek₅, hholds₅, hflatten₅, hhead₅⟩ :=
    hholds₄.peek (n := 3) (Nat.le_refl 3)
  obtain rfl : size₄ = 3 := UInt32.toNat_inj.mp hholds₅.size
  replace hhead₅ := hhead₅ (by decide)
  dsimp only at hhead₅
  rw [hsum, hthree] at hhead₅
  have hpop₆ := @pop_inside ⟨chunks₅, 3, 0 + popped⟩ 2 (show 2 < (3 : UInt32) by decide)
    (by dsimp only; omega)
  have hall : chunks₅.flatten = first :: (rest ++ [1, 1]) := by
    calc chunks₅.flatten = chunks₄.flatten := hflatten₅
      _ = chunks₂.flatten ++ [1, 1] := hflatten₄
      _ = chunks₁.flatten ++ [1, 1] := congrArg (· ++ [1, 1]) hflatten₂
      _ = first :: (rest ++ [1, 1]) := by
        rw [hflatten₁, hcons]
        rfl
  obtain ⟨more, others, rfl⟩ : ∃ more others, chunks₅ = (first :: more) :: others := by
    cases chunks₅ with
    | nil => exact absurd hhead₅ (Nat.not_succ_le_zero _)
    | cons head others =>
      cases head with
      | nil => exact absurd hhead₅ (Nat.not_succ_le_zero _)
      | cons byte more => exact ⟨more, others, by rw [(List.cons.inj hall).1]⟩
  obtain ⟨last, hlast⟩ := @peek_unused ⟨(first :: more) :: others, 3 - 2, 0 + popped + 2⟩ _ _ _
    rfl (by rw [UInt32.zero_add, hwraps]) rfl
  refine ⟨[.done, .bytes (old.take count.toNat), .done, .done, .bytes [byte, 1, 1], .done], last, ?_⟩
  apply run_cons (step_write hwrite)
  apply run_cons (step_peek hpeek)
  apply run_cons (step_pop hpop)
  apply run_cons (step_write hwrite₄)
  apply run_cons (step_peek hpeek₅)
  apply run_cons (step_pop hpop₆)
  exact run_cons (step_peek hlast) rfl

theorem getLast?_answers_wrappingCalls {byte : UInt8} (hbyte : old.drop popped.toNat = [byte]) :
    (QueueCall.answers [] (wrappingCalls old count popped)).getLast? = some (.bytes [1]) := by
  show some (QueueAnswer.bytes (((old.drop popped.toNat ++ [1, 1]).drop 2).take 1)) = _
  rw [hbyte]
  rfl

/-- The used part wraps to nothing, and the queue shows a byte that was popped before. -/
theorem popped_byte_shown : ¬ ∀ calls, QueueCall.Allowed [] calls →
    ∃ buffer, WordBuffer.run {} calls = some (QueueCall.answers [] calls, buffer) := by
  intro h
  have hmore : (List.replicate (2 ^ 32 - 2) (0 : UInt8)).length = 2 ^ 32 - 2 := List.length_replicate
  generalize List.replicate (2 ^ 32 - 2) (0 : UInt8) = more at hmore
  have hcount : UInt32.toNat 0xFFFFFFFF = (0 :: more : List UInt8).length := by
    rw [List.length_cons, hmore]
    decide
  have hpopped : UInt32.toNat 0xFFFFFFFE + 1 = (0 :: more : List UInt8).length := by
    rw [List.length_cons, hmore]
    decide
  obtain ⟨byte, hbyte⟩ := exists_drop_eq hpopped
  obtain ⟨buffer, hrun⟩ := h _ (allowed_wrappingCalls hcount hpopped)
  obtain ⟨answers, other, hwrong⟩ := exists_run_wrappingCalls rfl hcount hpopped (by decide)
  rw [hrun] at hwrong
  have hanswers := congrArg List.getLast? (congrArg Prod.fst (Option.some.inj hwrong))
  rw [List.getLast?_concat, getLast?_answers_wrappingCalls hbyte] at hanswers
  exact absurd hanswers (by decide)

end WordBuffer

end DeskflowPlus
