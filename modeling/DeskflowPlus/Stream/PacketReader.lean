import DeskflowPlus.Stream.PacketReadiness

/-!
# The packets that are ready

For its reader the packet filter is the rest of the packet in hand and the packets behind it: a read
takes no more than the packet in hand has left, and behind its last byte goes on to the next packet.
`ProtocolUtil::read` reads on until it has all bytes it wants, across the ends of packets.
-/

namespace DeskflowPlus

/-- No packet is in hand when the rest is empty. -/
structure PacketReader where
  current : List UInt8 := []
  behind : List (List UInt8) := []

namespace PacketReader

def next : List (List UInt8) → PacketReader
  | [] => {}
  | payload :: behind => { current := payload, behind }

def inside (left : List UInt8) (behind : List (List UInt8)) : PacketReader :=
  if left = [] then next behind else { current := left, behind }

def read (reader : PacketReader) (n : Nat) : List UInt8 × PacketReader :=
  if n = 0 ∨ reader.current = [] then ([], reader)
  else (reader.current.take n, inside (reader.current.drop n) reader.behind)

def arrive (reader : PacketReader) (packets : List (List UInt8)) : PacketReader :=
  if reader.current = [] then next (reader.behind ++ packets)
  else { reader with behind := reader.behind ++ packets }

/-- How many bytes there are at all. -/
def size (reader : PacketReader) : Nat := reader.current.length + reader.behind.flatten.length

/-- The loop of `ProtocolUtil::read`, whose every round but the last one reads something. -/
def readRounds : Nat → Nat → PacketReader → Option (List UInt8) × PacketReader
  | _, 0, reader => (some [], reader)
  | 0, _ + 1, reader => (none, reader)
  | rounds + 1, count + 1, reader =>
    let (data, reader) := reader.read (count + 1)
    -- bail if stream has hungup
    if data = [] then (none, reader)
    else
      let (more, reader) := readRounds rounds (count + 1 - data.length) reader
      (more.map (data ++ ·), reader)

def readAll (count : Nat) (reader : PacketReader) : Option (List UInt8) × PacketReader :=
  readRounds count count reader

/-- `while (m_stream->read(nullptr, 4));` -/
def discard : Nat → PacketReader → PacketReader
  | 0, reader => reader
  | rounds + 1, reader =>
    let (data, reader) := reader.read 4
    if data = [] then reader else discard rounds reader

variable {left data : List UInt8} {behind : List (List UInt8)} {count n : Nat}
  {reader : PacketReader}

@[simp]
theorem inside_nil : inside [] behind = next behind := rfl

theorem inside_of_ne (h : left ≠ []) : inside left behind = { current := left, behind } :=
  if_neg h

theorem size_next {packets : List (List UInt8)} : (next packets).size = packets.flatten.length := by
  cases packets with
  | nil => rfl
  | cons payload behind =>
    rw [List.flatten_cons, List.length_append]
    rfl

theorem size_inside : (inside left behind).size = left.length + behind.flatten.length := by
  by_cases hleft : left = []
  · rw [hleft, inside_nil, size_next, List.length_nil, Nat.zero_add]
  · rw [inside_of_ne hleft]
    rfl

theorem size_inside_nil : (inside left []).size = left.length := size_inside

theorem read_inside (hcount : count ≠ 0) (hleft : left ≠ []) :
    (inside left behind).read count = (left.take count, inside (left.drop count) behind) := by
  rw [inside_of_ne hleft]
  exact if_neg (not_or.mpr ⟨hcount, hleft⟩)

theorem readAll_inside (h : count ≤ left.length) :
    readAll count (inside left behind) =
      (some (left.take count), inside (left.drop count) behind) := by
  cases count with
  | zero => rfl
  | succ count =>
    have hleft : left ≠ [] := by
      rintro rfl
      exact absurd h (Nat.not_succ_le_zero count)
    have htaken : left.take (count + 1) ≠ [] := by simp [hleft]
    have hlength : (left.take (count + 1)).length = count + 1 := List.length_take_of_le h
    rw [readAll, readRounds, read_inside (Nat.succ_ne_zero count) hleft]
    dsimp only
    rw [if_neg htaken, hlength, Nat.sub_self]
    cases count <;> simp [readRounds]

theorem readAll_short (h : left.length < count) :
    readAll count (inside left []) = (none, {}) := by
  obtain ⟨count, rfl⟩ := Nat.exists_eq_succ_of_ne_zero (Nat.ne_of_gt (Nat.zero_lt_of_lt h))
  have hnone (count rounds : Nat) : readRounds rounds (count + 1) {} = (none, {}) := by
    cases rounds <;> rfl
  by_cases hleft : left = []
  · rw [hleft]
    exact hnone count (count + 1)
  have hall : left.take (count + 1) = left := List.take_of_length_le h.le
  have hrest : left.drop (count + 1) = [] := List.drop_of_length_le h.le
  obtain ⟨missing, hmissing⟩ : ∃ missing, count + 1 - left.length = missing + 1 :=
    ⟨count - left.length, by omega⟩
  rw [readAll, readRounds, read_inside (Nat.succ_ne_zero count) hleft, hall, hrest]
  dsimp only
  rw [if_neg hleft, hmissing, inside_nil, next, hnone]
  rfl

theorem discard_inside {rounds : Nat} (h : left.length ≤ rounds) :
    discard rounds (inside left []) = {} := by
  induction rounds generalizing left with
  | zero =>
    rw [List.length_eq_zero_iff.mp (Nat.le_zero.mp h)]
    rfl
  | succ rounds ih =>
    by_cases hleft : left = []
    · rw [hleft]
      rfl
    have htaken : left.take 4 ≠ [] := by simp [hleft]
    have hpos : 0 < left.length := List.length_pos_iff.mpr hleft
    rw [discard, read_inside (by decide) hleft]
    dsimp only
    rw [if_neg htaken]
    apply ih
    rw [List.length_drop]
    omega

end PacketReader

end DeskflowPlus
