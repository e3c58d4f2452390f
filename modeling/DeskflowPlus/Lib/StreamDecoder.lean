import Mathlib.Data.List.Basic

/-!
# Incremental decoding of a segmented stream

A decoder looks at a buffer and either takes one frame off its front, asks for more, or refuses.
Bytes arrive in pieces cut anywhere; after each piece the caller drains the buffer until the decoder
asks for more. A code is self-delimiting when this yields the frames that were sent however the
stream was cut, and two local laws suffice: a whole encoding at the front is taken off exactly, and
a proper prefix of an encoding asks for more.
-/

namespace StreamDecoder

variable {β φ ε : Type*}

/-- What one look at a buffer says. -/
inductive Outcome (β φ ε : Type*) where
  | ready (frame : φ) (rest : List β)
  | needMore
  | failed (error : ε)

/-- A decoder whose every decoded frame takes bytes off the buffer. -/
structure Decoder (β φ ε : Type*) where
  decode : List β → Outcome β φ ε
  shrinks : ∀ {buffer frame rest}, decode buffer = .ready frame rest → rest.length < buffer.length

/-- The frames taken so far, the bytes left, and the refusal that stopped the decoder. -/
structure Drained (β φ ε : Type*) where
  frames : List φ
  buffer : List β
  failure : Option ε

namespace Decoder

variable (d : Decoder β φ ε)

/-- At most `fuel` looks at the buffer, until one of them takes nothing off it. -/
def drainFuel : Nat → List β → Drained β φ ε
  | 0, buffer => ⟨[], buffer, none⟩
  | fuel + 1, buffer =>
    match d.decode buffer with
    | .needMore => ⟨[], buffer, none⟩
    | .failed error => ⟨[], buffer, some error⟩
    | .ready frame rest =>
      let later := drainFuel fuel rest
      ⟨frame :: later.frames, later.buffer, later.failure⟩

/-- Decode until the decoder asks for more or refuses. Every frame takes at least one byte, so one
look for each byte and one for the end are enough. -/
def drain (buffer : List β) : Drained β φ ε :=
  d.drainFuel (buffer.length + 1) buffer

/-- Append a piece to the buffer and drain it; a decoder that has refused reads no further. -/
def receive (state : Drained β φ ε) (piece : List β) : Drained β φ ε :=
  match state.failure with
  | some _ => state
  | none =>
    let drained := d.drain (state.buffer ++ piece)
    ⟨state.frames ++ drained.frames, drained.buffer, drained.failure⟩

/-- Receive the pieces one by one, starting from an empty buffer. -/
def feed (pieces : List (List β)) : Drained β φ ε :=
  pieces.foldl d.receive ⟨[], [], none⟩

variable {buffer : List β}

theorem drainFuel_of_needMore (h : d.decode buffer = .needMore) (fuel : Nat) :
    d.drainFuel fuel buffer = ⟨[], buffer, none⟩ := by
  cases fuel <;> simp [drainFuel, h]

theorem drainFuel_of_ready {rest : List β} {frame : φ} (fuel : Nat)
    (h : d.decode buffer = .ready frame rest) :
    d.drainFuel (fuel + 1) buffer =
      ⟨frame :: (d.drainFuel fuel rest).frames, (d.drainFuel fuel rest).buffer,
        (d.drainFuel fuel rest).failure⟩ := by
  simp [drainFuel, h]

theorem drainFuel_congr {m n : Nat} (hm : buffer.length < m) (hn : buffer.length < n) :
    d.drainFuel m buffer = d.drainFuel n buffer := by
  induction m generalizing buffer n with
  | zero => omega
  | succ m ih =>
    obtain ⟨n, rfl⟩ : ∃ k, n = k + 1 := ⟨n - 1, by omega⟩
    cases hdecode : d.decode buffer with
    | needMore => rw [d.drainFuel_of_needMore hdecode, d.drainFuel_of_needMore hdecode]
    | failed error => simp [drainFuel, hdecode]
    | ready frame rest =>
      have hshort := d.shrinks hdecode
      have hrest := @ih rest n (by omega) (by omega)
      rw [d.drainFuel_of_ready m hdecode, d.drainFuel_of_ready n hdecode, hrest]

theorem drain_of_needMore (h : d.decode buffer = .needMore) :
    d.drain buffer = ⟨[], buffer, none⟩ :=
  d.drainFuel_of_needMore h _

theorem drain_of_ready {rest : List β} {frame : φ} (h : d.decode buffer = .ready frame rest) :
    d.drain buffer =
      ⟨frame :: (d.drain rest).frames, (d.drain rest).buffer, (d.drain rest).failure⟩ := by
  have hshort := d.shrinks h
  rw [drain, d.drainFuel_of_ready _ h, d.drainFuel_congr (n := rest.length + 1) hshort (by omega)]
  rfl

theorem drain_stops (buffer : List β) :
    ((d.drain buffer).failure = none → d.decode (d.drain buffer).buffer = .needMore) := by
  induction hlen : buffer.length using Nat.strongRecOn generalizing buffer with
  | ind n ih =>
    cases hdecode : d.decode buffer with
    | needMore => simp [d.drain_of_needMore hdecode, hdecode]
    | failed error => simp [drain, drainFuel, hdecode]
    | ready frame rest =>
      have hshort := d.shrinks hdecode
      have hrest := ih rest.length (by omega) rest rfl
      rw [d.drain_of_ready hdecode]
      exact hrest

/-- An encoder the decoder undoes locally: a whole encoding at the front of a buffer is taken off
exactly, and a proper prefix of an encoding, the empty one included, asks for more. -/
structure SelfDelimiting (encode : φ → Option (List β)) : Prop where
  whole : ∀ {frame bytes}, encode frame = some bytes →
    ∀ rest, d.decode (bytes ++ rest) = .ready frame rest
  cut : ∀ {frame bytes buffer}, encode frame = some bytes → buffer <+: bytes → buffer ≠ bytes →
    d.decode buffer = .needMore
  empty : d.decode [] = .needMore

/-- The concatenated encodings of the frames, when every one of them is encodable. -/
def stream (encode : φ → Option (List β)) : List φ → Option (List β)
  | [] => some []
  | frame :: frames =>
    match encode frame, stream encode frames with
    | some bytes, some later => some (bytes ++ later)
    | _, _ => none

variable {d} {encode : φ → Option (List β)}

theorem stream_cons_eq_some {frame : φ} {frames : List φ} {bytes : List β} :
    stream encode (frame :: frames) = some bytes ↔
      ∃ first later, encode frame = some first ∧ stream encode frames = some later ∧
        bytes = first ++ later := by
  cases hfirst : encode frame <;> cases hlater : stream encode frames <;>
    simp [stream, hfirst, hlater, eq_comm]

namespace SelfDelimiting

variable (law : d.SelfDelimiting encode)

include law

theorem drain_of_stream {frames : List φ} {buffer tail : List β}
    (h : stream encode frames = some (buffer ++ tail)) :
    ∃ later, frames = (d.drain buffer).frames ++ later ∧ (d.drain buffer).failure = none ∧
      stream encode later = some ((d.drain buffer).buffer ++ tail) := by
  induction frames generalizing buffer with
  | nil =>
    obtain ⟨rfl, rfl⟩ : buffer = [] ∧ tail = [] := by simpa [stream] using h
    exact ⟨[], by simp [d.drain_of_needMore law.empty, stream]⟩
  | cons frame frames ih =>
    obtain ⟨first, later, hfirst, hlater, hsplit⟩ := stream_cons_eq_some.mp h
    -- either the first encoding is whole in the buffer, or the buffer stops inside it
    rcases List.append_eq_append_iff.mp hsplit with ⟨rest, hwhole, htail⟩ | ⟨rest, hbuffer, hlater'⟩
    · by_cases hexact : buffer = first
      · subst hexact
        obtain rfl : rest = [] := by simpa using hwhole
        have hready := law.whole hfirst []
        obtain ⟨remaining, hframes, hfailure, hstream⟩ := @ih [] (by simpa [htail])
        rw [List.append_nil] at hready
        exact ⟨remaining, by simpa [d.drain_of_ready hready] using hframes,
          by simpa [d.drain_of_ready hready] using hfailure,
          by simpa [d.drain_of_ready hready] using hstream⟩
      · have hneed := law.cut hfirst ⟨rest, hwhole.symm⟩ hexact
        exact ⟨frame :: frames, by simp [d.drain_of_needMore hneed],
          by simp [d.drain_of_needMore hneed], by simpa [d.drain_of_needMore hneed] using h⟩
    · have hready := law.whole hfirst rest
      obtain ⟨remaining, hframes, hfailure, hstream⟩ := @ih rest (by rw [← hlater', hlater])
      rw [← hbuffer] at hready
      exact ⟨remaining, by simpa [d.drain_of_ready hready] using hframes,
        by simpa [d.drain_of_ready hready] using hfailure,
        by simpa [d.drain_of_ready hready] using hstream⟩

theorem stream_of_needMore {frames : List φ} {buffer : List β}
    (h : stream encode frames = some buffer) (hneed : d.decode buffer = .needMore) :
    frames = [] ∧ buffer = [] := by
  cases frames with
  | nil => simpa [stream, eq_comm] using h
  | cons frame frames =>
    obtain ⟨first, later, hfirst, _, rfl⟩ := stream_cons_eq_some.mp h
    rw [law.whole hfirst later] at hneed
    exact absurd hneed (by simp)

theorem foldl_receive {pieces : List (List β)} {state : Drained β φ ε} {frames : List φ}
    (hfailure : state.failure = none) (hneed : d.decode state.buffer = .needMore)
    (h : stream encode frames = some (state.buffer ++ pieces.flatten)) :
    pieces.foldl d.receive state = ⟨state.frames ++ frames, [], none⟩ := by
  induction pieces generalizing state frames with
  | nil =>
    obtain ⟨rfl, hbuffer⟩ := law.stream_of_needMore (by simpa using h) hneed
    obtain ⟨taken, buffer, failure⟩ := state
    simp_all
  | cons piece pieces ih =>
    have hsplit : stream encode frames = some (state.buffer ++ piece ++ pieces.flatten) := by
      simpa using h
    obtain ⟨later, hframes, hdrained, hstream⟩ := law.drain_of_stream hsplit
    have hstops := d.drain_stops (state.buffer ++ piece) hdrained
    have hreceive : d.receive state piece =
        { d.drain (state.buffer ++ piece) with
          frames := state.frames ++ (d.drain (state.buffer ++ piece)).frames } := by
      simp [receive, hfailure]
    generalize d.drain (state.buffer ++ piece) = drained at hframes hdrained hstream hstops hreceive
    have hlater := @ih { drained with frames := state.frames ++ drained.frames } later
      hdrained hstops hstream
    rw [List.foldl_cons, hreceive, hlater, hframes, List.append_assoc]

/-- **Segmentation does not matter.** However the encodings of the frames are cut into pieces,
receiving the pieces one by one yields exactly the frames and leaves nothing in the buffer. -/
theorem feed_stream {frames : List φ} {pieces : List (List β)}
    (h : stream encode frames = some pieces.flatten) : d.feed pieces = ⟨frames, [], none⟩ := by
  have hfold := @foldl_receive _ _ _ d encode law pieces ⟨[], [], none⟩ frames rfl law.empty h
  simpa [feed] using hfold

end SelfDelimiting

end Decoder

end StreamDecoder
