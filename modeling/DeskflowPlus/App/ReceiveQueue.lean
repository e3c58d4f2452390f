import DeskflowPlus.Lib.Monitor
import DeskflowPlus.Transfer.FrameCodec

/-!
# The queue of the receive pipeline

The network thread puts frames into the queue, the worker takes them out one by one and processes
them without the lock. The bytes of the queued frames are counted beside them, at other moments than
the queue changes; pausing keeps the worker from taking the next frame, and stopping empties the
queue for good.
-/

namespace DeskflowPlus.App

open Transfer

def kMaximumQueuedReceiveBytes : UInt64 := 32 * 1024 * 1024

def frameBytes (frame : Frame) : UInt64 :=
  .ofNat kFixedHeaderBytes + .ofNat frame.metadata.length + .ofNat frame.payload.length

/-- The fields of a pipeline behind its mutex. -/
structure ReceiveQueue where
  frames : List Frame := []
  queuedBytes : UInt64 := 0
  stopping : Bool := false
  paused : Bool := false

structure ReceiveShared where
  queue : ReceiveQueue := {}
  accepted : List Frame := []

inductive ReceiveThread where
  | worker
  | caller (id : Nat)
  deriving DecidableEq

/-- Where a thread stands outside its sections. The worker keeps what it has processed. -/
inductive ReceivePoint where
  | caller (answer : Option Bool)
  | looping (processed : List Frame)
  | processing (processed : List Frame) (frame : Frame)
  | failing (processed : List Frame)
  | ended (processed : List Frame)

inductive ReceiveInput where
  | enqueue (frame : Frame)
  | stop
  | pause
  | resume
  | proceed
  | processed (succeeds : Bool)

namespace ReceiveQueue

abbrev Section := CriticalSection ReceiveShared ReceivePoint

def update (effect : ReceiveQueue → ReceiveQueue) (next : ReceiveShared → Section) : Section :=
  .access (fun shared => { shared with queue := effect shared.queue }) next

def enqueue (frame : Frame) : Section :=
  let bytes := frameBytes frame
  update id fun shared =>
    if shared.queue.stopping then .leave (.caller (some false))
    else if bytes > kMaximumQueuedReceiveBytes ∨
        shared.queue.queuedBytes > kMaximumQueuedReceiveBytes - bytes then
      .leave (.caller (some false))
    else
      .access
        (fun shared =>
          { queue := { shared.queue with frames := shared.queue.frames ++ [frame] }
            accepted := shared.accepted ++ [frame] })
        fun _ => update (fun queue => { queue with queuedBytes := queue.queuedBytes + bytes })
          fun _ => .leave (.caller (some true))

def stop : Section :=
  update (fun queue => { queue with stopping := true }) fun _ =>
    update (fun queue => { queue with frames := [] }) fun _ =>
      update (fun queue => { queue with queuedBytes := 0 }) fun _ => .leave (.caller none)

def pause : Section :=
  update (fun queue => { queue with paused := true }) fun _ => .leave (.caller none)

def resume : Section :=
  update (fun queue => { queue with paused := false }) fun _ => .leave (.caller none)

/-- The wait for a frame gives the lock back and begins again, woken or not. -/
def dequeue (processed : List Frame) : Section :=
  update id fun shared =>
    if (shared.queue.frames.isEmpty ∨ shared.queue.paused) ∧ ¬ shared.queue.stopping then
      .leave (.looping processed)
    else if shared.queue.stopping then .leave (.ended processed)
    else
      match shared.queue.frames with
      | [] => .leave (.looping processed)
      | frame :: _ =>
        update (fun queue => { queue with frames := queue.frames.tail }) fun _ =>
          update (fun queue => { queue with queuedBytes := queue.queuedBytes - frameBytes frame })
            fun _ => .leave (.processing processed frame)

def giveUp (processed : List Frame) : Section :=
  update (fun queue => { queue with stopping := true }) fun _ => .leave (.ended processed)

end ReceiveQueue

open ReceiveQueue in
def receivePipeline : Monitor ReceiveThread ReceiveShared ReceivePoint ReceiveInput where
  start shared locals :=
    shared = {} ∧ locals .worker = .looping [] ∧ ∀ id, locals (.caller id) = .caller none
  critical
    | .caller _, .caller _, .enqueue frame => some (enqueue frame)
    | .caller _, .caller _, .stop => some stop
    | .caller _, .caller _, .pause => some pause
    | .caller _, .caller _, .resume => some resume
    | .worker, .looping processed, .proceed => some (dequeue processed)
    | .worker, .failing processed, .proceed => some (giveUp processed)
    | _, _, _ => none
  move
    | .worker, .processing processed frame, .processed succeeds =>
      some (if succeeds then .looping (processed ++ [frame]) else .failing (processed ++ [frame]))
    | _, _, _ => none

namespace ReceiveQueue

structure Accounted (queue : ReceiveQueue) : Prop where
  counted : queue.queuedBytes.toNat = (queue.frames.map fun frame => (frameBytes frame).toNat).sum
  bounded : queue.queuedBytes ≤ kMaximumQueuedReceiveBytes

def Bounded (shared : ReceiveShared) : Prop :=
  shared.queue.queuedBytes ≤ kMaximumQueuedReceiveBytes

/-- The frames that the worker has taken out. -/
def handed : ReceivePoint → List Frame
  | .caller _ => []
  | .looping processed | .failing processed | .ended processed => processed
  | .processing processed frame => processed ++ [frame]

variable {shared : ReceiveShared} {frame : Frame}

theorem add_le_of_room {bytes queued : UInt64}
    (h : ¬ (bytes > kMaximumQueuedReceiveBytes ∨ queued > kMaximumQueuedReceiveBytes - bytes)) :
    queued.toNat + bytes.toNat ≤ kMaximumQueuedReceiveBytes.toNat := by
  obtain ⟨hbytes, hqueued⟩ := not_or.mp h
  have hfits : bytes ≤ kMaximumQueuedReceiveBytes := UInt64.not_lt.mp hbytes
  have hroom := UInt64.le_iff_toNat_le.mp (UInt64.not_lt.mp hqueued)
  rw [UInt64.toNat_sub_of_le _ _ hfits] at hroom
  have hsize := UInt64.le_iff_toNat_le.mp hfits
  omega

theorem toNat_add_of_room {bytes queued : UInt64}
    (h : queued.toNat + bytes.toNat ≤ kMaximumQueuedReceiveBytes.toNat) :
    (queued + bytes).toNat = queued.toNat + bytes.toNat := by
  have hbound : kMaximumQueuedReceiveBytes.toNat < 2 ^ 64 := UInt64.toNat_lt _
  rw [UInt64.toNat_add]
  exact Nat.mod_eq_of_lt (by omega)

theorem exec_enqueue (frame : Frame) (shared : ReceiveShared) :
    (enqueue frame).exec shared = (shared, .caller (some false)) ∨
      shared.queue.stopping = false ∧
        shared.queue.queuedBytes.toNat + (frameBytes frame).toNat ≤
          kMaximumQueuedReceiveBytes.toNat ∧
        (enqueue frame).exec shared =
          ({ queue :=
              { shared.queue with
                frames := shared.queue.frames ++ [frame]
                queuedBytes := shared.queue.queuedBytes + frameBytes frame }
             accepted := shared.accepted ++ [frame] }, .caller (some true)) := by
  unfold enqueue update
  dsimp only [CriticalSection.exec]
  split
  · exact .inl rfl
  rename_i hstopping
  split
  · exact .inl rfl
  · rename_i hroom
    exact .inr ⟨eq_false_of_ne_true hstopping, add_le_of_room hroom, rfl⟩

theorem exec_dequeue (processed : List Frame) (shared : ReceiveShared) :
    (dequeue processed).exec shared = (shared, .looping processed) ∨
      shared.queue.stopping = true ∧
        (dequeue processed).exec shared = (shared, .ended processed) ∨
      ∃ frame rest, shared.queue.stopping = false ∧ shared.queue.paused = false ∧
        shared.queue.frames = frame :: rest ∧
        (dequeue processed).exec shared =
          ({ shared with
             queue :=
              { shared.queue with
                frames := rest
                queuedBytes := shared.queue.queuedBytes - frameBytes frame } },
            .processing processed frame) := by
  obtain ⟨⟨frames, queuedBytes, stopping, paused⟩, accepted⟩ := shared
  unfold dequeue update
  dsimp only [CriticalSection.exec, id]
  split
  · exact .inl rfl
  rename_i hwaits
  split
  · rename_i hstopping
    exact .inr (.inl ⟨hstopping, rfl⟩)
  rename_i hstopping
  have hpaused : paused = false :=
    eq_false_of_ne_true fun hpaused => hwaits ⟨.inr hpaused, hstopping⟩
  split
  · exact .inl rfl
  · exact .inr (.inr ⟨_, _, eq_false_of_ne_true hstopping, hpaused, rfl, rfl⟩)

theorem Accounted.enqueue {queue : ReceiveQueue} (h : queue.Accounted)
    (hroom : queue.queuedBytes.toNat + (frameBytes frame).toNat ≤
      kMaximumQueuedReceiveBytes.toNat) :
    Accounted
      { queue with
        frames := queue.frames ++ [frame]
        queuedBytes := queue.queuedBytes + frameBytes frame } where
  counted := by
    show (queue.queuedBytes + frameBytes frame).toNat = _
    rw [toNat_add_of_room hroom, List.map_append, List.sum_append, h.counted]
    rfl
  bounded := by
    show queue.queuedBytes + frameBytes frame ≤ kMaximumQueuedReceiveBytes
    rw [UInt64.le_iff_toNat_le, toNat_add_of_room hroom]
    exact hroom

theorem Accounted.dequeue {queue : ReceiveQueue} (h : queue.Accounted) {rest : List Frame}
    (hframes : queue.frames = frame :: rest) :
    Accounted
      { queue with
        frames := rest
        queuedBytes := queue.queuedBytes - frameBytes frame } := by
  have hcounted := h.counted
  rw [hframes, List.map_cons, List.sum_cons] at hcounted
  have hle : frameBytes frame ≤ queue.queuedBytes := UInt64.le_iff_toNat_le.mpr (by omega)
  have hbounded := UInt64.le_iff_toNat_le.mp h.bounded
  constructor
  · show (queue.queuedBytes - frameBytes frame).toNat = _
    rw [UInt64.toNat_sub_of_le _ _ hle]
    exact Nat.sub_eq_of_eq_add' hcounted
  · show queue.queuedBytes - frameBytes frame ≤ kMaximumQueuedReceiveBytes
    rw [UInt64.le_iff_toNat_le, UInt64.toNat_sub_of_le _ _ hle]
    omega

structure Kept (shared : ReceiveShared) (worker : ReceivePoint) : Prop where
  accounted : shared.queue.Accounted
  first : handed worker <+: shared.accepted
  queued : shared.queue.stopping = false →
    shared.accepted = handed worker ++ shared.queue.frames

variable {point : ReceivePoint} {input : ReceiveInput} {critical : Section}

theorem caller_cases {id : Nat}
    (h : receivePipeline.critical (.caller id) point input = some critical) :
    (∃ frame, critical = enqueue frame) ∨ critical = stop ∨ critical = pause ∨
      critical = resume := by
  cases point with
  | caller answer =>
    cases input with
    | enqueue frame => exact .inl ⟨frame, (Option.some.inj h).symm⟩
    | stop => exact .inr (.inl (Option.some.inj h).symm)
    | pause => exact .inr (.inr (.inl (Option.some.inj h).symm))
    | resume => exact .inr (.inr (.inr (Option.some.inj h).symm))
    | proceed => cases h
    | processed succeeds => cases h
  | _ => cases h

theorem worker_cases (h : receivePipeline.critical .worker point input = some critical) :
    (∃ processed, point = .looping processed ∧ critical = dequeue processed) ∨
      ∃ processed, point = .failing processed ∧ critical = giveUp processed := by
  cases input with
  | proceed =>
    cases point with
    | looping processed => exact .inl ⟨processed, rfl, (Option.some.inj h).symm⟩
    | failing processed => exact .inr ⟨processed, rfl, (Option.some.inj h).symm⟩
    | _ => cases h
  | _ => cases point <;> cases h

theorem Kept.caller {worker : ReceivePoint} (h : Kept shared worker) {id : Nat}
    (hcritical : receivePipeline.critical (.caller id) point input = some critical) :
    Kept (critical.exec shared).1 worker := by
  obtain ⟨frame, rfl⟩ | rfl | rfl | rfl := caller_cases hcritical
  · obtain hsame | ⟨hrunning, hroom, hexec⟩ := exec_enqueue frame shared
    · rw [hsame]
      exact h
    · rw [hexec]
      refine ⟨h.accounted.enqueue hroom, h.first.trans (List.prefix_append _ _), fun _ => ?_⟩
      show shared.accepted ++ [frame] = _
      rw [h.queued hrunning, List.append_assoc]
  · exact ⟨⟨rfl, UInt64.zero_le⟩, h.first, nofun⟩
  · exact ⟨⟨h.accounted.counted, h.accounted.bounded⟩, h.first, h.queued⟩
  · exact ⟨⟨h.accounted.counted, h.accounted.bounded⟩, h.first, h.queued⟩

theorem Kept.worker (h : Kept shared point)
    (hcritical : receivePipeline.critical .worker point input = some critical) :
    Kept (critical.exec shared).1 (critical.exec shared).2 := by
  obtain ⟨processed, rfl, rfl⟩ | ⟨processed, rfl, rfl⟩ := worker_cases hcritical
  · obtain hsame | ⟨-, hsame⟩ | ⟨frame, rest, hrunning, -, hframes, hexec⟩ :=
      exec_dequeue processed shared
    · rw [hsame]
      exact ⟨h.accounted, h.first, h.queued⟩
    · rw [hsame]
      exact ⟨h.accounted, h.first, h.queued⟩
    · have hqueued : shared.accepted = (processed ++ [frame]) ++ rest := by
        rw [h.queued hrunning, hframes, List.append_assoc]
        rfl
      rw [hexec]
      exact ⟨h.accounted.dequeue hframes, hqueued ▸ List.prefix_append _ _, fun _ => hqueued⟩
  · exact ⟨⟨h.accounted.counted, h.accounted.bounded⟩, h.first, nofun⟩

theorem Kept.moved {next : ReceivePoint} (h : Kept shared point)
    (hmove : receivePipeline.move .worker point input = some next) : Kept shared next := by
  have hhanded : handed next = handed point := by
    cases point with
    | processing processed frame =>
      cases input with
      | processed succeeds =>
        obtain rfl := Option.some.inj hmove
        cases succeeds <;> rfl
      | _ => cases hmove
    | _ => cases input <;> cases hmove
  constructor
  · exact h.accounted
  · rw [hhanded]
    exact h.first
  · rw [hhanded]
    exact h.queued

theorem kept_of_atomic {state : ReceiveShared × (ReceiveThread → ReceivePoint)}
    (h : receivePipeline.atomic.Reachable Monitor.AnyStep state) :
    Kept state.1 (state.2 .worker) := by
  have hstart (first : ReceiveShared × (ReceiveThread → ReceivePoint))
      (hfirst : receivePipeline.atomic.start first) : Kept first.1 (first.2 .worker) := by
    obtain ⟨hshared, hworker, -⟩ := hfirst
    rw [hshared, hworker]
    exact ⟨⟨rfl, UInt64.zero_le⟩, List.prefix_rfl, fun _ => rfl⟩
  refine h.invariant hstart fun current event next hkept _ hstep => ?_
  cases event with
  | critical thread input =>
    obtain ⟨critical, hcritical, rfl⟩ := Option.map_eq_some_iff.mp hstep
    cases thread with
    | worker =>
      dsimp only
      rw [Function.update_self]
      exact hkept.worker hcritical
    | caller id =>
      have hother : ReceiveThread.worker ≠ .caller id := nofun
      dsimp only
      rw [Function.update_of_ne hother]
      exact hkept.caller hcritical
  | move thread input =>
    obtain ⟨moved, hmove, rfl⟩ := Option.map_eq_some_iff.mp hstep
    cases thread with
    | worker =>
      dsimp only
      rw [Function.update_self]
      exact hkept.moved hmove
    | caller id => cases hmove

theorem bounded_along (h : shared.queue.Accounted) {thread : ReceiveThread}
    (hcritical : receivePipeline.critical thread point input = some critical) :
    critical.Along Bounded shared := by
  have hbounded : Bounded shared := h.bounded
  cases thread with
  | caller id =>
    obtain ⟨frame, rfl⟩ | rfl | rfl | rfl := caller_cases hcritical
    · refine ⟨hbounded, ?_⟩
      dsimp only
      split
      · exact hbounded
      split
      · exact hbounded
      · rename_i hroom
        exact ⟨hbounded, hbounded, (h.enqueue (add_le_of_room hroom)).bounded⟩
    · exact ⟨hbounded, hbounded, hbounded, UInt64.zero_le⟩
    · exact ⟨hbounded, hbounded⟩
    · exact ⟨hbounded, hbounded⟩
  | worker =>
    obtain ⟨processed, -, rfl⟩ | ⟨processed, -, rfl⟩ := worker_cases hcritical
    · refine ⟨hbounded, ?_⟩
      dsimp only
      split
      · exact hbounded
      split
      · exact hbounded
      split
      · exact hbounded
      · rename_i hframes
        exact ⟨hbounded, hbounded, (h.dequeue hframes).bounded⟩
    · exact ⟨hbounded, hbounded⟩

/-- The queue of the pipeline at every point of every interleaving. Its counter never exceeds the
bound. While no thread is in its section, the counter is the size of the queued frames, the frames
that the worker has processed or is processing are the first of the accepted ones, each once and in
order, and until the worker is stopped the others are all queued. -/
theorem receive_queue_accounted
    {state : Monitor.State ReceiveThread ReceiveShared ReceivePoint}
    (h : receivePipeline.interleaved.Reachable Monitor.AnyStep state) :
    state.shared.queue.queuedBytes ≤ kMaximumQueuedReceiveBytes ∧
      (state.owner = none →
        state.shared.queue.queuedBytes.toNat =
            (state.shared.queue.frames.map fun frame => (frameBytes frame).toNat).sum ∧
          handed (state.locals .worker) <+: state.shared.accepted ∧
          (state.shared.queue.stopping = false →
            state.shared.accepted =
              handed (state.locals .worker) ++ state.shared.queue.frames)) := by
  constructor
  · have hbounded : Bounded state.shared :=
      Monitor.property_of_along (fun _ _ hreach => (kept_of_atomic hreach).accounted.bounded)
        (fun _ _ hreach _ _ _ => bounded_along (kept_of_atomic hreach).accounted) h
    exact hbounded
  · intro hfree
    have hkept := kept_of_atomic (Monitor.atomic_of_free h hfree)
    exact ⟨hkept.accounted.counted, hkept.first, hkept.queued⟩

section Sample

def sampleFrame (content : List UInt8) : Frame := { payload := content }

/-- No call has been made. -/
def quietState : Monitor.State ReceiveThread ReceiveShared ReceivePoint where
  shared := {}
  locals
    | .worker => .looping []
    | .caller _ => .caller none

/-- The worker takes the first of two frames while the second is being put in. -/
def sampleEvents : List (Monitor.Event ReceiveThread ReceiveInput) :=
  [.enter (.caller 0) (.enqueue (sampleFrame [1])), .access, .access, .access, .leave,
    .enter .worker .proceed, .access, .access, .access, .leave,
    .enter (.caller 1) (.enqueue (sampleFrame [2, 3])), .access, .access,
    .move .worker (.processed true), .access, .leave]

theorem receive_queue_accounted_sample :
    ∃ state, receivePipeline.interleaved.exec quietState sampleEvents = some state ∧
      state.shared.accepted = [sampleFrame [1]] ++ state.shared.queue.frames ∧
      state.shared.queue.queuedBytes.toNat =
        (state.shared.queue.frames.map fun frame => (frameBytes frame).toNat).sum := by
  obtain ⟨state, hstate⟩ : ∃ state,
      receivePipeline.interleaved.exec quietState sampleEvents = some state := ⟨_, rfl⟩
  have hreach : receivePipeline.interleaved.Reachable Monitor.AnyStep state :=
    ⟨quietState, ⟨⟨rfl, rfl, fun _ => rfl⟩, rfl⟩, Machine.run_of_exec hstate⟩
  obtain rfl := Option.some.inj hstate
  obtain ⟨hcounted, -, hqueued⟩ := (receive_queue_accounted hreach).2 rfl
  exact ⟨_, hstate, hqueued rfl, hcounted⟩

end Sample

end ReceiveQueue

end DeskflowPlus.App
