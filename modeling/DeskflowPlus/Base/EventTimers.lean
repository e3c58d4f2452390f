import Mathlib.Data.Rat.Floor
import Mathlib.Tactic.Linarith
import Mathlib.Tactic.Ring
import DeskflowPlus.Lib.Run
import DeskflowPlus.Lib.StdHeap

/-!
# The timers of the event queue

A timer counts down what is left until it is due. A check takes from every timer what the clock says
since the check before, and the timer that is due first is on top of the queue. The check reads the
clock twice, to see how much time went by and to begin anew: what goes by between is taken from no
timer. While nothing does, a timer counts down to its deadline.
-/

namespace DeskflowPlus

structure Timer (K : Type) where
  timer : Nat
  timeout : K
  target : Nat
  oneShot : Bool
  time : K
  deriving DecidableEq

structure TimerEvent where
  target : Nat
  timer : Nat
  count : Nat
  deriving DecidableEq

/-- The timers, and the mark of the watch that tells the time since the last check. -/
structure EventTimers (K : Type) where
  timers : List Nat := []
  timerQueue : List (Timer K) := []
  mark : K
  /-- How many timers were allocated. -/
  allocated : Nat := 0

/-- A timer that is set: when it was created or produced its last event. -/
structure Pending (K : Type) where
  timer : Nat
  timeout : K
  target : Nat
  oneShot : Bool
  since : K
  deriving DecidableEq

theorem eraseP_eq_filter {K : Type} {queue : List (Timer K)} {timer : Nat}
    (h : (queue.map (·.timer)).Nodup) :
    queue.eraseP (·.timer = timer) = queue.filter (·.timer ≠ timer) := by
  induction queue with
  | nil => rfl
  | cons first rest ih =>
    obtain ⟨hfirst, hrest⟩ := List.nodup_cons.mp h
    by_cases hsame : first.timer = timer
    · rw [List.eraseP_cons_of_pos (by simp [hsame]), List.filter_cons_of_neg (by simp [hsame]),
        List.filter_eq_self.mpr]
      intro other hother
      have hne : other.timer ≠ timer := fun heq =>
        hfirst (List.mem_map.mpr ⟨other, hother, heq.trans hsame.symm⟩)
      simp [hne]
    · rw [List.eraseP_cons_of_neg (by simp [hsame]), List.filter_cons_of_pos (by simp [hsame]),
        ih hrest]

variable {K : Type} [Field K] [LinearOrder K] [IsStrictOrderedRing K] [FloorSemiring K]

namespace Timer

def reset (timer : Timer K) : Timer K := { timer with time := timer.timeout }

def countdown (dt : K) (timer : Timer K) : Timer K := { timer with time := timer.time - dt }

/-- The count of an event, which has 32 bits. -/
def fillEvent (timer : Timer K) : TimerEvent where
  target := timer.target
  timer := timer.timer
  count := if timer.time ≤ 0 then ⌊(timer.timeout - timer.time) / timer.timeout⌋₊ % 2 ^ 32 else 0

/-- What a timer stands for when its time is left from the mark on. -/
def pending (mark : K) (timer : Timer K) : Pending K where
  timer := timer.timer
  timeout := timer.timeout
  target := timer.target
  oneShot := timer.oneShot
  since := timer.time + mark - timer.timeout

end Timer

namespace EventTimers

variable (heap : StdHeap (Timer.time (K := K)))

def addTimer (oneShot : Bool) (duration : K) (target : Option Nat) (now : K)
    (queue : EventTimers K) : EventTimers K :=
  let timer := queue.allocated
  { queue with
    allocated := queue.allocated + 1
    timers := timer :: queue.timers
    timerQueue := heap.pushHeap
      ⟨timer, duration, target.getD timer, oneShot, duration + (now - queue.mark)⟩
      queue.timerQueue }

def newTimer := addTimer heap false

def newOneShotTimer := addTimer heap true

def deleteTimer (timer : Nat) (queue : EventTimers K) : EventTimers K :=
  { queue with
    timerQueue := if queue.timerQueue.any (·.timer = timer) then
        heap.makeHeap (queue.timerQueue.eraseP (·.timer = timer))
      else queue.timerQueue
    timers := queue.timers.erase timer }

/-- The timer whose event is produced, if any, where the clock is read at `now` and at `later`. -/
def hasTimerExpired (now later : K) (queue : EventTimers K) : Option (Timer K) × EventTimers K :=
  match queue.timerQueue.map (·.countdown (now - queue.mark)) with
  | [] => (none, queue)
  | top :: rest =>
    if 0 < top.time then (none, { queue with timerQueue := top :: rest, mark := later })
    else
      let left := heap.popHeap (top :: rest)
      (some top, { queue with
        timerQueue := if top.oneShot then left else heap.pushHeap top.reset left
        mark := later })

end EventTimers

inductive TimerCall (K : Type) where
  | new (oneShot : Bool) (duration : K) (target : Option Nat) (now : K)
  | delete (timer : Nat)
  | check (now later : K)

inductive TimerEntry (K : Type) where
  | created (pending : Pending K)
  | deleted (timer : Nat)
  | silent (now : K)
  | fired (timer : Timer K) (event : TimerEvent) (now : K)
  deriving DecidableEq

/-- The timers with all that happened, last entry first. -/
structure TimerRun (K : Type) where
  queue : EventTimers K
  clock : K
  log : List (TimerEntry K) := []

namespace TimerRun

variable (heap : StdHeap (Timer.time (K := K)))

/-- A duration is positive, as is asserted, and only a timer can be deleted. -/
def step (run : TimerRun K) : TimerCall K → Option (TimerRun K)
  | .new oneShot duration target now =>
    if 0 < duration then
      some
        { queue := run.queue.addTimer heap oneShot duration target now
          clock := now
          log := .created ⟨run.queue.allocated, duration, target.getD run.queue.allocated, oneShot,
            now⟩ :: run.log }
    else none
  | .delete timer =>
    if timer ∈ run.queue.timers then
      some { run with queue := run.queue.deleteTimer heap timer, log := .deleted timer :: run.log }
    else none
  | .check now later =>
    let (expired, queue) := run.queue.hasTimerExpired heap now later
    let entry := match expired with
      | none => .silent now
      | some timer => .fired timer timer.fillEvent now
    some { queue, clock := later, log := entry :: run.log }

def machine : Machine (TimerRun K) (TimerCall K) where
  start run := ∃ mark, run = { queue := { mark }, clock := mark }
  step := step heap

/-- The clock does not go back. -/
def Monotone (run : TimerRun K) : TimerCall K → Prop
  | .new _ _ _ now => run.clock ≤ now
  | .delete _ => True
  | .check now later => run.clock ≤ now ∧ now ≤ later

/-- In a check no time goes by, and no timer has missed as many periods as its count has values. -/
def Exact (run : TimerRun K) (call : TimerCall K) : Prop :=
  Monotone run call ∧
    match call with
    | .check now later => now = later ∧ ∀ timer ∈ run.queue.timerQueue,
        timer.timeout - timer.time + (now - run.queue.mark) < 2 ^ 32 * timer.timeout
    | _ => True

end TimerRun

namespace Pending

def deadline (pending : Pending K) : K := pending.since + pending.timeout

/-- What the event of a timer leaves of those that are set. -/
def afterEvent (timer : Nat) (now : K) (pending : Pending K) : Option (Pending K) :=
  if pending.timer ≠ timer then some pending
  else if pending.oneShot then none
  else some { pending with since := now }

end Pending

namespace TimerEntry

/-- The timers that are set. -/
def live : List (TimerEntry K) → List (Pending K)
  | [] => []
  | .created pending :: log => pending :: live log
  | .deleted timer :: log => (live log).filter (·.timer ≠ timer)
  | .silent _ :: log => live log
  | .fired timer _ now :: log => (live log).filterMap (Pending.afterEvent timer.timer now)

/-- An event comes when its timer is due and no other is due earlier, and counts the whole periods.
Without one no timer is due. -/
def Lawful : List (TimerEntry K) → Prop
  | [] => True
  | .fired timer event now :: log =>
    (∃ pending ∈ live log, pending.timer = timer.timer ∧ pending.oneShot = timer.oneShot ∧
      event.timer = pending.timer ∧ event.target = pending.target ∧
      pending.timeout ≤ now - pending.since ∧
      (∀ other ∈ live log, pending.deadline ≤ other.deadline) ∧
      event.count = ⌊(now - pending.since) / pending.timeout⌋₊) ∧ Lawful log
  | .silent now :: log => (∀ pending ∈ live log, now < pending.deadline) ∧ Lawful log
  | .created _ :: log => Lawful log
  | .deleted _ :: log => Lawful log

instance decidableLawful : (log : List (TimerEntry K)) → Decidable (Lawful log)
  | [] => .isTrue trivial
  | .fired _ _ _ :: log | .silent _ :: log =>
    have := decidableLawful log
    inferInstanceAs (Decidable (_ ∧ _))
  | .created _ :: log | .deleted _ :: log => decidableLawful log

/-- No event of the timer may follow. -/
def Retires (timer : Nat) : TimerEntry K → Prop
  | .deleted other => other = timer
  | .fired expired _ _ => expired.oneShot = true ∧ expired.timer = timer
  | _ => False

def Fires (timer : Nat) : TimerEntry K → Prop
  | .fired expired _ _ => expired.timer = timer
  | _ => False

/-- Behind what retires a timer it has no event. -/
def Retiring (log : List (TimerEntry K)) : Prop :=
  log.Pairwise fun later earlier => ∀ timer, earlier.Retires timer → ¬ later.Fires timer

end TimerEntry

namespace Timer

variable {timer : Timer K} {mark now : K}

theorem deadline_pending : (timer.pending mark).deadline = timer.time + mark :=
  sub_add_cancel _ _

theorem pending_countdown : (timer.countdown (now - mark)).pending now = timer.pending mark := by
  have hsince :
      timer.time - (now - mark) + now - timer.timeout = timer.time + mark - timer.timeout := by
    ring
  unfold pending countdown
  dsimp only
  rw [hsince]

theorem pending_reset :
    timer.reset.pending now = { timer.pending mark with since := now } := by
  have hsince : timer.timeout + now - timer.timeout = now := add_sub_cancel_left _ _
  unfold pending reset
  dsimp only
  rw [hsince]

theorem afterEvent_pending :
    Pending.afterEvent timer.timer now (timer.pending mark) =
      if timer.oneShot then none else some (timer.reset.pending now) := by
  rw [pending_reset]
  exact if_neg (not_not_intro rfl)

/-- The other timers stay as they are. -/
theorem filterMap_afterEvent {queue : List (Timer K)} {expired : Nat}
    (h : ∀ other ∈ queue, other.timer ≠ expired) :
    (queue.map (pending mark)).filterMap (Pending.afterEvent expired now) =
      queue.map (pending mark) := by
  rw [List.filterMap_map]
  calc
    queue.filterMap (Pending.afterEvent expired now ∘ pending mark) =
        queue.filterMap (some ∘ pending mark) :=
      List.filterMap_congr fun other hother => if_pos (h other hother)
    _ = queue.map (pending mark) := congrFun List.filterMap_eq_map queue

theorem filterMap_afterEvent_cons {rest : List (Timer K)}
    (h : ∀ other ∈ rest, other.timer ≠ timer.timer) :
    ((timer :: rest).map (pending now)).filterMap (Pending.afterEvent timer.timer now) =
      ((if timer.oneShot then [] else [timer.reset]) ++ rest).map (pending now) := by
  rw [List.map_append, List.map_cons, List.filterMap_cons, filterMap_afterEvent h,
    afterEvent_pending]
  cases timer.oneShot with
  | false => rfl
  | true => rfl

theorem sub_since_pending : mark - (timer.pending mark).since = timer.timeout - timer.time := by
  dsimp only [pending]
  ring

theorem count_fillEvent (hexpired : timer.time ≤ 0) (hpositive : 0 < timer.timeout)
    (hfits : timer.timeout - timer.time < 2 ^ 32 * timer.timeout) :
    timer.fillEvent.count = ⌊(timer.timeout - timer.time) / timer.timeout⌋₊ := by
  have hperiods : (timer.timeout - timer.time) / timer.timeout < (2 ^ 32 : Nat) := by
    rw [div_lt_iff₀ hpositive]
    exact_mod_cast hfits
  calc
    timer.fillEvent.count = ⌊(timer.timeout - timer.time) / timer.timeout⌋₊ % 2 ^ 32 :=
      if_pos hexpired
    _ = _ := Nat.mod_eq_of_lt ((Nat.floor_lt' (by norm_num)).mpr hperiods)

end Timer

namespace TimerRun

open TimerEntry

/-- The queue holds the timers that are set, each with what is left to its deadline. -/
structure Tracks (run : TimerRun K) : Prop where
  isHeap : IsHeap Timer.time run.queue.timerQueue
  tracked : (run.queue.timerQueue.map (Timer.pending run.queue.mark)).Perm (live run.log)
  nodup : (run.queue.timerQueue.map (·.timer)).Nodup
  allocated : ∀ timer ∈ run.queue.timerQueue, timer.timer < run.queue.allocated
  known : ∀ timer ∈ run.queue.timers, timer < run.queue.allocated
  positive : ∀ timer ∈ run.queue.timerQueue, 0 < timer.timeout
  retired : ∀ entry ∈ run.log, ∀ timer, entry.Retires timer →
    timer < run.queue.allocated ∧ ∀ other ∈ run.queue.timerQueue, other.timer ≠ timer
  lawful : Lawful run.log
  retiring : Retiring run.log

variable {heap : StdHeap (Timer.time (K := K))} {run : TimerRun K}

theorem Tracks.new (h : Tracks run) {oneShot : Bool} {duration now : K} {target : Option Nat}
    (hduration : 0 < duration) : Tracks
      { queue := run.queue.addTimer heap oneShot duration target now
        clock := now
        log := .created ⟨run.queue.allocated, duration, target.getD run.queue.allocated, oneShot,
          now⟩ :: run.log } := by
  let item : Timer K := ⟨run.queue.allocated, duration, target.getD run.queue.allocated, oneShot,
    duration + (now - run.queue.mark)⟩
  have hperm : (heap.pushHeap item run.queue.timerQueue).Perm (item :: run.queue.timerQueue) :=
    heap.pushHeap_perm item run.queue.timerQueue
  have hitem : item.pending run.queue.mark = ⟨run.queue.allocated, duration,
      target.getD run.queue.allocated, oneShot, now⟩ := by
    have hsince : duration + (now - run.queue.mark) + run.queue.mark - duration = now := by ring
    unfold Timer.pending
    dsimp only [item]
    rw [hsince]
  have hcases {timer : Timer K} (hmem : timer ∈ heap.pushHeap item run.queue.timerQueue) :
      timer = item ∨ timer ∈ run.queue.timerQueue := List.mem_cons.mp (hperm.mem_iff.mp hmem)
  refine ⟨heap.isHeap_pushHeap item _ h.isHeap, ?_, ?_, ?_, ?_, ?_, ?_, h.lawful, ?_⟩
  · calc
      ((heap.pushHeap item run.queue.timerQueue).map (Timer.pending run.queue.mark)).Perm
          ((item :: run.queue.timerQueue).map (Timer.pending run.queue.mark)) := hperm.map _
      List.Perm _ (item.pending run.queue.mark :: live run.log) := h.tracked.cons _
      _ = _ := by rw [hitem]; rfl
  · refine (hperm.map _).nodup_iff.mpr (List.nodup_cons.mpr ⟨fun hmem => ?_, h.nodup⟩)
    obtain ⟨timer, hmem, hsame⟩ := List.mem_map.mp hmem
    exact absurd (h.allocated timer hmem) (Nat.not_lt_of_le (Nat.le_of_eq hsame.symm))
  · intro timer hmem
    rcases hcases hmem with rfl | hmem
    · exact Nat.lt_succ_self _
    · exact Nat.lt_succ_of_lt (h.allocated timer hmem)
  · intro timer hmem
    rcases List.mem_cons.mp hmem with rfl | hmem
    · exact Nat.lt_succ_self _
    · exact Nat.lt_succ_of_lt (h.known timer hmem)
  · intro timer hmem
    rcases hcases hmem with rfl | hmem
    · exact hduration
    · exact h.positive timer hmem
  · intro entry hentry timer hretires
    rcases List.mem_cons.mp hentry with rfl | hentry
    · exact hretires.elim
    obtain ⟨hbound, hgone⟩ := h.retired entry hentry timer hretires
    refine ⟨Nat.lt_succ_of_lt hbound, fun other hother => ?_⟩
    rcases hcases hother with rfl | hother
    · exact Nat.ne_of_gt hbound
    · exact hgone other hother
  · exact List.pairwise_cons.mpr ⟨fun _ _ _ _ => id, h.retiring⟩

theorem Tracks.delete (h : Tracks run) {timer : Nat} (hknown : timer ∈ run.queue.timers) : Tracks
    { run with queue := run.queue.deleteTimer heap timer, log := .deleted timer :: run.log } := by
  have hqueue : (run.queue.deleteTimer heap timer).timerQueue.Perm
        (run.queue.timerQueue.filter (·.timer ≠ timer)) ∧
      IsHeap Timer.time (run.queue.deleteTimer heap timer).timerQueue := by
    unfold EventTimers.deleteTimer
    dsimp only
    split
    case isTrue =>
      rw [← eraseP_eq_filter h.nodup]
      exact ⟨heap.makeHeap_perm _, heap.isHeap_makeHeap _⟩
    case isFalse hnone =>
      refine ⟨?_, h.isHeap⟩
      rw [List.filter_eq_self.mpr]
      intro other hother
      simp only [List.any_eq_true, not_exists, not_and] at hnone
      simpa using hnone other hother
  obtain ⟨hperm, hheap⟩ := hqueue
  have hmem {other : Timer K} (hother : other ∈ (run.queue.deleteTimer heap timer).timerQueue) :
      other ∈ run.queue.timerQueue ∧ other.timer ≠ timer := by
    simpa using hperm.mem_iff.mp hother
  refine ⟨hheap, ?_, ?_, fun other hother => h.allocated other (hmem hother).1,
    fun other hother => h.known other (List.mem_of_mem_erase hother),
    fun other hother => h.positive other (hmem hother).1, ?_, h.lawful, ?_⟩
  · refine (hperm.map _).trans ?_
    have hlive := h.tracked.filter (·.timer ≠ timer)
    rw [List.filter_map] at hlive
    exact hlive
  · exact (hperm.map _).nodup_iff.mpr (h.nodup.sublist (List.filter_sublist.map _))
  · intro entry hentry other hretires
    rcases List.mem_cons.mp hentry with rfl | hentry
    · obtain rfl : timer = other := hretires
      exact ⟨h.known timer hknown, fun other hother => (hmem hother).2⟩
    · obtain ⟨hbound, hgone⟩ := h.retired entry hentry other hretires
      exact ⟨hbound, fun set hset => hgone set (hmem hset).1⟩
  · exact List.pairwise_cons.mpr ⟨fun _ _ _ _ => id, h.retiring⟩

/-- From the mark on to the time the clock shows. -/
theorem Tracks.countdown (h : Tracks run) (now : K) : Tracks
    { run with
      queue := { run.queue with
        timerQueue := run.queue.timerQueue.map (·.countdown (now - run.queue.mark))
        mark := now } } := by
  have hmem {timer : Timer K}
      (hcounted : timer ∈ run.queue.timerQueue.map (·.countdown (now - run.queue.mark))) :
      ∃ before ∈ run.queue.timerQueue, before.timer = timer.timer ∧
        before.timeout = timer.timeout := by
    obtain ⟨before, hbefore, rfl⟩ := List.mem_map.mp hcounted
    exact ⟨before, hbefore, rfl, rfl⟩
  refine ⟨h.isHeap.map fun _ _ hle => sub_le_sub_right hle _, ?_, ?_, fun timer hcounted => ?_,
    h.known, fun timer hcounted => ?_, fun entry hentry timer hretires => ?_, h.lawful, h.retiring⟩
  · calc
      ((run.queue.timerQueue.map (·.countdown (now - run.queue.mark))).map (Timer.pending now)) =
          run.queue.timerQueue.map (Timer.pending run.queue.mark) := by
        rw [List.map_map]
        exact List.map_congr_left fun timer _ => Timer.pending_countdown
      List.Perm _ (live run.log) := h.tracked
  · rw [List.map_map]
    exact h.nodup
  · obtain ⟨before, hbefore, hsame, -⟩ := hmem hcounted
    exact hsame ▸ h.allocated before hbefore
  · obtain ⟨before, hbefore, -, hsame⟩ := hmem hcounted
    exact hsame ▸ h.positive before hbefore
  · obtain ⟨hbound, hgone⟩ := h.retired entry hentry timer hretires
    refine ⟨hbound, fun other hother => ?_⟩
    obtain ⟨before, hbefore, hsame, -⟩ := hmem hother
    exact hsame ▸ hgone before hbefore

/-- A set timer is one in the queue. -/
theorem Tracks.exists_timer (h : Tracks run) {pending : Pending K} (hmem : pending ∈ live run.log) :
    ∃ timer ∈ run.queue.timerQueue, timer.pending run.queue.mark = pending :=
  List.mem_map.mp (h.tracked.mem_iff.mpr hmem)

theorem Tracks.silent (h : Tracks run) {now clock : K}
    (hearly : ∀ timer ∈ run.queue.timerQueue, now < timer.time + run.queue.mark) :
    Tracks { run with clock, log := .silent now :: run.log } := by
  refine ⟨h.isHeap, h.tracked, h.nodup, h.allocated, h.known, h.positive,
    fun entry hentry timer hretires => ?_, ⟨fun pending hpending => ?_, h.lawful⟩,
    List.pairwise_cons.mpr ⟨fun _ _ _ _ => id, h.retiring⟩⟩
  · rcases List.mem_cons.mp hentry with rfl | hentry
    · exact hretires.elim
    · exact h.retired entry hentry timer hretires
  · obtain ⟨timer, hmem, rfl⟩ := h.exists_timer hpending
    rw [Timer.deadline_pending]
    exact hearly timer hmem

/-- The timer on top expires. -/
theorem Tracks.fired (h : Tracks run) {top : Timer K} {rest queue : List (Timer K)} {clock : K}
    (hqueue : run.queue.timerQueue = top :: rest) (hexpired : top.time ≤ 0)
    (hcount : top.timeout - top.time < 2 ^ 32 * top.timeout) (hheap : IsHeap Timer.time queue)
    (hperm : queue.Perm ((if top.oneShot then [] else [top.reset]) ++ rest)) : Tracks
    { queue := { run.queue with timerQueue := queue }
      clock
      log := .fired top top.fillEvent run.queue.mark :: run.log } := by
  have htop : top ∈ run.queue.timerQueue := hqueue ▸ List.mem_cons_self
  have hrest {other : Timer K} (hmem : other ∈ rest) : other ∈ run.queue.timerQueue :=
    hqueue ▸ List.mem_cons_of_mem _ hmem
  have hnodup : ((top :: rest).map (·.timer)).Nodup := hqueue ▸ h.nodup
  have hothers : ∀ other ∈ rest, other.timer ≠ top.timer := fun other hother hsame =>
    (List.nodup_cons.mp hnodup).1 (List.mem_map.mpr ⟨other, hother, hsame⟩)
  have hkept {other : Timer K} (hmem : other ∈ queue) :
      other ∈ rest ∨ top.oneShot = false ∧ other = top.reset := by
    rcases List.mem_append.mp (hperm.mem_iff.mp hmem) with hmem | hmem
    · split at hmem
      case isTrue => exact absurd hmem List.not_mem_nil
      case isFalse hrepeats =>
        exact .inr ⟨Bool.eq_false_iff.mpr hrepeats, List.mem_singleton.mp hmem⟩
    · exact .inl hmem
  have hbefore {other : Timer K} (hmem : other ∈ queue) : ∃ before ∈ run.queue.timerQueue,
      before.timer = other.timer ∧ before.timeout = other.timeout := by
    rcases hkept hmem with hmem | ⟨-, rfl⟩
    · exact ⟨other, hrest hmem, rfl, rfl⟩
    · exact ⟨top, htop, rfl, rfl⟩
  refine ⟨hheap, ?_, ?_, fun other hmem => ?_, h.known, fun other hmem => ?_,
    fun entry hentry timer hretires => ?_, ⟨⟨top.pending run.queue.mark, ?_, rfl, rfl, rfl, rfl, ?_,
      fun pending hpending => ?_, ?_⟩, h.lawful⟩, ?_⟩
  · calc
      (queue.map (Timer.pending run.queue.mark)).Perm
          (((if top.oneShot then [] else [top.reset]) ++ rest).map
            (Timer.pending run.queue.mark)) := hperm.map _
      _ = (run.queue.timerQueue.map (Timer.pending run.queue.mark)).filterMap
          (Pending.afterEvent top.timer run.queue.mark) := by
        rw [hqueue, Timer.filterMap_afterEvent_cons hothers]
      List.Perm _ (live (.fired top top.fillEvent run.queue.mark :: run.log)) :=
        h.tracked.filterMap _
  · refine (hperm.map _).nodup_iff.mpr ?_
    by_cases honce : top.oneShot = true
    · rw [if_pos honce]
      exact (List.nodup_cons.mp hnodup).2
    · rw [if_neg honce]
      exact hnodup
  · obtain ⟨before, hbefore, hsame, -⟩ := hbefore hmem
    exact hsame ▸ h.allocated before hbefore
  · obtain ⟨before, hbefore, -, hsame⟩ := hbefore hmem
    exact hsame ▸ h.positive before hbefore
  · rcases List.mem_cons.mp hentry with rfl | hentry
    · obtain ⟨honce, rfl⟩ := hretires
      refine ⟨h.allocated top htop, fun other hmem => ?_⟩
      rcases hkept hmem with hmem | ⟨hrepeats, -⟩
      · exact hothers other hmem
      · exact nomatch honce.symm.trans hrepeats
    · obtain ⟨hbound, hgone⟩ := h.retired entry hentry timer hretires
      refine ⟨hbound, fun other hmem => ?_⟩
      obtain ⟨before, hbefore, hsame, -⟩ := hbefore hmem
      exact hsame ▸ hgone before hbefore
  · exact h.tracked.mem_iff.mp (List.mem_map_of_mem htop)
  · rw [Timer.sub_since_pending]
    exact (le_sub_self_iff _).mpr hexpired
  · obtain ⟨timer, hmem, rfl⟩ := h.exists_timer hpending
    have hfront : IsHeap Timer.time (top :: rest) := hqueue ▸ h.isHeap
    rw [hqueue] at hmem
    rw [Timer.deadline_pending, Timer.deadline_pending]
    exact add_le_add_left (hfront.front_le hmem) _
  · rw [Timer.sub_since_pending]
    exact Timer.count_fillEvent hexpired (h.positive top htop) hcount
  · refine List.pairwise_cons.mpr ⟨fun entry hentry timer hretires hfires => ?_, h.retiring⟩
    exact (h.retired entry hentry timer hretires).2 top htop hfires

/-- A check, whose clock readings are one. -/
theorem Tracks.check (h : Tracks run) {now : K} (hcounts : ∀ timer ∈ run.queue.timerQueue,
      timer.timeout - timer.time + (now - run.queue.mark) < 2 ^ 32 * timer.timeout)
    {next : TimerRun K} (hstep : run.step heap (.check now now) = some next) : Tracks next := by
  have hcounted := h.countdown now
  have hfits : ∀ timer ∈ run.queue.timerQueue.map (·.countdown (now - run.queue.mark)),
      timer.timeout - timer.time < 2 ^ 32 * timer.timeout := by
    intro timer hmem
    obtain ⟨before, hbefore, rfl⟩ := List.mem_map.mp hmem
    have hcount := hcounts before hbefore
    dsimp only [Timer.countdown]
    linarith only [hcount]
  rw [step, EventTimers.hasTimerExpired] at hstep
  generalize hqueue : run.queue.timerQueue.map (·.countdown (now - run.queue.mark)) = counted
    at hcounted hfits hstep
  cases counted with
  | nil =>
    obtain rfl := Option.some.inj hstep
    have hempty : run.queue.timerQueue = [] := List.map_eq_nil_iff.mp hqueue
    exact h.silent fun timer hmem => absurd (hempty ▸ hmem) List.not_mem_nil
  | cons top rest =>
    dsimp only at hstep
    by_cases hearly : 0 < top.time
    · rw [if_pos hearly] at hstep
      obtain rfl := Option.some.inj hstep
      refine hcounted.silent fun timer hmem => ?_
      exact lt_add_of_pos_left now (hearly.trans_le (hcounted.isHeap.front_le hmem))
    · rw [if_neg hearly] at hstep
      obtain rfl := Option.some.inj hstep
      have hpopped := heap.isHeap_popHeap top rest hcounted.isHeap
      have hleft := heap.popHeap_perm top rest hcounted.isHeap
      apply hcounted.fired rfl (not_lt.mp hearly) (hfits top List.mem_cons_self)
      · split
        case isTrue => exact hpopped
        case isFalse => exact heap.isHeap_pushHeap _ _ hpopped
      · split
        case isTrue => exact hleft
        case isFalse => exact (heap.pushHeap_perm _ _).trans (hleft.cons _)

theorem Tracks.step (h : Tracks run) {call : TimerCall K} (hexact : Exact run call)
    {next : TimerRun K} (hstep : run.step heap call = some next) : Tracks next := by
  cases call with
  | new oneShot duration target now =>
    by_cases hduration : 0 < duration
    · obtain rfl := Option.some.inj ((if_pos hduration).symm.trans hstep)
      exact h.new hduration
    · exact nomatch (if_neg hduration).symm.trans hstep
  | delete timer =>
    by_cases hknown : timer ∈ run.queue.timers
    · obtain rfl := Option.some.inj ((if_pos hknown).symm.trans hstep)
      exact h.delete hknown
    · exact nomatch (if_neg hknown).symm.trans hstep
  | check now later =>
    obtain ⟨-, rfl, hcounts⟩ := hexact
    exact h.check hcounts hstep

theorem tracks_of_reachable (h : (machine heap).Reachable Exact run) : Tracks run := by
  refine h.invariant (fun start hstart => ?_) fun _ _ _ htracks hexact hstep =>
    htracks.step hexact hstep
  obtain ⟨mark, rfl⟩ := hstart
  exact ⟨.nil, .nil, .nil, nofun, nofun, nofun, nofun, trivial, .nil⟩

theorem step_new {oneShot : Bool} {duration now : K} {target : Option Nat} (h : 0 < duration) :
    (machine heap).step run (.new oneShot duration target now) = some
      { queue := run.queue.addTimer heap oneShot duration target now
        clock := now
        log := .created ⟨run.queue.allocated, duration, target.getD run.queue.allocated, oneShot,
          now⟩ :: run.log } :=
  if_pos h

/-- **Timers keep their deadlines where a check takes no time.** -/
theorem timers_exact (h : (machine heap).Reachable Exact run) :
    Lawful run.log ∧ Retiring run.log :=
  have htracks := tracks_of_reachable h
  ⟨htracks.lawful, htracks.retiring⟩

theorem timers_exact_periodic : ∃ run : TimerRun ℚ,
    run.log = [.fired ⟨0, 2, 0, false, -3⟩ ⟨0, 0, 2⟩ 6, .created ⟨0, 2, 0, false, 1⟩] ∧
      Lawful run.log ∧ Retiring run.log := by
  let heap : StdHeap (Timer.time (K := ℚ)) := sortingHeap _
  have hnew (run : TimerRun ℚ) : (machine heap).step run (.new false 2 none 1) = some _ :=
    step_new two_pos
  have hcheck (run : TimerRun ℚ) : (machine heap).step run (.check 6 6) = some _ := rfl
  suffices hrun : ∃ run, (machine heap).Reachable Exact run ∧
      run.log = [.fired ⟨0, 2, 0, false, -3⟩ ⟨0, 0, 2⟩ 6, .created ⟨0, 2, 0, false, 1⟩] by
    obtain ⟨run, hrun, hlog⟩ := hrun
    exact ⟨run, hlog, timers_exact hrun⟩
  refine ⟨_, ⟨_, ⟨0, rfl⟩, (Machine.Run.refl.tail ?_ (hnew _)).tail ?_ (hcheck _)⟩, ?_⟩
  · exact ⟨zero_le_one, trivial⟩
  · refine ⟨⟨?_, le_rfl⟩, rfl, ?_⟩ <;> decide +kernel
  · decide +kernel

theorem not_timers_exact : ¬ ∀ (heap : StdHeap (Timer.time (K := ℚ))) (run : TimerRun ℚ),
    (machine heap).Reachable Monotone run → Lawful run.log ∧ Retiring run.log := by
  intro h
  let heap : StdHeap (Timer.time (K := ℚ)) := sortingHeap _
  have hnew (run : TimerRun ℚ) {duration : ℚ} (now : ℚ) (hduration : 0 < duration) :
      (machine heap).step run (.new true duration none now) = some _ := step_new hduration
  have hcheck (run : TimerRun ℚ) (now later : ℚ) :
      (machine heap).step run (.check now later) = some _ := rfl
  suffices hrun : ∃ run, (machine heap).Reachable Monotone run ∧ ¬ Lawful run.log by
    obtain ⟨run, hrun, hslipped⟩ := hrun
    exact hslipped (h heap run hrun).1
  have hslow : (0 : ℚ) < 10 := by norm_num
  have hquick : (0 : ℚ) < 4 := by norm_num
  refine ⟨_, ⟨_, ⟨0, rfl⟩, (((Machine.Run.refl.tail ?_ (hnew _ 0 hslow)).tail ?_
    (hcheck _ 5 7)).tail ?_ (hnew _ 7 hquick)).tail ?_ (hcheck _ 13 13)⟩, ?_⟩
  · exact le_refl (0 : ℚ)
  · exact ⟨by decide +kernel, by decide +kernel⟩
  · exact le_refl (7 : ℚ)
  · exact ⟨by decide +kernel, le_rfl⟩
  · decide +kernel

end TimerRun

end DeskflowPlus
