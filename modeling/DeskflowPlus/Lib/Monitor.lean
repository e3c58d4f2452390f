import DeskflowPlus.Lib.Run
import Mathlib.Logic.Function.Basic

/-!
# Threads that share a state under one lock

A thread takes the lock, works on the shared state one access after the other, and gives the lock
back; between two such sections it works on its own state alone. The accesses of one section
interleave with the moves of all other threads, yet whatever such a run reaches while the lock is
free, a run that takes every section in one step reaches too.
-/

namespace DeskflowPlus

/-- What a thread does while it holds the lock: accesses in order, each of which decides on the
state it finds how to go on, and in the end its own next state. -/
inductive CriticalSection (Shared Local : Type) where
  | leave (next : Local)
  | access (effect : Shared → Shared) (next : Shared → CriticalSection Shared Local)

namespace CriticalSection

variable {Shared Local : Type}

/-- The whole section in one step. -/
def exec : CriticalSection Shared Local → Shared → Shared × Local
  | leave next, shared => (shared, next)
  | access effect next, shared => exec (next shared) (effect shared)

/-- The property holds at the start of the section and after each of its accesses. -/
def Along (property : Shared → Prop) : CriticalSection Shared Local → Shared → Prop
  | leave _, shared => property shared
  | access effect next, shared => property shared ∧ Along property (next shared) (effect shared)

theorem Along.start {property : Shared → Prop} {critical : CriticalSection Shared Local}
    {shared : Shared} (h : critical.Along property shared) : property shared := by
  cases critical with
  | leave next => exact h
  | access effect next => exact h.1

end CriticalSection

structure Monitor (Thread Shared Local Input : Type) where
  start : Shared → (Thread → Local) → Prop
  critical : Thread → Local → Input → Option (CriticalSection Shared Local)
  move : Thread → Local → Input → Option Local

namespace Monitor

variable {Thread Shared Local Input : Type} [DecidableEq Thread]

structure State (Thread Shared Local : Type) where
  shared : Shared
  locals : Thread → Local
  owner : Option (Thread × CriticalSection Shared Local) := none

inductive Event (Thread Input : Type) where
  | enter (thread : Thread) (input : Input)
  | access
  | leave
  | move (thread : Thread) (input : Input)

variable (monitor : Monitor Thread Shared Local Input)

def interleaved : Machine (State Thread Shared Local) (Event Thread Input) where
  start state := monitor.start state.shared state.locals ∧ state.owner = none
  step state event :=
    match event, state.owner with
    | .enter thread input, none =>
      (monitor.critical thread (state.locals thread) input).map fun critical =>
        { state with owner := some (thread, critical) }
    | .access, some (thread, .access effect next) =>
      some
        { state with
          shared := effect state.shared
          owner := some (thread, next state.shared) }
    | .leave, some (thread, .leave next) =>
      some { state with locals := Function.update state.locals thread next, owner := none }
    | .move thread input, owner =>
      if owner.any (·.1 = thread) then none
      else
        (monitor.move thread (state.locals thread) input).map fun next =>
          { state with locals := Function.update state.locals thread next }
    | _, _ => none

/-- A step of a thread: a whole section, or a move. -/
inductive AtomicEvent (Thread Input : Type) where
  | critical (thread : Thread) (input : Input)
  | move (thread : Thread) (input : Input)

/-- One section at a time. -/
def atomic : Machine (Shared × (Thread → Local)) (AtomicEvent Thread Input) where
  start state := monitor.start state.1 state.2
  step state event :=
    match event with
    | .critical thread input =>
      (monitor.critical thread (state.2 thread) input).map fun critical =>
        ((critical.exec state.1).1, Function.update state.2 thread (critical.exec state.1).2)
    | .move thread input =>
      (monitor.move thread (state.2 thread) input).map fun next =>
        (state.1, Function.update state.2 thread next)

variable {monitor} {state : State Thread Shared Local}

/-- Every section and every move is allowed. -/
abbrev AnyStep {State Event : Type} : State → Event → Prop := fun _ _ => True

/-- The interleaved run has reached what the atomic one has, or a point in the section of the owner,
which the atomic run has not begun. -/
def Reached (monitor : Monitor Thread Shared Local Input) (state : State Thread Shared Local) :
    Prop :=
  match state.owner with
  | none => monitor.atomic.Reachable AnyStep (state.shared, state.locals)
  | some (thread, rest) =>
    ∃ before input critical, monitor.atomic.Reachable AnyStep (before, state.locals) ∧
      monitor.critical thread (state.locals thread) input = some critical ∧
      rest.exec state.shared = critical.exec before ∧
      ∀ property : Shared → Prop, critical.Along property before → rest.Along property state.shared

theorem Reached.move (h : monitor.Reached state) {thread : Thread} {input : Input} {next : Local}
    (howner : state.owner.any (·.1 = thread) = false)
    (hmove : monitor.move thread (state.locals thread) input = some next) :
    monitor.Reached { state with locals := Function.update state.locals thread next } := by
  obtain ⟨shared, locals, owner⟩ := state
  have hmoves (before : Shared) : monitor.atomic.step (before, locals) (.move thread input) =
      some (before, Function.update locals thread next) := by
    show (monitor.move thread (locals thread) input).map _ = _
    rw [hmove]
    rfl
  have hreached (before : Shared) (hbefore : monitor.atomic.Reachable AnyStep (before, locals)) :
      monitor.atomic.Reachable AnyStep (before, Function.update locals thread next) :=
    hbefore.run (Machine.Run.refl.tail trivial (hmoves before))
  cases owner with
  | none => exact hreached shared h
  | some held =>
    obtain ⟨holder, rest⟩ := held
    obtain ⟨before, entered, critical, hbefore, hcritical, hrest⟩ := h
    refine ⟨before, entered, critical, hreached before hbefore, ?_, hrest⟩
    have hother : holder ≠ thread := of_decide_eq_false howner
    show monitor.critical holder (Function.update locals thread next holder) entered = some critical
    rw [Function.update_of_ne hother]
    exact hcritical

theorem Reached.step (h : monitor.Reached state) {event : Event Thread Input}
    {next : State Thread Shared Local} (hstep : monitor.interleaved.step state event = some next) :
    monitor.Reached next := by
  cases event with
  | enter thread input =>
    obtain ⟨shared, locals, owner⟩ := state
    cases owner with
    | some held => cases hstep
    | none =>
      obtain ⟨critical, hcritical, rfl⟩ := Option.map_eq_some_iff.mp hstep
      exact ⟨shared, input, critical, h, hcritical, rfl, fun _ halong => halong⟩
  | access =>
    obtain ⟨shared, locals, owner⟩ := state
    match owner, h, hstep with
    | some (thread, .access effect rest), h, hstep =>
      obtain rfl := Option.some.inj hstep
      obtain ⟨before, input, critical, hbefore, hcritical, hexec, halong⟩ := h
      exact ⟨before, input, critical, hbefore, hcritical, hexec,
        fun property hproperty => (halong property hproperty).2⟩
  | leave =>
    obtain ⟨shared, locals, owner⟩ := state
    match owner, h, hstep with
    | some (thread, .leave left), h, hstep =>
      obtain rfl := Option.some.inj hstep
      obtain ⟨before, input, critical, hbefore, hcritical, hexec, -⟩ := h
      have hwhole : monitor.atomic.step (before, locals) (.critical thread input) =
          some (shared, Function.update locals thread left) := by
        show (monitor.critical thread (locals thread) input).map _ = _
        rw [hcritical, Option.map_some, ← hexec]
        rfl
      exact hbefore.run (Machine.Run.refl.tail trivial hwhole)
  | move thread input =>
    have hfree : ¬ state.owner.any (·.1 = thread) = true := by
      intro hheld
      have hnone : monitor.interleaved.step state (.move thread input) = none := if_pos hheld
      exact absurd (hnone.symm.trans hstep) nofun
    have hmoves : monitor.interleaved.step state (.move thread input) = _ := if_neg hfree
    obtain ⟨left, hleft, rfl⟩ := Option.map_eq_some_iff.mp (hmoves.symm.trans hstep)
    exact h.move (eq_false_of_ne_true hfree) hleft

theorem reached_of_reachable (h : monitor.interleaved.Reachable AnyStep state) :
    monitor.Reached state := by
  refine Machine.Reachable.invariant ?_ (fun _ _ _ hkept _ hstep => Reached.step hkept hstep) h
  rintro ⟨shared, locals, owner⟩ ⟨hstart, hfree⟩
  obtain rfl : owner = none := hfree
  exact .of_start hstart

/-- **Sections are atomic.** -/
theorem atomic_of_free (h : monitor.interleaved.Reachable AnyStep state)
    (hfree : state.owner = none) :
    monitor.atomic.Reachable AnyStep (state.shared, state.locals) := by
  have hreached := reached_of_reachable h
  unfold Reached at hreached
  rw [hfree] at hreached
  exact hreached

theorem property_of_along {property : Shared → Prop}
    (hstart : ∀ shared locals, monitor.atomic.Reachable AnyStep (shared, locals) → property shared)
    (halong : ∀ shared locals, monitor.atomic.Reachable AnyStep (shared, locals) →
      ∀ thread input critical, monitor.critical thread (locals thread) input = some critical →
        critical.Along property shared)
    (h : monitor.interleaved.Reachable AnyStep state) : property state.shared := by
  have hreached := reached_of_reachable h
  unfold Reached at hreached
  split at hreached
  · exact hstart _ _ hreached
  · obtain ⟨before, input, critical, hbefore, hcritical, -, hrest⟩ := hreached
    exact (hrest property (halong before _ hbefore _ _ _ hcritical)).start

end Monitor

end DeskflowPlus
