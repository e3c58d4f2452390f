import Mathlib.Logic.Basic

/-!
# Runs of an event-driven machine

An event takes a machine from one state to the next, or cannot occur. A run is any sequence of
events, here restricted to those a condition allows in the state they meet, so that a result can say
which order of events it needs. What every allowed step keeps, every run keeps.
-/

namespace DeskflowPlus

/-- Where a machine may start, and what each event does where it can occur. -/
structure Machine (State Event : Type) where
  start : State → Prop
  step : State → Event → Option State

namespace Machine

variable {State Event : Type}

/-- The runs from one state to another whose events are all allowed where they occur. -/
inductive Run (machine : Machine State Event) (allowed : State → Event → Prop) (first : State) :
    State → Prop
  | refl : Run machine allowed first first
  | tail {last next : State} {event : Event} (hrun : Run machine allowed first last)
      (hallowed : allowed last event) (hstep : machine.step last event = some next) :
      Run machine allowed first next

def Reachable (machine : Machine State Event) (allowed : State → Event → Prop) (state : State) :
    Prop :=
  ∃ first, machine.start first ∧ machine.Run allowed first state

variable {machine : Machine State Event} {allowed weaker : State → Event → Prop}

namespace Run

theorem trans {first middle last : State} (hfirst : machine.Run allowed first middle)
    (hlast : machine.Run allowed middle last) : machine.Run allowed first last := by
  induction hlast with
  | refl => exact hfirst
  | tail _ hallowed hstep ih => exact ih.tail hallowed hstep

/-- **The invariant rule.** -/
theorem invariant {Inv : State → Prop}
    (hkeep : ∀ state event next, Inv state → allowed state event →
      machine.step state event = some next → Inv next)
    {first last : State} (hrun : machine.Run allowed first last) (hfirst : Inv first) :
    Inv last := by
  induction hrun with
  | refl => exact hfirst
  | tail _ hallowed hstep ih => exact hkeep _ _ _ ih hallowed hstep

end Run

namespace Reachable

theorem of_start {state : State} (hstart : machine.start state) :
    machine.Reachable allowed state :=
  ⟨state, hstart, .refl⟩

theorem run {state last : State} (hstate : machine.Reachable allowed state)
    (hrun : machine.Run allowed state last) : machine.Reachable allowed last := by
  obtain ⟨first, hstart, hfirst⟩ := hstate
  exact ⟨first, hstart, hfirst.trans hrun⟩

theorem invariant {Inv : State → Prop} (hstart : ∀ state, machine.start state → Inv state)
    (hkeep : ∀ state event next, Inv state → allowed state event →
      machine.step state event = some next → Inv next)
    {state : State} (hstate : machine.Reachable allowed state) : Inv state := by
  obtain ⟨first, hfirst, hrun⟩ := hstate
  exact hrun.invariant hkeep (hstart first hfirst)

end Reachable

/-- The state after a list of events, if each of them can occur. -/
def exec (machine : Machine State Event) : State → List Event → Option State
  | state, [] => some state
  | state, event :: events => (machine.step state event).bind (machine.exec · events)

variable {state : State} {events : List Event}

theorem exec_append {later : List Event} :
    machine.exec state (events ++ later) =
      (machine.exec state events).bind (machine.exec · later) := by
  induction events generalizing state with
  | nil => rfl
  | cons event events ih =>
    show (machine.step state event).bind (machine.exec · (events ++ later)) =
      ((machine.step state event).bind (machine.exec · events)).bind (machine.exec · later)
    rw [Option.bind_assoc]
    exact congrArg _ (funext fun _ => ih)

variable {last : State} {before after : List Event}

theorem exec_split {event : Event} (h : machine.exec state (before ++ event :: after) = some last) :
    ∃ middle next, machine.exec state before = some middle ∧
      machine.step middle event = some next ∧ machine.exec next after = some last := by
  rw [exec_append] at h
  obtain ⟨middle, hbefore, hrest⟩ := Option.bind_eq_some_iff.mp h
  obtain ⟨next, hstep, hafter⟩ := Option.bind_eq_some_iff.mp hrest
  exact ⟨middle, next, hbefore, hstep, hafter⟩

theorem exec_concat {event : Event} (h : machine.exec state (events ++ [event]) = some last) :
    ∃ middle, machine.exec state events = some middle ∧ machine.step middle event = some last := by
  obtain ⟨middle, next, hevents, hstep, hlast⟩ := exec_split h
  obtain rfl : next = last := Option.some.inj hlast
  exact ⟨middle, hevents, hstep⟩

theorem run_of_exec_of_allowed (hallowed : ∀ state, ∀ event ∈ events, allowed state event)
    (h : machine.exec state events = some last) : machine.Run allowed state last := by
  induction events generalizing state with
  | nil =>
    obtain rfl : state = last := Option.some.inj h
    exact .refl
  | cons event events ih =>
    obtain ⟨next, hstep, hrest⟩ := Option.bind_eq_some_iff.mp h
    have hlater (state : State) (later : Event) (hlater : later ∈ events) : allowed state later :=
      hallowed state later (List.mem_cons_of_mem _ hlater)
    exact (Run.refl.tail (hallowed state event List.mem_cons_self) hstep).trans (ih hlater hrest)

theorem run_of_exec (h : machine.exec state events = some last) :
    machine.Run (fun _ _ => True) state last :=
  run_of_exec_of_allowed (fun _ _ _ => trivial) h

/-- Every event of a list meets the condition in the state it finds. -/
def Along (machine : Machine State Event) (condition : State → Event → Prop) :
    State → List Event → Prop
  | _, [] => True
  | state, event :: events =>
    condition state event ∧
      ∀ next, machine.step state event = some next → Along machine condition next events

theorem Along.mono (hweaker : ∀ state event, allowed state event → weaker state event)
    (h : machine.Along allowed state events) :
    machine.Along weaker state events := by
  induction events generalizing state with
  | nil => exact trivial
  | cons event events ih => exact ⟨hweaker state event h.1, fun next hnext => ih (h.2 next hnext)⟩

theorem Along.of_mem (h : ∀ state, ∀ event ∈ events, allowed state event) :
    machine.Along allowed state events := by
  induction events generalizing state with
  | nil => exact trivial
  | cons event events ih =>
    refine ⟨h state event List.mem_cons_self, fun _ _ => ih ?_⟩
    exact fun state later hlater => h state later (List.mem_cons_of_mem _ hlater)

/-- Two conditions that agree wherever a third holds. -/
theorem along_congr {other : State → Event → Prop} (hallowed : machine.Along allowed state events)
    (hiff : ∀ state event, allowed state event → (weaker state event ↔ other state event)) :
    machine.Along weaker state events ↔ machine.Along other state events := by
  induction events generalizing state with
  | nil => exact Iff.rfl
  | cons event events ih =>
    apply and_congr (hiff state event hallowed.1)
    exact forall₂_congr fun next hnext => ih (hallowed.2 next hnext)

theorem Along.of_exec {middle : State} {event : Event}
    (h : machine.Along allowed state (before ++ event :: after))
    (hexec : machine.exec state before = some middle) : allowed middle event := by
  induction before generalizing state with
  | nil =>
    obtain rfl : state = middle := Option.some.inj hexec
    exact h.1
  | cons first before ih =>
    obtain ⟨next, hstep, hrest⟩ := Option.bind_eq_some_iff.mp hexec
    exact ih (h.2 next hstep) hrest

/-- Every state of a run is good, from the first one on. -/
def Always (machine : Machine State Event) (good : State → Prop) : State → List Event → Prop
  | state, [] => good state
  | state, event :: events =>
    good state ∧ ∀ next, machine.step state event = some next → Always machine good next events

variable {good : State → Prop}

theorem Always.head (h : machine.Always good state events) : good state := by
  cases events with
  | nil => exact h
  | cons event events => exact h.1

theorem Always.of_exec {middle : State} (h : machine.Always good state (before ++ after))
    (hexec : machine.exec state before = some middle) : good middle := by
  induction before generalizing state with
  | nil =>
    obtain rfl : state = middle := Option.some.inj hexec
    exact h.head
  | cons event before ih =>
    obtain ⟨next, hstep, hrest⟩ := Option.bind_eq_some_iff.mp hexec
    exact ih (h.2 next hstep) hrest

theorem always_iff_along {Inv : State → Prop} (hgood : ∀ state, Inv state → good state)
    (hkeep : ∀ state event next, Inv state → allowed state event →
      machine.step state event = some next → Inv next)
    (hneeded : ∀ state event, Inv state →
      (∀ next, machine.step state event = some next → good next) → allowed state event)
    (hstate : Inv state) :
    machine.Always good state events ↔ machine.Along allowed state events := by
  induction events generalizing state with
  | nil => exact iff_of_true (hgood state hstate) trivial
  | cons event events ih =>
    constructor
    · intro halways
      have hallowed : allowed state event :=
        hneeded state event hstate fun next hnext => (halways.2 next hnext).head
      refine ⟨hallowed, fun next hnext => ?_⟩
      exact (ih (hkeep state event next hstate hallowed hnext)).mp (halways.2 next hnext)
    · intro halong
      refine ⟨hgood state hstate, fun next hnext => ?_⟩
      exact (ih (hkeep state event next hstate halong.1 hnext)).mpr (halong.2 next hnext)

/-- The same for a run whose events all occur: then only these have to be looked at. -/
theorem always_iff_along_of_exec {Inv : State → Prop} (hgood : ∀ state, Inv state → good state)
    (hkeep : ∀ state event next, Inv state → allowed state event →
      machine.step state event = some next → Inv next)
    (hneeded : ∀ state event next, Inv state → machine.step state event = some next →
      good next → allowed state event) (hexec : machine.exec state events = some last)
    (hstate : Inv state) :
    machine.Always good state events ↔ machine.Along allowed state events := by
  induction events generalizing state with
  | nil => exact iff_of_true (hgood state hstate) trivial
  | cons event events ih =>
    obtain ⟨next, hstep, hrest⟩ := Option.bind_eq_some_iff.mp hexec
    have honly (other : State) (hother : machine.step state event = some other) : other = next :=
      Option.some.inj (hother.symm.trans hstep)
    constructor
    · intro halways
      have hnext := halways.2 next hstep
      have hallowed := hneeded state event next hstate hstep hnext.head
      refine ⟨hallowed, fun other hother => ?_⟩
      rw [honly other hother]
      exact (ih hrest (hkeep state event next hstate hallowed hstep)).mp hnext
    · intro halong
      refine ⟨hgood state hstate, fun other hother => ?_⟩
      rw [honly other hother]
      have hnext := halong.2 next hstep
      exact (ih hrest (hkeep state event next hstate halong.1 hstep)).mpr hnext

end Machine

section Calls

variable {State Call : Type}

/-- Along a list of calls, every one meets the condition in the state it finds. -/
def Throughout (step : State → Call → State) (condition : Call → State → Prop) :
    List Call → State → Prop
  | [], _ => True
  | call :: rest, state =>
    condition call state ∧ Throughout step condition rest (step state call)

variable {step : State → Call → State} {condition : Call → State → Prop}

instance decidableThroughout [∀ call state, Decidable (condition call state)] :
    (calls : List Call) → (state : State) → Decidable (Throughout step condition calls state)
  | [], _ => .isTrue trivial
  | call :: rest, state =>
    have := decidableThroughout rest (step state call)
    inferInstanceAs (Decidable (_ ∧ _))

variable {calls : List Call} {state : State}

theorem Throughout.mono {weaker : Call → State → Prop}
    (hweaker : ∀ call state, condition call state → weaker call state)
    (hcalls : Throughout step condition calls state) :
    Throughout step weaker calls state := by
  induction calls generalizing state with
  | nil => exact trivial
  | cons call rest ih => exact ⟨hweaker call state hcalls.1, ih hcalls.2⟩

theorem Throughout.invariant {Inv : State → Prop}
    (hkeep : ∀ state call, Inv state → condition call state → Inv (step state call))
    (hcalls : Throughout step condition calls state) (hstate : Inv state) :
    Inv (calls.foldl step state) := by
  induction calls generalizing state with
  | nil => exact hstate
  | cons call rest ih => exact ih hcalls.2 (hkeep state call hstate hcalls.1)

theorem throughout_and {other : Call → State → Prop}
    (hcalls : Throughout step condition calls state) (hother : Throughout step other calls state) :
    Throughout step (fun call state => condition call state ∧ other call state) calls state := by
  induction calls generalizing state with
  | nil => exact trivial
  | cons call rest ih => exact ⟨⟨hcalls.1, hother.1⟩, ih hcalls.2 hother.2⟩

theorem throughout_concat {call : Call} :
    Throughout step condition (calls ++ [call]) state ↔
      Throughout step condition calls state ∧ condition call (calls.foldl step state) := by
  induction calls generalizing state with
  | nil => exact and_comm
  | cons first rest ih =>
    rw [List.cons_append, Throughout, Throughout, ih, and_assoc]
    rfl

theorem forall_prefix_iff_throughout {Inv good : State → Prop}
    (hgood : ∀ state, Inv state → good state)
    (hkeep : ∀ state call, Inv state → condition call state → Inv (step state call))
    (hneeded : ∀ state call, Inv state → good (step state call) → condition call state)
    (hstate : Inv state) :
    (∀ before, before <+: calls → good (before.foldl step state)) ↔
      Throughout step condition calls state := by
  induction calls generalizing state with
  | nil =>
    refine iff_of_true (fun before hbefore => ?_) trivial
    rw [List.prefix_nil.mp hbefore]
    exact hgood state hstate
  | cons call rest ih =>
    constructor
    · intro hall
      have hfirst : [call] <+: call :: rest := (List.prefix_append [call] rest)
      have hcall : condition call state := hneeded state call hstate (hall [call] hfirst)
      refine ⟨hcall, (ih (hkeep state call hstate hcall)).mp fun before hbefore => ?_⟩
      exact hall (call :: before) (List.cons_prefix_cons.mpr ⟨rfl, hbefore⟩)
    · intro hcalls before hbefore
      cases before with
      | nil => exact hgood state hstate
      | cons first before =>
        obtain ⟨rfl, hrest⟩ := List.cons_prefix_cons.mp hbefore
        exact (ih (hkeep state first hstate hcalls.1)).mpr hcalls.2 before hrest

end Calls

end DeskflowPlus
