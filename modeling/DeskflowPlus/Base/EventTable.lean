import DeskflowPlus.Lib.KeyedList
import DeskflowPlus.Lib.Run
import Mathlib.Data.List.Nodup

/-!
# The table of saved events

An event that a buffer cannot hold is saved under a number, and the number goes through the buffer. The
numbers of removed events are used again, the last one first; without one the next number is the count
of the saved events.
-/

namespace DeskflowPlus

/-- The events by their numbers, and the numbers to use again with the last one first. -/
structure EventTable (Event : Type) where
  events : List (UInt32 × Event) := []
  oldEventIDs : List UInt32 := []

inductive EventTableCall (Event : Type) where
  | saveEvent (event : Event)
  | removeEvent (eventID : UInt32)

/-- What a call did. -/
inductive EventTableAnswer (Event : Type) where
  | saved (id : UInt32) (event : Event)
  | removed (id : UInt32) (event : Event)

namespace EventTable

variable {Event : Type}

def find (table : EventTable Event) (id : UInt32) : Option Event :=
  KeyedList.find (fun id => id) table.events id

def chooseId (table : EventTable Event) : UInt32 × List UInt32 :=
  match table.oldEventIDs with
  | id :: rest => (id, rest)
  | [] => (UInt32.ofNat table.events.length, [])

def saveEvent (table : EventTable Event) (event : Event) : UInt32 × EventTable Event :=
  let (id, oldEventIDs) := table.chooseId
  (id, { events := (id, event) :: KeyedList.erase (fun id => id) table.events id, oldEventIDs })

def removeEvent [Inhabited Event] (table : EventTable Event) (eventID : UInt32) :
    Event × EventTable Event :=
  match table.find eventID with
  | none => (default, table)
  | some event =>
    (event, { events := KeyedList.erase (fun id => id) table.events eventID
              oldEventIDs := eventID :: table.oldEventIDs })

end EventTable

/-- The table with what the calls so far did, the last one first. -/
structure EventTableRun (Event : Type) where
  table : EventTable Event := {}
  history : List (EventTableAnswer Event) := []

namespace EventTableRun

open EventTable

variable {Event : Type}

/-- The event of the latest save under a number, unless it was removed since. -/
def kept : List (EventTableAnswer Event) → UInt32 → Option Event
  | [], _ => none
  | .saved id event :: earlier, other => if id = other then some event else kept earlier other
  | .removed id _ :: earlier, other => if id = other then none else kept earlier other

variable [Inhabited Event]

def Faithful : List (EventTableAnswer Event) → Prop
  | [] => True
  | .saved id _ :: earlier => kept earlier id = none ∧ Faithful earlier
  | .removed id event :: earlier => event = (kept earlier id).getD default ∧ Faithful earlier

def call (run : EventTableRun Event) : EventTableCall Event → EventTableRun Event
  | .saveEvent event =>
    let (id, table) := run.table.saveEvent event
    { table, history := .saved id event :: run.history }
  | .removeEvent eventID =>
    let (event, table) := run.table.removeEvent eventID
    { table, history := .removed eventID event :: run.history }

def machine : Machine (EventTableRun Event) (EventTableCall Event) where
  start run := run = {}
  step run event := some (run.call event)

def HasRoom (run : EventTableRun Event) : EventTableCall Event → Prop
  | .saveEvent _ => run.table.events.length < 2 ^ 32
  | .removeEvent _ => True

/-- The numbers in use and those to use again. -/
def ids (table : EventTable Event) : List UInt32 := table.events.map Prod.fst ++ table.oldEventIDs

/-- The numbers are different ones, below their count, and the table holds the kept events. -/
structure Ok (run : EventTableRun Event) : Prop where
  nodup : (ids run.table).Nodup
  bound : ∀ id ∈ ids run.table, id.toNat < (ids run.table).length
  find : ∀ id, run.table.find id = kept run.history id
  faithful : Faithful run.history

variable {run : EventTableRun Event} {table : EventTable Event} {id : UInt32}

omit [Inhabited Event] in
theorem find_eq_none_iff : table.find id = none ↔ id ∉ table.events.map Prod.fst := by
  rw [EventTable.find, KeyedList.find_eq_none, List.mem_map]
  constructor
  · rintro h ⟨entry, hentry, heq⟩
    exact h entry hentry heq
  · intro h entry hentry heq
    exact h ⟨entry, hentry, heq⟩

omit [Inhabited Event] in
theorem erase_of_find_eq_none (h : table.find id = none) :
    KeyedList.erase (fun id => id) table.events id = table.events := by
  apply List.filter_eq_self.mpr
  intro entry hentry
  exact decide_eq_true (KeyedList.find_eq_none.mp h entry hentry)

theorem Ok.chooseId (h : run.Ok) (hroom : run.table.events.length < 2 ^ 32) :
    let ids := run.table.chooseId.1 :: (run.table.events.map Prod.fst ++ run.table.chooseId.2)
    run.table.find run.table.chooseId.1 = none ∧ ids.Nodup ∧ ∀ id ∈ ids, id.toNat < ids.length := by
  have hnodup := h.nodup
  have hbound := h.bound
  unfold ids at hnodup hbound
  unfold EventTable.chooseId
  cases hold : run.table.oldEventIDs with
  | nil =>
    rw [hold, List.append_nil, List.length_map] at hbound
    rw [hold, List.append_nil] at hnodup
    have hvalue : (UInt32.ofNat run.table.events.length).toNat = run.table.events.length :=
      UInt32.toNat_ofNat_of_lt' hroom
    have hfresh : UInt32.ofNat run.table.events.length ∉ run.table.events.map Prod.fst := by
      intro hmem
      exact absurd (hbound _ hmem) (by omega)
    dsimp only
    rw [List.append_nil, List.length_cons, List.length_map]
    refine ⟨find_eq_none_iff.mpr hfresh, List.nodup_cons.mpr ⟨hfresh, hnodup⟩, fun other hother => ?_⟩
    obtain rfl | hother := List.mem_cons.mp hother
    · omega
    · have := hbound other hother
      omega
  | cons id rest =>
    rw [hold] at hnodup hbound
    have hperm : (run.table.events.map Prod.fst ++ id :: rest).Perm
        (id :: (run.table.events.map Prod.fst ++ rest)) := List.perm_middle
    have hsplit := hperm.nodup_iff.mp hnodup
    have hfresh : id ∉ run.table.events.map Prod.fst := fun hmem =>
      (List.nodup_cons.mp hsplit).1 (List.mem_append_left _ hmem)
    refine ⟨find_eq_none_iff.mpr hfresh, hsplit, fun other hother => ?_⟩
    have hless := hbound other (hperm.mem_iff.mpr hother)
    rwa [hperm.length_eq] at hless

omit [Inhabited Event] in
theorem find_saveEvent {event : Event} (h : table.find table.chooseId.1 = none) :
    (table.saveEvent event).2.find id =
      if table.chooseId.1 = id then some event else table.find id := by
  show KeyedList.find (fun id => id) ((table.chooseId.1, event) ::
    KeyedList.erase (fun id => id) table.events table.chooseId.1) id = _
  rw [erase_of_find_eq_none h, KeyedList.find_cons]
  rfl

theorem removeEvent_of_none (h : table.find id = none) : table.removeEvent id = (default, table) := by
  rw [EventTable.removeEvent, h]

theorem removeEvent_of_some {event : Event} (h : table.find id = some event) :
    table.removeEvent id = (event, { events := KeyedList.erase (fun id => id) table.events id
                                     oldEventIDs := id :: table.oldEventIDs }) := by
  rw [EventTable.removeEvent, h]

theorem Ok.saveEvent (h : run.Ok) (hroom : run.table.events.length < 2 ^ 32) (event : Event) :
    (run.call (.saveEvent event)).Ok := by
  obtain ⟨hnone, hnodup, hbound⟩ := h.chooseId hroom
  have hids : ids (run.table.saveEvent event).2 = (run.table.chooseId).1 ::
      (run.table.events.map Prod.fst ++ (run.table.chooseId).2) := by
    unfold ids EventTable.saveEvent
    dsimp only
    exact congrArg (fun events => _ :: (events.map Prod.fst ++ _)) (erase_of_find_eq_none hnone)
  refine ⟨?_, ?_, fun id => ?_, (h.find _).symm.trans hnone, h.faithful⟩
  · exact hids ▸ hnodup
  · show ∀ id ∈ ids (run.table.saveEvent event).2, id.toNat < (ids (run.table.saveEvent event).2).length
    rw [hids]
    exact hbound
  · calc
      (run.table.saveEvent event).2.find id =
          if run.table.chooseId.1 = id then some event else run.table.find id := find_saveEvent hnone
      _ = kept (.saved run.table.chooseId.1 event :: run.history) id := by rw [h.find id, kept]

theorem Ok.removeEvent (h : run.Ok) (eventID : UInt32) :
    (run.call (.removeEvent eventID)).Ok := by
  have hcall : run.call (.removeEvent eventID) =
      { table := (run.table.removeEvent eventID).2
        history := .removed eventID (run.table.removeEvent eventID).1 :: run.history } := rfl
  have hfind := h.find eventID
  cases hkept : run.table.find eventID with
  | none =>
    rw [hcall, removeEvent_of_none hkept]
    refine ⟨h.nodup, h.bound, fun id => ?_, ?_, h.faithful⟩
    · show run.table.find id = if eventID = id then none else kept run.history id
      split
      case isTrue heq => exact heq ▸ hkept
      case isFalse => exact h.find id
    · rw [← hfind, hkept]
      rfl
  | some event =>
    have hmem : eventID ∈ run.table.events.map Prod.fst := by
      by_contra hmissing
      exact Option.some_ne_none event (hkept.symm.trans (find_eq_none_iff.mpr hmissing))
    have herase : (KeyedList.erase (fun id => id) run.table.events eventID).map Prod.fst =
        (run.table.events.map Prod.fst).erase eventID := by
      rw [(List.nodup_append.mp h.nodup).1.erase_eq_filter, List.filter_map]
      congr 1
      apply List.filter_congr
      intro entry _
      by_cases heq : entry.1 = eventID <;> simp [heq]
    have hperm : ((run.table.events.map Prod.fst).erase eventID ++ eventID :: run.table.oldEventIDs).Perm
        (ids run.table) :=
      calc
        ((run.table.events.map Prod.fst).erase eventID ++ eventID :: run.table.oldEventIDs).Perm
            (eventID :: ((run.table.events.map Prod.fst).erase eventID ++ run.table.oldEventIDs)) :=
          List.perm_middle
        List.Perm _ (ids run.table) :=
          (List.perm_cons_erase hmem).symm.append_right run.table.oldEventIDs
    rw [hcall, removeEvent_of_some hkept]
    refine ⟨?_, fun id hid => ?_, fun id => ?_, ?_, h.faithful⟩
    · unfold ids
      rw [herase]
      exact hperm.nodup_iff.mpr h.nodup
    · unfold ids at hid ⊢
      rw [herase] at hid ⊢
      rw [hperm.length_eq]
      exact h.bound id (hperm.mem_iff.mp hid)
    · calc
        KeyedList.find (fun id => id) (KeyedList.erase (fun id => id) run.table.events eventID) id =
            if eventID = id then none else run.table.find id := KeyedList.find_erase
        _ = kept (.removed eventID event :: run.history) id := by rw [h.find id, kept]
    · rw [← hfind, hkept]
      rfl

theorem Ok.call (h : run.Ok) {call : EventTableCall Event} (hroom : run.HasRoom call) :
    (run.call call).Ok := by
  cases call with
  | saveEvent event => exact h.saveEvent hroom event
  | removeEvent eventID => exact h.removeEvent eventID

theorem Ok.empty : ({} : EventTableRun Event).Ok where
  nodup := List.nodup_nil
  bound id h := absurd h List.not_mem_nil
  find _ := rfl
  faithful := trivial

/-- **The numbers of events.** While there is room, the stored events have different numbers, none of
them is to be used again, and each removal returns the kept event. -/
theorem ids_faithful {run : EventTableRun Event} (hrun : machine.Reachable HasRoom run) :
    (run.table.events.map Prod.fst).Nodup ∧
      (∀ id ∈ run.table.oldEventIDs, id ∉ run.table.events.map Prod.fst) ∧
      run.table.oldEventIDs.Nodup ∧ Faithful run.history ∧
      ∀ id, run.table.find id = kept run.history id := by
  have hok : run.Ok := by
    refine hrun.invariant (fun state hstart => ?_) fun state call next h hroom hstep => ?_
    · obtain rfl : state = {} := hstart
      exact Ok.empty
    · obtain rfl := Option.some.inj hstep
      exact h.call hroom
  obtain ⟨hstored, hold, hapart⟩ := List.nodup_append.mp hok.nodup
  refine ⟨hstored, fun id hid hmem => ?_, hold, hok.faithful, hok.find⟩
  exact hapart id hmem id hid rfl

theorem ids_faithful_three : Faithful ((((({} : EventTableRun Nat).call (.saveEvent 7)).call
    (.removeEvent 0)).call (.saveEvent 8)).history) := by
  have hfirst : machine.Run HasRoom ({} : EventTableRun Nat) _ :=
    @Machine.Run.tail _ _ _ _ _ _ _ (.saveEvent 7) .refl (show 0 < 2 ^ 32 by decide) rfl
  have hsecond := @Machine.Run.tail _ _ _ _ _ _ _ (EventTableCall.removeEvent 0) hfirst trivial rfl
  have hthird := @Machine.Run.tail _ _ _ _ _ _ _ (EventTableCall.saveEvent 8) hsecond
    (show 0 < 2 ^ 32 by decide) rfl
  exact (ids_faithful ⟨{}, rfl, hthird⟩).2.2.2.1

def saves : Nat → EventTableRun Nat
  | 0 => {}
  | n + 1 => (saves n).call (.saveEvent n)

theorem saves_spec {n : Nat} (h : n ≤ 2 ^ 32) : (saves n).Ok ∧
    (saves n).table.events.length = n ∧ (saves n).table.oldEventIDs = [] ∧
    (0 < n → (kept (saves n).history 0).isSome = true) := by
  induction n with
  | zero => exact ⟨Ok.empty, rfl, rfl, fun hpos => absurd hpos (Nat.lt_irrefl 0)⟩
  | succ n ih =>
    obtain ⟨hok, hlength, hold, hkept⟩ := ih (Nat.le_of_succ_le h)
    have hroom : (saves n).table.events.length < 2 ^ 32 := by omega
    have hid : (saves n).table.chooseId = (UInt32.ofNat n, []) := by
      rw [EventTable.chooseId, hold, hlength]
    have hfresh : (saves n).table.find (saves n).table.chooseId.1 = none := (hok.chooseId hroom).1
    refine ⟨hok.saveEvent hroom n, ?_, congrArg Prod.snd hid, fun _ => ?_⟩
    · show (KeyedList.erase (fun id => id) (saves n).table.events (saves n).table.chooseId.1).length + 1
        = n + 1
      rw [erase_of_find_eq_none hfresh, hlength]
    · show (if (saves n).table.chooseId.1 = 0 then some n else kept (saves n).history 0).isSome = true
      rw [hid]
      split
      case isTrue => rfl
      case isFalse hne =>
        refine hkept (Nat.pos_of_ne_zero fun hzero => hne ?_)
        rw [hzero]
        rfl

theorem not_faithful_saves {n : Nat} (h : n = 2 ^ 32) : ¬ Faithful (saves (n + 1)).history := by
  obtain ⟨-, hlength, hold, hkept⟩ := saves_spec (Nat.le_of_eq h)
  have hid : (saves n).table.chooseId.1 = 0 := by
    rw [EventTable.chooseId, hold, hlength, h]
    rfl
  intro hfaithful
  have hnone : kept (saves n).history (saves n).table.chooseId.1 = none := hfaithful.1
  rw [hid] at hnone
  have hsome := hkept (h ▸ by decide)
  rw [hnone] at hsome
  cases hsome

theorem reachable_saves (n : Nat) : machine.Reachable (fun _ _ => True) (saves n) := by
  refine ⟨{}, rfl, ?_⟩
  induction n with
  | zero => exact .refl
  | succ n ih => exact ih.tail trivial rfl

/-- The event behind as many as there are numbers takes the place of the first one. -/
theorem first_overwritten : ∃ n, machine.Reachable (fun _ _ => True) (saves n) ∧
    n = 2 ^ 32 + 1 ∧ ¬ Faithful (saves n).history :=
  ⟨2 ^ 32 + 1, reachable_saves _, rfl, not_faithful_saves rfl⟩

end EventTableRun

end DeskflowPlus
