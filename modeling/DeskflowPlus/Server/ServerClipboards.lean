import DeskflowPlus.Clipboard.Clipboard
import DeskflowPlus.Clipboard.ClipboardChunk
import DeskflowPlus.Server.Server

/-!
# The server's clipboards

The server keeps, for each clipboard, what it holds and the string it was last shared as, with the
screen that owns it and the sequence number of the grab. A screen grabs a clipboard and then updates
it; the server's own screen updates its clipboards when the cursor leaves it.
-/

namespace DeskflowPlus

structure ClipboardInfo where
  clipboard : Clipboard := {}
  data : List UInt8
  owner : String
  seqNum : UInt32 := 0

namespace ClipboardInfo

def clear (info : ClipboardInfo) : ClipboardInfo :=
  let clipboard := (info.clipboard.openAt 0).empty.close
  { info with clipboard := clipboard, data := clipboard.marshall.1 }

/-- Grabbing, which clears the clipboard: what it will hold is not known yet. -/
def grab (owner : String) (seqNum : UInt32) (info : ClipboardInfo) : ClipboardInfo :=
  { info with owner, seqNum }.clear

/-- `getClipboard` of the sender's proxy, which leaves the clipboard as it is where it fails. -/
def received (info : ClipboardInfo) : Option Clipboard → Clipboard
  | some source => info.clipboard.copy source source.timeOwned
  | none => info.clipboard

def update (limit : Nat) (source : Option Clipboard) (seqNum : UInt32) (info : ClipboardInfo) :
    ClipboardInfo × Bool :=
  if seqNum < info.seqNum then (info, false)
  else
    -- should be the expected client, which is asserted only
    let clipboard := info.received source
    let data := clipboard.marshall.1
    if limit < data.length then ({ info with clipboard }, false)
    else if data = info.data then ({ info with clipboard }, false)
    else ({ info with clipboard, data }, true)

end ClipboardInfo

structure ClipboardUpdate where
  sender : ClientProxy
  seqNum : UInt32
  earlier : ClipboardInfo
  later : ClipboardInfo
  shared : Bool

/-- What the proxy of a screen is told about a clipboard. -/
inductive ClipboardCommand where
  | setClipboard (id : ClipboardID) (clipboard : Clipboard)
  | grabClipboard (id : ClipboardID)
  | setClipboardDirty (id : ClipboardID) (dirty : Bool)

structure ServerClipboards where
  server : Server
  enableClipboard : Bool := true
  maximumClipboardSize : Nat := 2147483647
  clipboards : ClipboardID → ClipboardInfo
  /-- Oldest first. -/
  commands : List (ClientProxy × ClipboardCommand) := []
  /-- Oldest first. -/
  updates : List ClipboardUpdate := []

namespace ServerClipboards

def ids : List ClipboardID := [0, 1]

variable {Fraction : Type} (setup : ServerSetup Fraction) (io : ServerIo)
  (held : ClientProxy → ClipboardID → Option Clipboard) (state : ServerClipboards)

def limit : Nat := state.maximumClipboardSize * 1024

/-- What the screens hold is what `getClipboard` of their proxies finds. -/
def updateOf (sender : ClientProxy) (id : ClipboardID) (seqNum : UInt32) : ClipboardUpdate :=
  let earlier := state.clipboards id
  let (later, shared) := earlier.update state.limit (held sender id) seqNum
  { sender, seqNum, earlier, later, shared }

def onClipboardChanged (sender : ClientProxy) (id : ClipboardID) (seqNum : UInt32) :
    ServerClipboards :=
  let update := state.updateOf held sender id seqNum
  { state with
    clipboards := Function.update state.clipboards id update.later
    updates := state.updates ++ [update]
    commands :=
      if update.shared then
        state.commands ++
          (state.server.clients.map fun entry =>
            (entry.2, .setClipboardDirty id (entry.2 ≠ sender))) ++
          [(state.server.active, .setClipboard id update.later.clipboard)]
      else state.commands }

def handleClipboardChanged (client : ClientProxy) (id : ClipboardID) (seqNum : UInt32) :
    ServerClipboards :=
  -- ignore events from unknown clients
  if client ∉ state.server.clientSet then state
  else state.onClipboardChanged held client id seqNum

/-- Whether the server's own screen updates a clipboard: where only those that it owns are meant,
the others are passed over. -/
def Selected (owned : Bool) (id : ClipboardID) : Prop :=
  owned = true → (state.clipboards id).owner = setup.getName setup.primaryClient

instance (owned : Bool) (id : ClipboardID) : Decidable (state.Selected setup owned id) :=
  inferInstanceAs (Decidable (_ → _))

def primaryUpdateOf (id : ClipboardID) : ClipboardUpdate :=
  state.updateOf held setup.primaryClient id (state.clipboards id).seqNum

def updatePrimary (owned : Bool) (clipboards : List ClipboardID) : ServerClipboards :=
  clipboards.foldl
    (fun state id =>
      if state.Selected setup owned id then
        state.onClipboardChanged held setup.primaryClient id (state.clipboards id).seqNum
      else state)
    state

def grabClipboard (grabber : ClientProxy) (id : ClipboardID) (seqNum : UInt32) : ServerClipboards :=
  { state with
    clipboards :=
      Function.update state.clipboards id
        ((state.clipboards id).grab (setup.getName grabber) seqNum)
    commands :=
      state.commands ++ state.server.clients.map fun entry =>
        (entry.2,
          if entry.2 = grabber then .setClipboardDirty id false else .grabClipboard id) }

def handleClipboardGrabbed (grabber : ClientProxy) (id : ClipboardID) (seqNum : UInt32) :
    ServerClipboards :=
  if state.enableClipboard = false ∨ state.maximumClipboardSize = 0 then state
  -- ignore events from unknown clients
  else if grabber ∉ state.server.clientSet then state
  -- ignore grab if sequence number is old. always allow primary screen to grab.
  else if grabber ≠ setup.primaryClient ∧ seqNum < (state.clipboards id).seqNum then state
  else
    let state := state.grabClipboard setup grabber id seqNum
    if grabber = setup.primaryClient ∧ state.server.active ≠ setup.primaryClient then
      state.updatePrimary setup held false ids
    else state

def leaves : Bool := if state.server.active = setup.primaryClient then io.leaves else true

/-- What a screen that is entered is sent. -/
def sendClipboards : ServerClipboards :=
  { state with
    commands :=
      state.commands ++
        (ids.filter fun id => (state.clipboards id).clipboard.marshall.1.length ≤ state.limit).map
          fun id => (state.server.active, .setClipboard id (state.clipboards id).clipboard) }

/-- The part of a switch from the cut over on. -/
def enterScreen (server : Server) : ServerClipboards :=
  let entered : ServerClipboards := { state with server := server }
  if state.enableClipboard then entered.sendClipboards else entered

def switchScreen (dst : ClientProxy) (x y : Int) : ServerClipboards :=
  let leaves := state.leaves setup io
  let server := state.server.switchScreen { io with leaves } dst x y
  if state.server.active ≠ dst ∧ leaves = true then
    -- update the primary client's clipboards if we're leaving the primary screen
    let state :=
      if state.server.active = setup.primaryClient ∧ state.enableClipboard = true then
        state.updatePrimary setup held true ids
      else state
    state.enterScreen server
  else { state with server := server }

/-- The part of `processOptions` about the clipboards. -/
def processOptions (enableClipboard : Bool) (maximumClipboardSize : Nat) : ServerClipboards :=
  { state with enableClipboard, maximumClipboardSize }

variable {setup held state} {io : ServerIo} {sender : ClientProxy} {id other : ClipboardID}
  {seqNum : UInt32} {owned : Bool} {clipboards : List ClipboardID}

@[simp]
theorem updates_onClipboardChanged :
    (state.onClipboardChanged held sender id seqNum).updates =
      state.updates ++ [state.updateOf held sender id seqNum] := rfl

@[simp]
theorem clipboards_onClipboardChanged :
    (state.onClipboardChanged held sender id seqNum).clipboards =
      Function.update state.clipboards id (state.updateOf held sender id seqNum).later := rfl

theorem clipboards_onClipboardChanged_of_ne (hother : other ≠ id) :
    (state.onClipboardChanged held sender id seqNum).clipboards other = state.clipboards other :=
  Function.update_of_ne hother _ _

theorem updateOf_congr {next : ServerClipboards} (hid : next.clipboards id = state.clipboards id)
    (hlimit : next.limit = state.limit) :
    next.updateOf held sender id seqNum = state.updateOf held sender id seqNum := by
  rw [updateOf, updateOf, hid, hlimit]

structure PrimaryUpdates (setup : ServerSetup Fraction)
    (held : ClientProxy → ClipboardID → Option Clipboard) (owned : Bool)
    (clipboards : List ClipboardID) (state next : ServerClipboards) : Prop where
  server : next.server = state.server
  enableClipboard : next.enableClipboard = state.enableClipboard
  maximumClipboardSize : next.maximumClipboardSize = state.maximumClipboardSize
  updates : next.updates =
    state.updates ++
      (clipboards.filter (state.Selected setup owned)).map (state.primaryUpdateOf setup held)
  selected : ∀ id ∈ clipboards, state.Selected setup owned id →
    next.clipboards id = (state.primaryUpdateOf setup held id).later
  others : ∀ id, id ∉ clipboards ∨ ¬ state.Selected setup owned id →
    next.clipboards id = state.clipboards id

theorem primaryUpdates_updatePrimary (hnodup : clipboards.Nodup) :
    PrimaryUpdates setup held owned clipboards state
      (state.updatePrimary setup held owned clipboards) := by
  induction clipboards generalizing state with
  | nil => exact ⟨rfl, rfl, rfl, (List.append_nil _).symm, nofun, fun _ _ => rfl⟩
  | cons first rest ih =>
    obtain ⟨hfirst, hrest⟩ := List.nodup_cons.mp hnodup
    by_cases hselected : state.Selected setup owned first
    · let middle :=
        state.onClipboardChanged held setup.primaryClient first (state.clipboards first).seqNum
      have hstep : state.updatePrimary setup held owned (first :: rest) =
          middle.updatePrimary setup held owned rest := by
        rw [updatePrimary, List.foldl_cons, if_pos hselected]
        rfl
      have hkept (id : ClipboardID) (hid : id ≠ first) :
          middle.clipboards id = state.clipboards id :=
        clipboards_onClipboardChanged_of_ne hid
      have hagree (id : ClipboardID) (hid : id ≠ first) :
          (middle.Selected setup owned id ↔ state.Selected setup owned id) ∧
            middle.primaryUpdateOf setup held id = state.primaryUpdateOf setup held id := by
        rw [Selected, Selected, primaryUpdateOf, primaryUpdateOf, hkept id hid]
        exact ⟨Iff.rfl, updateOf_congr (hkept id hid) rfl⟩
      have hmem : ∀ id ∈ rest, id ≠ first := by
        rintro id hid rfl
        exact hfirst hid
      have hmiddle := @ih middle hrest
      rw [hstep]
      refine
        { server := hmiddle.server
          enableClipboard := hmiddle.enableClipboard
          maximumClipboardSize := hmiddle.maximumClipboardSize
          updates := ?_
          selected := fun id hid hid' => ?_
          others := fun id hid => ?_ }
      · have hfilter : rest.filter (middle.Selected setup owned) =
            rest.filter (state.Selected setup owned) := by
          apply List.filter_congr
          intro id hid
          exact decide_eq_decide.mpr (hagree id (hmem id hid)).1
        have hmap : (rest.filter (state.Selected setup owned)).map
            (middle.primaryUpdateOf setup held) =
              (rest.filter (state.Selected setup owned)).map
                (state.primaryUpdateOf setup held) := by
          apply List.map_congr_left
          intro id hid
          exact (hagree id (hmem id (List.mem_of_mem_filter hid))).2
        have hcons : (first :: rest).filter (state.Selected setup owned) =
            first :: rest.filter (state.Selected setup owned) := by
          simp [hselected]
        rw [hmiddle.updates, hfilter, hmap, hcons, updates_onClipboardChanged, List.append_assoc]
        rfl
      · by_cases hsame : id = first
        · subst hsame
          rw [hmiddle.others id (.inl hfirst)]
          exact Function.update_self ..
        · have hrest' : id ∈ rest := (List.mem_cons.mp hid).resolve_left hsame
          rw [hmiddle.selected id hrest' ((hagree id hsame).1.mpr hid'), (hagree id hsame).2]
      · have hsame : id ≠ first := by
          rintro rfl
          exact hid.elim (fun h => h List.mem_cons_self) fun h => h hselected
        have hid' : id ∉ rest ∨ ¬ middle.Selected setup owned id := by
          rw [(hagree id hsame).1]
          exact hid.imp_left fun h hmem => h (List.mem_cons_of_mem _ hmem)
        rw [hmiddle.others id hid', hkept id hsame]
    · have hstep : state.updatePrimary setup held owned (first :: rest) =
          state.updatePrimary setup held owned rest := by
        rw [updatePrimary, List.foldl_cons, if_neg hselected]
        rfl
      have hnext := @ih state hrest
      rw [hstep]
      refine
        { server := hnext.server
          enableClipboard := hnext.enableClipboard
          maximumClipboardSize := hnext.maximumClipboardSize
          updates := ?_
          selected := fun id hid hid' => ?_
          others := fun id hid => ?_ }
      · rw [hnext.updates, List.filter_cons_of_neg]
        simpa using hselected
      · have hsame : id ≠ first := by
          rintro rfl
          exact hselected hid'
        exact hnext.selected id ((List.mem_cons.mp hid).resolve_left hsame) hid'
      · exact hnext.others id (hid.imp_left fun h hmem => h (List.mem_cons_of_mem _ hmem))

def Grabs (setup : ServerSetup Fraction) (state : ServerClipboards) (grabber : ClientProxy)
    (id : ClipboardID) (seqNum : UInt32) : Prop :=
  state.enableClipboard = true ∧ state.maximumClipboardSize ≠ 0 ∧
    grabber ∈ state.server.clientSet ∧
    (grabber = setup.primaryClient ∨ (state.clipboards id).seqNum ≤ seqNum)

variable {grabber : ClientProxy}

theorem handleClipboardGrabbed_of_not_grabs (h : ¬ state.Grabs setup grabber id seqNum) :
    state.handleClipboardGrabbed setup held grabber id seqNum = state := by
  rw [handleClipboardGrabbed]
  by_cases hdisabled : state.enableClipboard = false ∨ state.maximumClipboardSize = 0
  · rw [if_pos hdisabled]
  rw [if_neg hdisabled]
  by_cases hunknown : grabber ∉ state.server.clientSet
  · rw [if_pos hunknown]
  rw [if_neg hunknown]
  by_cases hold : grabber ≠ setup.primaryClient ∧ seqNum < (state.clipboards id).seqNum
  · rw [if_pos hold]
  obtain ⟨henabled, hsize⟩ := not_or.mp hdisabled
  refine absurd ⟨by simpa using henabled, hsize, not_not.mp hunknown, ?_⟩ h
  rw [not_and_or, not_not, UInt32.not_lt] at hold
  exact hold

theorem handleClipboardGrabbed_of_grabs (h : state.Grabs setup grabber id seqNum) :
    state.handleClipboardGrabbed setup held grabber id seqNum =
      if grabber = setup.primaryClient ∧ state.server.active ≠ setup.primaryClient then
        (state.grabClipboard setup grabber id seqNum).updatePrimary setup held false ids
      else state.grabClipboard setup grabber id seqNum := by
  obtain ⟨henabled, hsize, hknown, horder⟩ := h
  have hdisabled : ¬ (state.enableClipboard = false ∨ state.maximumClipboardSize = 0) := by
    simp [henabled, hsize]
  have hold : ¬ (grabber ≠ setup.primaryClient ∧ seqNum < (state.clipboards id).seqNum) := by
    rw [not_and_or, not_not, UInt32.not_lt]
    exact horder
  rw [handleClipboardGrabbed, if_neg hdisabled, if_neg (not_not.mpr hknown), if_neg hold]
  rfl

theorem clipboards_grabClipboard :
    (state.grabClipboard setup grabber id seqNum).clipboards =
      Function.update state.clipboards id
        ((state.clipboards id).grab (setup.getName grabber) seqNum) := rfl

/-- Whether the server's own screen updates its clipboards on a switch. -/
def LeavesPrimary (setup : ServerSetup Fraction) (io : ServerIo) (state : ServerClipboards)
    (dst : ClientProxy) : Prop :=
  state.server.active ≠ dst ∧ io.leaves = true ∧ state.server.active = setup.primaryClient ∧
    state.enableClipboard = true

theorem enterScreen_eq (state : ServerClipboards) (server : Server) :
    (state.enterScreen server).clipboards = state.clipboards ∧
      (state.enterScreen server).updates = state.updates ∧
      (state.enterScreen server).server = server := by
  rw [enterScreen]
  by_cases henabled : state.enableClipboard = true
  · rw [if_pos henabled]
    exact ⟨rfl, rfl, rfl⟩
  · rw [if_neg henabled]
    exact ⟨rfl, rfl, rfl⟩

theorem switchScreen_spec {dst : ClientProxy} {x y : Int} :
    ∃ middle : ServerClipboards,
      (state.LeavesPrimary setup io dst → PrimaryUpdates setup held true ids state middle) ∧
      (¬ state.LeavesPrimary setup io dst → middle = state) ∧
      (state.switchScreen setup io held dst x y).clipboards = middle.clipboards ∧
      (state.switchScreen setup io held dst x y).updates = middle.updates ∧
      (state.switchScreen setup io held dst x y).server =
        state.server.switchScreen { io with leaves := state.leaves setup io } dst x y := by
  rw [switchScreen]
  by_cases hleft : state.server.active ≠ dst ∧ state.leaves setup io = true
  · rw [if_pos hleft]
    by_cases hupdates :
        state.server.active = setup.primaryClient ∧ state.enableClipboard = true
    · rw [if_pos hupdates]
      refine ⟨_, fun _ => primaryUpdates_updatePrimary (by decide), fun hstays => ?_, ?_⟩
      · have hleaves : io.leaves = true := by
          have := hleft.2
          rwa [leaves, if_pos hupdates.1] at this
        exact absurd ⟨hleft.1, hleaves, hupdates⟩ hstays
      · exact enterScreen_eq _ _
    · rw [if_neg hupdates]
      exact ⟨state, fun h => absurd h.2.2 hupdates, fun _ => rfl, enterScreen_eq _ _⟩
  · rw [if_neg hleft]
    refine ⟨state, fun h => absurd ⟨h.1, ?_⟩ hleft, fun _ => rfl, rfl, rfl, rfl⟩
    rw [leaves, if_pos h.2.2.1]
    exact h.2.1

end ServerClipboards

inductive ServerClipboardEvent where
  | grabbed (grabber : ClientProxy) (id : ClipboardID) (seqNum : UInt32)
  | changed (client : ClientProxy) (id : ClipboardID) (seqNum : UInt32)
  | switchScreen (dst : ClientProxy) (x y : Int)
  | adoptClient (client : ClientProxy)
  | clientDisconnected (client : ClientProxy)
  | processOptions (enableClipboard : Bool) (maximumClipboardSize : Nat)

/-- What the platform answers during an event, and what the screens' clipboards hold then. -/
structure ClipboardIo extends ServerIo where
  held : ClientProxy → ClipboardID → Option Clipboard

namespace ServerClipboards

/-- The server from its construction on. Clipboards are known by their numbers, a proxy is new when
it is adopted, the server's own screen stays, and the screens that are switched to are connected. -/
def machine {Fraction : Type} (setup : ServerSetup Fraction) :
    Machine ServerClipboards (ClipboardIo × ServerClipboardEvent) where
  start state := ∃ server : Server,
    server.clientSet = [setup.primaryClient] ∧
    server.clients = [(setup.getName setup.primaryClient, setup.primaryClient)] ∧
    state =
      { server
        clipboards := fun _ =>
          { data := ({} : Clipboard).marshall.1, owner := setup.getName setup.primaryClient } }
  step state call :=
    let (io, event) := call
    match event with
    | .grabbed grabber id seqNum =>
      if id < kClipboardEnd then
        some (state.handleClipboardGrabbed setup io.held grabber id seqNum)
      else none
    | .changed client id seqNum =>
      if id < kClipboardEnd then some (state.handleClipboardChanged io.held client id seqNum)
      else none
    | .switchScreen dst x y =>
      if dst ∈ state.server.clientSet then
        some (state.switchScreen setup io.toServerIo io.held dst x y)
      else none
    | .adoptClient client =>
      if state.server.Live client then none
      else some { state with server := state.server.adoptClient setup io.toServerIo client }
    | .clientDisconnected client =>
      if client ≠ setup.primaryClient ∧ state.server.Live client then
        some
          { state with server := state.server.handleClientDisconnected setup io.toServerIo client }
      else none
    | .processOptions enableClipboard maximumClipboardSize =>
      some (state.processOptions enableClipboard maximumClipboardSize)

end ServerClipboards

end DeskflowPlus
