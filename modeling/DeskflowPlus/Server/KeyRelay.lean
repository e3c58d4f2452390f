import DeskflowPlus.Options.ClientOptions
import DeskflowPlus.Server.Server
import Mathlib.Data.List.Infix

/-!
# Keys at the server

The server relays a key to the active screen, or to the screens of a list while the keyboard is
broadcast. A press and its release are relayed by the state that each of them meets. The list that a
key event brings is a text, which is empty for a key of the keyboard, and broadcasting puts its own
list in place of a null pointer only.
-/

namespace DeskflowPlus

structure KeyInfo where
  key : KeyID
  mask : KeyModifierMask
  button : KeyButton
  count : Int
  screens : String

namespace KeyInfo

/-- As the keyboard's own events are made, without destinations. -/
def alloc (key : KeyID) (mask : KeyModifierMask) (button : KeyButton) (count : Int) : KeyInfo :=
  { key, mask, button, count, screens := "" }

/-- The screens may be a null pointer. -/
def isDefault (screens : Option String) : Bool := screens.all (·.isEmpty)

/-- Names stand between colons in the text. -/
def contains (screens : Option String) (name : String) : Bool :=
  match screens with
  | none => false
  | some screens =>
    match screens.toList with
    | [] => false
    | '*' :: _ => true
    | chars => decide ((":" ++ name ++ ":").toList <:+: chars)

end KeyInfo

/-- What a client is sent about keys. -/
inductive KeyMessage where
  | keyDown (id : KeyID) (mask : KeyModifierMask) (button : KeyButton) (lang : String)
  | keyRepeat (id : KeyID) (mask : KeyModifierMask) (count : Int) (button : KeyButton)
      (lang : String)
  | keyUp (id : KeyID) (mask : KeyModifierMask) (button : KeyButton)
  | leave

structure KeyRelay where
  server : Server
  keyboardBroadcasting : Bool := false
  keyboardBroadcastingScreens : String := ""
  /-- Oldest first. -/
  sent : List (ClientProxy × KeyMessage) := []

namespace KeyRelay

variable (primaryClient : ClientProxy)

def send (client : ClientProxy) (message : KeyMessage) (relay : KeyRelay) : KeyRelay :=
  if client = primaryClient then relay
  else { relay with sent := relay.sent ++ [(client, message)] }

def recipients (screens : Option String) (relay : KeyRelay) : List ClientProxy :=
  if ¬ relay.keyboardBroadcasting ∧ KeyInfo.isDefault screens then [relay.server.active]
  else
    let screens :=
      if screens.isNone ∧ relay.keyboardBroadcasting then
        let screens := some relay.keyboardBroadcastingScreens
        if KeyInfo.isDefault screens then some "*" else screens
      else screens
    (relay.server.clients.filter fun entry => KeyInfo.contains screens entry.1).map (·.2)

def onKey (screens : Option String) (message : KeyMessage) (relay : KeyRelay) : KeyRelay :=
  (relay.recipients screens).foldl (fun relay client => relay.send primaryClient client message) relay

def onKeyDown (id : KeyID) (mask : KeyModifierMask) (button : KeyButton) (lang : String)
    (screens : Option String) (relay : KeyRelay) : KeyRelay :=
  relay.onKey primaryClient screens (.keyDown id mask button lang)

def onKeyUp (id : KeyID) (mask : KeyModifierMask) (button : KeyButton) (screens : Option String)
    (relay : KeyRelay) : KeyRelay :=
  relay.onKey primaryClient screens (.keyUp id mask button)

def onKeyRepeat (id : KeyID) (mask : KeyModifierMask) (count : Int) (button : KeyButton)
    (lang : String) (relay : KeyRelay) : KeyRelay :=
  relay.send primaryClient relay.server.active (.keyRepeat id mask count button lang)

def handleKeyDownEvent (info : KeyInfo) (lang : String) (relay : KeyRelay) : KeyRelay :=
  relay.onKeyDown primaryClient info.key info.mask info.button lang (some info.screens)

def handleKeyUpEvent (info : KeyInfo) (relay : KeyRelay) : KeyRelay :=
  relay.onKeyUp primaryClient info.key info.mask info.button (some info.screens)

def handleKeyRepeatEvent (info : KeyInfo) (lang : String) (relay : KeyRelay) : KeyRelay :=
  relay.onKeyRepeat primaryClient info.key info.mask info.count info.button lang

inductive KeyboardBroadcastState where
  | off
  | on
  | toggle

def handleKeyboardBroadcastEvent (state : KeyboardBroadcastState) (screens : String)
    (relay : KeyRelay) : KeyRelay :=
  let newState := match state with
    | .on => true
    | .off => false
    | .toggle => !relay.keyboardBroadcasting
  if newState ≠ relay.keyboardBroadcasting ∨ screens ≠ relay.keyboardBroadcastingScreens then
    { relay with keyboardBroadcasting := newState, keyboardBroadcastingScreens := screens }
  else relay

def leave (io : ServerIo) (client : ClientProxy) (relay : KeyRelay) : Bool × KeyRelay :=
  if client = primaryClient then (io.leaves, relay)
  else (true, relay.send primaryClient client .leave)

def switchScreen (io : ServerIo) (dst : ClientProxy) (x y : Int) (relay : KeyRelay) : KeyRelay :=
  if relay.server.active = dst then
    { relay with server := relay.server.switchScreen io dst x y }
  else
    let (leaves, left) := relay.leave primaryClient io relay.server.active
    { left with server := relay.server.switchScreen { io with leaves } dst x y }

end KeyRelay

structure KeyboardRun where
  relay : KeyRelay
  /-- The keys that are down. -/
  pressed : List KeyButton := []
  /-- Those that went down since the last switch, with broadcasting off. -/
  typed : List KeyButton := []

inductive KeyboardEvent where
  | keyDown (key : KeyID) (mask : KeyModifierMask) (button : KeyButton) (lang : String)
  | keyRepeat (key : KeyID) (mask : KeyModifierMask) (count : Int) (button : KeyButton)
      (lang : String)
  | keyUp (key : KeyID) (mask : KeyModifierMask) (button : KeyButton)
  | keyboardBroadcast (state : KeyRelay.KeyboardBroadcastState) (screens : String)
  | switchScreen (io : ServerIo) (dst : ClientProxy) (x y : Int)

def Server.connected (server : Server) : List ClientProxy := server.clients.map (·.2)

namespace KeyboardRun

def machine (primaryClient : ClientProxy) : Machine KeyboardRun KeyboardEvent where
  start run := ∃ server : Server, server.active ∈ server.connected ∧ run = { relay := { server } }
  step run event :=
    match event with
    | .keyDown key mask button lang =>
      some {
        relay := run.relay.handleKeyDownEvent primaryClient (.alloc key mask button 1) lang
        pressed := button :: run.pressed
        typed := if run.relay.keyboardBroadcasting then run.typed else button :: run.typed }
    | .keyRepeat key mask count button lang =>
      let relay :=
        run.relay.handleKeyRepeatEvent primaryClient (.alloc key mask button count) lang
      some { run with relay }
    | .keyUp key mask button =>
      some {
        relay := run.relay.handleKeyUpEvent primaryClient (.alloc key mask button 1)
        pressed := run.pressed.filter (· ≠ button)
        typed := run.typed.filter (· ≠ button) }
    | .keyboardBroadcast state screens =>
      some { run with relay := run.relay.handleKeyboardBroadcastEvent state screens }
    | .switchScreen io dst x y =>
      if dst ∈ run.relay.server.connected then
        let relay := run.relay.switchScreen primaryClient io dst x y
        let typed := if relay.server.active = run.relay.server.active then run.typed else []
        some { run with relay, typed }
      else none

end KeyboardRun

def KeyMessage.holding (button : KeyButton) (held : Bool) : KeyMessage → Bool
  | .keyDown _ _ pressed _ => pressed = button || held
  | .keyRepeat .. => held
  | .keyUp _ _ released => released ≠ button && held
  | .leave => false

namespace KeyRelay

variable {primaryClient client target : ClientProxy} {button : KeyButton} {message : KeyMessage}
  {relay : KeyRelay}

/-- The client was sent the key's press, and neither its release nor `leave` since. -/
def holds (client : ClientProxy) (button : KeyButton) (relay : KeyRelay) : Bool :=
  relay.sent.foldl
    (fun held entry => if entry.1 = client then entry.2.holding button held else held) false

@[simp]
theorem server_send : (relay.send primaryClient target message).server = relay.server := by
  unfold send
  split_ifs <;> rfl

theorem holds_send_self (htarget : target ≠ primaryClient) :
    (relay.send primaryClient target message).holds target button =
      message.holding button (relay.holds target button) := by
  simp [send, holds, htarget]

theorem holds_send_of_ne (hclient : client ≠ target) :
    (relay.send primaryClient target message).holds client button =
      relay.holds client button := by
  unfold send
  split_ifs
  · rfl
  · simp [holds, hclient.symm]

theorem send_primaryClient : relay.send primaryClient primaryClient message = relay := if_pos rfl

theorem onKey_alloc : relay.onKey primaryClient (some "") message =
    if relay.keyboardBroadcasting then relay
    else relay.send primaryClient relay.server.active message := by
  unfold onKey recipients
  by_cases hbroadcasting : relay.keyboardBroadcasting
  · have hnobody (name : String) : KeyInfo.contains (some "") name = false := rfl
    simp [hbroadcasting, hnobody]
  · simp [hbroadcasting, KeyInfo.isDefault]

end KeyRelay

namespace Server

variable {server : Server} {io : ServerIo} {dst : ClientProxy} {x y : Int}

theorem active_stopSwitch : server.stopSwitch.active = server.active := by
  unfold stopSwitch
  split_ifs <;> rfl

theorem clients_stopSwitch : server.stopSwitch.clients = server.clients := by
  unfold stopSwitch
  split_ifs <;> rfl

theorem active_switchScreen : (server.switchScreen io dst x y).active =
    if server.active ≠ dst ∧ io.leaves then dst else server.active := by
  unfold switchScreen
  simp only [active_stopSwitch]
  split_ifs <;> rfl

theorem connected_switchScreen :
    (server.switchScreen io dst x y).connected = server.connected := by
  have hclients : (server.switchScreen io dst x y).clients = server.clients := by
    unfold switchScreen
    extract_lets stopped
    split_ifs <;> exact clients_stopSwitch
  exact congrArg (List.map (·.2)) hclients

end Server

namespace KeyRelay

variable {primaryClient client target dst : ClientProxy} {button : KeyButton} {relay : KeyRelay}
  {io : ServerIo} {x y : Int}

theorem connected_switchScreen :
    (relay.switchScreen primaryClient io dst x y).server.connected = relay.server.connected := by
  unfold switchScreen
  split_ifs <;> exact Server.connected_switchScreen

theorem switchScreen_cases :
    ((relay.switchScreen primaryClient io dst x y).server.active = relay.server.active ∧
        (relay.switchScreen primaryClient io dst x y).sent = relay.sent) ∨
      ((relay.switchScreen primaryClient io dst x y).server.active = dst ∧
        relay.server.active ≠ dst ∧
        (relay.switchScreen primaryClient io dst x y).sent =
          (relay.send primaryClient relay.server.active .leave).sent) := by
  unfold switchScreen leave
  by_cases hsame : relay.server.active = dst
  · rw [if_pos hsame]
    refine .inl ⟨?_, rfl⟩
    rw [Server.active_switchScreen, if_neg fun hleaves => hleaves.1 hsame]
  rw [if_neg hsame]
  by_cases hprimary : relay.server.active = primaryClient
  · rw [if_pos hprimary]
    dsimp only
    rw [Server.active_switchScreen]
    by_cases hleaves : io.leaves
    · refine .inr ⟨if_pos ⟨hsame, hleaves⟩, hsame, ?_⟩
      rw [hprimary, send_primaryClient]
    · exact .inl ⟨if_neg fun hboth => hleaves hboth.2, rfl⟩
  · rw [if_neg hprimary]
    refine .inr ⟨?_, hsame, rfl⟩
    dsimp only
    rw [Server.active_switchScreen, if_pos ⟨hsame, rfl⟩]

end KeyRelay

namespace KeyboardRun

variable {primaryClient client dst : ClientProxy} {run next : KeyboardRun} {event : KeyboardEvent}
  {button : KeyButton}

def NoneStuck (run : KeyboardRun) : Prop :=
  ∀ client ∈ run.relay.server.connected, ∀ button,
    run.relay.holds client button = true → button ∈ run.pressed

def ReleasedInTime (primaryClient : ClientProxy) (run : KeyboardRun) : KeyboardEvent → Prop
  | .keyUp _ _ button =>
    run.relay.keyboardBroadcasting = true →
      run.relay.server.active = primaryClient ∨ button ∉ run.typed
  | _ => True

structure Relayed (primaryClient : ClientProxy) (run : KeyboardRun) : Prop where
  active_mem : run.relay.server.active ∈ run.relay.server.connected
  typed_subset : run.typed ⊆ run.pressed
  holds_iff : ∀ client button, run.relay.holds client button = true ↔
    client = run.relay.server.active ∧ client ≠ primaryClient ∧ button ∈ run.typed

namespace Relayed

theorem noneStuck (h : Relayed primaryClient run) : run.NoneStuck := by
  intro client _ button hholds
  exact h.typed_subset ((h.holds_iff client button).mp hholds).2.2

theorem of_start (hstart : (machine primaryClient).start run) : Relayed primaryClient run := by
  obtain ⟨server, hactive, rfl⟩ := hstart
  refine ⟨hactive, List.Subset.refl _, fun client button => ?_⟩
  simp [KeyRelay.holds]

theorem send {message : KeyMessage} {pressed typed : List KeyButton}
    (h : Relayed primaryClient run) (htyped : typed ⊆ pressed)
    (hmessage : ∀ button, message.holding button (decide (button ∈ run.typed)) =
      decide (button ∈ typed)) :
    Relayed primaryClient
      { relay := run.relay.send primaryClient run.relay.server.active message, pressed, typed } := by
  refine ⟨?_, htyped, fun client button => ?_⟩
  · rw [KeyRelay.server_send]
    exact h.active_mem
  dsimp only
  rw [KeyRelay.server_send]
  by_cases hclient : client = run.relay.server.active
  swap
  · rw [KeyRelay.holds_send_of_ne hclient, h.holds_iff]
    simp [hclient]
  subst hclient
  by_cases hprimary : run.relay.server.active = primaryClient
  · rw [hprimary, KeyRelay.send_primaryClient, ← hprimary, h.holds_iff]
    simp [hprimary]
  · have hholds : run.relay.holds run.relay.server.active button = decide (button ∈ run.typed) := by
      rw [Bool.eq_iff_iff, h.holds_iff]
      simp [hprimary]
    rw [KeyRelay.holds_send_self hprimary, hholds, hmessage]
    simp [hprimary]

variable {mask : KeyModifierMask}

theorem keyDown {key : KeyID} {lang : String} (h : Relayed primaryClient run)
    (hstep : (machine primaryClient).step run (.keyDown key mask button lang) = some next) :
    Relayed primaryClient next := by
  obtain rfl := Option.some.inj hstep
  unfold KeyRelay.handleKeyDownEvent KeyRelay.onKeyDown KeyInfo.alloc
  simp only [KeyRelay.onKey_alloc]
  split_ifs
  · exact ⟨h.active_mem, fun _ htyped => List.mem_cons_of_mem _ (h.typed_subset htyped),
      h.holds_iff⟩
  · apply h.send (List.cons_subset_cons _ h.typed_subset)
    intro other
    simp [KeyMessage.holding, eq_comm]

theorem keyUp {key : KeyID} (h : Relayed primaryClient run)
    (hreleased : ReleasedInTime primaryClient run (.keyUp key mask button))
    (hstep : (machine primaryClient).step run (.keyUp key mask button) = some next) :
    Relayed primaryClient next := by
  obtain rfl := Option.some.inj hstep
  unfold KeyRelay.handleKeyUpEvent KeyRelay.onKeyUp KeyInfo.alloc
  simp only [KeyRelay.onKey_alloc]
  have hsubset : run.typed.filter (· ≠ button) ⊆ run.pressed.filter (· ≠ button) :=
    List.filter_subset _ h.typed_subset
  split_ifs with hbroadcasting
  · refine ⟨h.active_mem, hsubset, fun client other => ?_⟩
    dsimp only
    rw [h.holds_iff, List.mem_filter]
    constructor
    · rintro ⟨rfl, hprimary, htyped⟩
      have hother : other ≠ button := by
        rintro rfl
        exact (hreleased hbroadcasting).elim hprimary (· htyped)
      exact ⟨rfl, hprimary, htyped, decide_eq_true hother⟩
    · rintro ⟨hclient, hprimary, htyped, -⟩
      exact ⟨hclient, hprimary, htyped⟩
  · apply h.send hsubset
    intro other
    unfold KeyMessage.holding
    rw [Bool.eq_iff_iff]
    simp only [Bool.and_eq_true, decide_eq_true_eq, List.mem_filter]
    rw [and_comm, ne_comm]

theorem keyRepeat {key : KeyID} {count : Int} {lang : String} (h : Relayed primaryClient run)
    (hstep : (machine primaryClient).step run (.keyRepeat key mask count button lang) = some next) :
    Relayed primaryClient next := by
  obtain rfl := Option.some.inj hstep
  exact h.send h.typed_subset fun _ => rfl

theorem keyboardBroadcast {state : KeyRelay.KeyboardBroadcastState} {screens : String}
    (h : Relayed primaryClient run)
    (hstep : (machine primaryClient).step run (.keyboardBroadcast state screens) = some next) :
    Relayed primaryClient next := by
  obtain rfl := Option.some.inj hstep
  have hsame : (run.relay.handleKeyboardBroadcastEvent state screens).server = run.relay.server ∧
      (run.relay.handleKeyboardBroadcastEvent state screens).sent = run.relay.sent := by
    unfold KeyRelay.handleKeyboardBroadcastEvent
    extract_lets newState
    split_ifs <;> exact ⟨rfl, rfl⟩
  refine ⟨?_, h.typed_subset, fun client button => ?_⟩
  · rw [hsame.1]
    exact h.active_mem
  · unfold KeyRelay.holds
    rw [hsame.1, hsame.2]
    exact h.holds_iff client button

theorem switchScreen {io : ServerIo} {x y : Int} (h : Relayed primaryClient run)
    (hstep : (machine primaryClient).step run (.switchScreen io dst x y) = some next) :
    Relayed primaryClient next := by
  obtain ⟨hdst, hnext⟩ := Option.ite_none_right_eq_some.mp hstep
  obtain rfl := Option.some.inj hnext
  have hconnected : (run.relay.switchScreen primaryClient io dst x y).server.connected =
      run.relay.server.connected := KeyRelay.connected_switchScreen
  have hcases := @KeyRelay.switchScreen_cases primaryClient dst run.relay io x y
  generalize run.relay.switchScreen primaryClient io dst x y = switched at hconnected hcases ⊢
  obtain ⟨hactive, hsent⟩ | ⟨hactive, hleft, hsent⟩ := hcases
  · rw [if_pos hactive]
    refine ⟨?_, h.typed_subset, fun client button => ?_⟩
    · rw [hactive, hconnected]
      exact h.active_mem
    · unfold KeyRelay.holds
      rw [hactive, hsent]
      exact h.holds_iff client button
  · rw [if_neg (hactive.trans_ne hleft.symm)]
    refine ⟨?_, List.nil_subset _, fun client button => ?_⟩
    · rw [hactive, hconnected]
      exact hdst
    -- behind `leave` the screen that was active holds nothing, and the others held nothing before
    · have hreleased : Relayed primaryClient
          { relay := run.relay.send primaryClient run.relay.server.active .leave
            pressed := run.pressed, typed := [] } :=
        h.send (List.nil_subset _) fun _ => rfl
      unfold KeyRelay.holds
      rw [hsent]
      apply (hreleased.holds_iff client button).trans
      simp only [List.not_mem_nil, and_false]

theorem step (h : Relayed primaryClient run) (hreleased : ReleasedInTime primaryClient run event)
    (hstep : (machine primaryClient).step run event = some next) : Relayed primaryClient next := by
  cases event with
  | keyDown => exact h.keyDown hstep
  | keyRepeat => exact h.keyRepeat hstep
  | keyUp => exact h.keyUp hreleased hstep
  | keyboardBroadcast => exact h.keyboardBroadcast hstep
  | switchScreen => exact h.switchScreen hstep

theorem releasedInTime (h : Relayed primaryClient run)
    (hnext : ∀ next, (machine primaryClient).step run event = some next → next.NoneStuck) :
    ReleasedInTime primaryClient run event := by
  cases event with
  | keyUp key mask button =>
    intro hbroadcasting
    by_contra hlate
    obtain ⟨hprimary, htyped⟩ := not_or.mp hlate
    have hstuck := hnext _ rfl
    unfold NoneStuck KeyRelay.handleKeyUpEvent KeyRelay.onKeyUp KeyInfo.alloc at hstuck
    simp only [KeyRelay.onKey_alloc, if_pos hbroadcasting] at hstuck
    have hholds : run.relay.holds run.relay.server.active button = true :=
      (h.holds_iff _ button).mpr ⟨rfl, hprimary, not_not.mp htyped⟩
    have hpressed := hstuck run.relay.server.active h.active_mem button hholds
    exact of_decide_eq_true (List.mem_filter.mp hpressed).2 rfl
  | _ => exact trivial

end Relayed

/-- The keys that clients were sent are released in time along a run just when no key goes up while the
keyboard is broadcast and the active screen, a client, has it from before. -/
theorem keys_released_iff {first : KeyboardRun} (hfirst : (machine primaryClient).start first)
    (events : List KeyboardEvent) :
    (machine primaryClient).Always NoneStuck first events ↔
      (machine primaryClient).Along (ReleasedInTime primaryClient) first events := by
  refine Machine.always_iff_along (fun run h => ?_) (fun run event next h hreleased hstep => ?_)
    (fun run event h hnext => ?_) (Relayed.of_start hfirst)
  · exact h.noneStuck
  · exact h.step hreleased hstep
  · exact h.releasedInTime hnext

def atClient : KeyboardRun where
  relay := {
    server := { clientSet := [0, 1], clients := [("desk", 0), ("lap", 1)], active := 1, x := 0, y := 0 } }

theorem start_atClient : (machine 0).start atClient := ⟨_, List.mem_of_elem_eq_true rfl, rfl⟩

/-- The switch back releases the key, whatever comes later. -/
theorem keys_released_switched : (machine 0).Always NoneStuck atClient
    [.keyDown 97 0 38 "en", .switchScreen { shape := fun _ => ⟨0, 0, 100, 100⟩ } 0 5 5,
      .keyboardBroadcast .on "*", .keyUp 97 0 38] := by
  apply (keys_released_iff start_atClient _).mpr
  refine ⟨trivial, fun next hnext => ?_⟩
  obtain rfl := Option.some.inj hnext
  refine ⟨trivial, fun next hnext => ?_⟩
  obtain rfl := Option.some.inj hnext
  refine ⟨trivial, fun next hnext => ?_⟩
  obtain rfl := Option.some.inj hnext
  exact ⟨fun _ => .inl rfl, fun _ _ => trivial⟩

/-- Broadcasting to all screens begins while the key is down, and nobody is told of its release. -/
theorem broadcast_release_stuck : ¬ ∀ primaryClient run, (machine primaryClient).start run →
    ∀ events, (machine primaryClient).Always NoneStuck run events := by
  intro hclaim
  have halways := hclaim 0 atClient start_atClient
    ([.keyDown 97 0 38 "en", .keyboardBroadcast .on "*", .keyUp 97 0 38] ++ [])
  have hlast := halways.of_exec rfl
  have hpressed := hlast 1 (List.mem_of_elem_eq_true rfl) 38 rfl
  exact absurd hpressed List.not_mem_nil

end KeyboardRun

end DeskflowPlus
