import Mathlib.Algebra.Ring.Int.Defs
import DeskflowPlus.Lib.Run
import Mathlib.Algebra.Group.Int.Defs
import Mathlib.Algebra.Group.Prod

/-!
# Mouse compression

While more input is ready, the client holds mouse moves back: the last absolute position in one
slot, the sum of the relative moves behind it in another. Both are passed on before a key, a button,
the wheel or a leave is, and at the end of the batch. A batch may also end in the middle, when the
message is one that disconnects the client.
-/

namespace DeskflowPlus

/-- The messages at which the cursor position counts. -/
inductive InputEvent where
  | keyDown
  | keyRepeat
  | keyUp
  | mouseDown
  | mouseUp
  | mouseWheel
  deriving DecidableEq

/-- The messages by their codes. An incomplete message has no whole code, and the fields of an
invalid one cannot be read; a key repeat notices this when it has brought the mouse up to date. -/
inductive ServerMessage where
  | mouseMove (position : ℤ × ℤ)
  | mouseRelativeMove (delta : ℤ × ℤ)
  | input (event : InputEvent)
  | enter (position : ℤ × ℤ)
  | leave
  | grabClipboard
  | setClipboard
  | screensaver
  | secureInputNotification
  | languageSynchronisation
  | queryInfo
  | infoAcknowledgment
  | resetOptions
  | setOptions
  | keepAlive
  | noop
  | close
  | bad
  | incompatible
  | busy
  | unknownClient
  | unknown
  | incomplete
  | invalid (flushed : Bool)
  deriving DecidableEq

/-- What a message makes the client do with the mouse. -/
inductive MouseAction where
  | mouseMove (position : ℤ × ℤ)
  | mouseRelativeMove (delta : ℤ × ℤ)
  | input (event : InputEvent)
  | enter (position : ℤ × ℤ)
  | leave
  | infoAcknowledgment
  | pass
  | discard
  | disconnect (flushed : Bool)

inductive MessageParser where
  | parseHandshakeMessage
  | parseMessage

namespace MessageParser

def parse : MessageParser → ServerMessage → MouseAction
  | _, .queryInfo => .pass
  | _, .infoAcknowledgment => .infoAcknowledgment
  | _, .resetOptions => .pass
  | _, .setOptions => .pass
  | _, .keepAlive => .pass
  | _, .noop => .pass
  | _, .close => .disconnect false
  | _, .bad => .disconnect false
  | _, .incomplete => .disconnect false
  | parseHandshakeMessage, .invalid _ => .disconnect false
  | parseHandshakeMessage, .incompatible => .disconnect false
  | parseHandshakeMessage, .busy => .disconnect false
  | parseHandshakeMessage, .unknownClient => .disconnect false
  | parseHandshakeMessage, .languageSynchronisation => .pass
  | parseHandshakeMessage, _ => .discard
  | parseMessage, .invalid flushed => .disconnect flushed
  | parseMessage, .mouseMove position => .mouseMove position
  | parseMessage, .mouseRelativeMove delta => .mouseRelativeMove delta
  | parseMessage, .input event => .input event
  | parseMessage, .enter position => .enter position
  | parseMessage, .leave => .leave
  | parseMessage, .grabClipboard => .pass
  | parseMessage, .setClipboard => .pass
  | parseMessage, .screensaver => .pass
  | parseMessage, .secureInputNotification => .pass
  | parseMessage, _ => .discard

def next (parser : MessageParser) (message : ServerMessage) : MessageParser :=
  if message = .setOptions then parseMessage else parser

end MessageParser

@[ext]
structure CursorLog where
  cursor : ℤ × ℤ
  events : List (InputEvent × (ℤ × ℤ)) := []
  deriving DecidableEq

namespace CursorLog

variable (screen : CursorLog)

def mouseMove (position : ℤ × ℤ) : CursorLog := { screen with cursor := position }

def mouseRelativeMove (delta : ℤ × ℤ) : CursorLog :=
  { screen with cursor := screen.cursor + delta }

def input (event : InputEvent) : CursorLog :=
  { screen with events := screen.events ++ [(event, screen.cursor)] }

end CursorLog

/-- Whether the loop of `handleData` goes on, has thrown away the input behind an unknown message,
or has returned because the client disconnects. -/
inductive DataLoop where
  | reading
  | discarded
  | returned
  deriving DecidableEq

/-- A client without compression: every move is passed on at once. -/
structure DirectProxy where
  screen : CursorLog
  parser : MessageParser
  ignoreMouse : Bool
  loop : DataLoop := .reading

namespace DirectProxy

variable (proxy : DirectProxy)

def act : MouseAction → DirectProxy
  | .mouseMove position =>
    if proxy.ignoreMouse then proxy else { proxy with screen := proxy.screen.mouseMove position }
  | .mouseRelativeMove delta =>
    if proxy.ignoreMouse then proxy
    else { proxy with screen := proxy.screen.mouseRelativeMove delta }
  | .input event => { proxy with screen := proxy.screen.input event }
  | .enter position => { proxy with screen := proxy.screen.mouseMove position }
  | .leave => proxy
  | .infoAcknowledgment => { proxy with ignoreMouse := false }
  | .pass => proxy
  | .discard => { proxy with loop := .discarded }
  | .disconnect _ => { proxy with loop := .returned }

def handle (message : ServerMessage × Bool) : DirectProxy :=
  if proxy.loop = .reading then
    { proxy with parser := proxy.parser.next message.1 : DirectProxy }.act
      (proxy.parser.parse message.1)
  else proxy

end DirectProxy

/-- The part of `ServerProxy` that the mouse goes through. -/
structure MouseProxy where
  screen : CursorLog
  parser : MessageParser
  ignoreMouse : Bool
  compressMouse : Bool := false
  mouse : ℤ × ℤ := 0
  compressMouseRelative : Bool := false
  deltaMouse : ℤ × ℤ := 0
  loop : DataLoop := .reading

namespace MouseProxy

variable (proxy : MouseProxy)

/-- The absolute part of `flushCompressedMouse`. -/
def flushAbsolute : MouseProxy :=
  if proxy.compressMouse then
    { proxy with compressMouse := false, screen := proxy.screen.mouseMove proxy.mouse }
  else proxy

def flushRelative : MouseProxy :=
  if proxy.compressMouseRelative then
    { proxy with
      compressMouseRelative := false
      screen := proxy.screen.mouseRelativeMove proxy.deltaMouse
      deltaMouse := 0 }
  else proxy

def flushCompressedMouse : MouseProxy := proxy.flushAbsolute.flushRelative

def mouseMove (position : ℤ × ℤ) (ready : Bool) : MouseProxy :=
  -- compress mouse motion events if more input follows
  if proxy.compressMouse ∨ (proxy.ignoreMouse = false ∧ ready) then
    { proxy with
      compressMouse := true
      compressMouseRelative := false
      mouse := position
      deltaMouse := 0 }
  else if proxy.ignoreMouse then proxy
  else { proxy with screen := proxy.screen.mouseMove position }

def mouseRelativeMove (delta : ℤ × ℤ) (ready : Bool) : MouseProxy :=
  -- compress mouse motion events if more input follows
  if proxy.compressMouseRelative ∨ (proxy.ignoreMouse = false ∧ ready) then
    { proxy with compressMouseRelative := true, deltaMouse := proxy.deltaMouse + delta }
  else if proxy.ignoreMouse then proxy
  else { proxy with screen := proxy.screen.mouseRelativeMove delta }

def input (event : InputEvent) : MouseProxy :=
  let proxy := proxy.flushCompressedMouse
  { proxy with screen := proxy.screen.input event }

def enter (position : ℤ × ℤ) : MouseProxy :=
  { proxy with
    -- discard old compressed mouse motion, if any
    compressMouse := false
    compressMouseRelative := false
    deltaMouse := 0
    screen := proxy.screen.mouseMove position }

def act (ready : Bool) : MouseAction → MouseProxy
  | .mouseMove position => proxy.mouseMove position ready
  | .mouseRelativeMove delta => proxy.mouseRelativeMove delta ready
  | .input event => proxy.input event
  | .enter position => proxy.enter position
  | .leave => proxy.flushCompressedMouse
  | .infoAcknowledgment => { proxy with ignoreMouse := false }
  | .pass => proxy
  | .discard => { proxy with loop := .discarded }
  | .disconnect flushed =>
    let proxy := if flushed then proxy.flushCompressedMouse else proxy
    { proxy with loop := .returned }

/-- One message, with whether more input is ready behind it. -/
def handle (message : ServerMessage × Bool) : MouseProxy :=
  if proxy.loop = .reading then
    { proxy with parser := proxy.parser.next message.1 : MouseProxy }.act message.2
      (proxy.parser.parse message.1)
  else proxy

/-- The end of `handleData`, which is not reached when it has returned. -/
def finish : MouseProxy :=
  if proxy.loop = .returned then proxy else proxy.flushCompressedMouse

def handleData (batch : List (ServerMessage × Bool)) : MouseProxy :=
  (batch.foldl handle { proxy with loop := .reading }).finish

/-- The client that passes moves on at once. -/
def direct : DirectProxy :=
  { screen := proxy.screen, parser := proxy.parser, ignoreMouse := proxy.ignoreMouse }

/-- The cursor is where it would be without compression, now and at every event of the batch. -/
def Invisible (batch : List (ServerMessage × Bool)) : Prop :=
  (proxy.handleData batch).screen = (batch.foldl DirectProxy.handle proxy.direct).screen

instance (batch : List (ServerMessage × Bool)) : Decidable (proxy.Invisible batch) :=
  inferInstanceAs (Decidable (_ = _))

/-- Where the pending moves take the cursor. -/
def destination : ℤ × ℤ :=
  (if proxy.compressMouse then proxy.mouse else proxy.screen.cursor) + proxy.deltaMouse

/-- What keeps the cursor right: no move is passed on past pending moves of the other kind that
matter, and the loop is not left while pending moves matter. -/
def OrderedAction (ready : Bool) : MouseAction → Prop
  | .mouseMove _ =>
    proxy.ignoreMouse = false → ready = false → proxy.compressMouse = false → proxy.deltaMouse = 0
  | .mouseRelativeMove delta =>
    proxy.ignoreMouse = false → ready = false → proxy.compressMouseRelative = false →
      proxy.compressMouse = true → delta = 0
  | .disconnect flushed => flushed = false → proxy.destination = proxy.screen.cursor
  | _ => True

def Ordered (message : ServerMessage × Bool) (proxy : MouseProxy) : Prop :=
  proxy.loop = .reading → proxy.OrderedAction message.2 (proxy.parser.parse message.1)

/-- Nothing is pending. -/
structure Idle : Prop where
  compressMouse : proxy.compressMouse = false
  compressMouseRelative : proxy.compressMouseRelative = false
  deltaMouse : proxy.deltaMouse = 0

/-- A client with compression that stands for one without. -/
structure Tracks (direct : DirectProxy) : Prop where
  parser : proxy.parser = direct.parser
  ignoreMouse : proxy.ignoreMouse = direct.ignoreMouse
  loop : proxy.loop = direct.loop
  events : proxy.screen.events = direct.screen.events
  destination : proxy.destination = direct.screen.cursor
  deltaMouse : proxy.compressMouseRelative = false → proxy.deltaMouse = 0
  ignoring : proxy.ignoreMouse = true → proxy.Idle
  returned : proxy.loop = .returned → proxy.screen.cursor = direct.screen.cursor

variable {proxy} {direct : DirectProxy} {ready : Bool} {message : ServerMessage × Bool}

theorem Idle.destination (h : proxy.Idle) : proxy.destination = proxy.screen.cursor := by
  rw [MouseProxy.destination, h.compressMouse, h.deltaMouse, add_zero]
  rfl

structure Flushed (proxy next : MouseProxy) : Prop where
  idle : next.Idle
  cursor : next.screen.cursor = proxy.destination
  events : next.screen.events = proxy.screen.events
  parser : next.parser = proxy.parser
  ignoreMouse : next.ignoreMouse = proxy.ignoreMouse
  loop : next.loop = proxy.loop

theorem flushed_flushCompressedMouse
    (hdelta : proxy.compressMouseRelative = false → proxy.deltaMouse = 0) :
    Flushed proxy proxy.flushCompressedMouse := by
  obtain ⟨screen, parser, ignoreMouse, compressMouse, mouse, compressMouseRelative, deltaMouse,
    loop⟩ := proxy
  cases compressMouseRelative with
  | true => cases compressMouse <;> exact ⟨⟨rfl, rfl, rfl⟩, rfl, rfl, rfl, rfl, rfl⟩
  | false =>
    obtain rfl : deltaMouse = 0 := hdelta rfl
    cases compressMouse <;> exact ⟨⟨rfl, rfl, rfl⟩, (add_zero _).symm, rfl, rfl, rfl, rfl⟩

namespace Tracks

theorem screen_finish (h : proxy.Tracks direct) : proxy.finish.screen = direct.screen := by
  rw [finish]
  by_cases hreturned : proxy.loop = .returned
  · rw [if_pos hreturned]
    exact CursorLog.ext (h.returned hreturned) h.events
  · rw [if_neg hreturned]
    have hflushed := flushed_flushCompressedMouse h.deltaMouse
    exact CursorLog.ext (hflushed.cursor.trans h.destination) (hflushed.events.trans h.events)

theorem flush (h : proxy.Tracks direct) : proxy.flushCompressedMouse.Tracks direct := by
  have hflushed := flushed_flushCompressedMouse h.deltaMouse
  have hcursor := hflushed.cursor.trans h.destination
  exact
    { parser := hflushed.parser.trans h.parser
      ignoreMouse := hflushed.ignoreMouse.trans h.ignoreMouse
      loop := hflushed.loop.trans h.loop
      events := hflushed.events.trans h.events
      destination := hflushed.idle.destination.trans hcursor
      deltaMouse := fun _ => hflushed.idle.deltaMouse
      ignoring := fun _ => hflushed.idle
      returned := fun _ => hcursor }

theorem returned_of_reading {goal : Prop} (hloop : proxy.loop = .reading)
    (hreturned : proxy.loop = .returned) : goal := by
  rw [hloop] at hreturned
  cases hreturned

theorem mouseMove (h : proxy.Tracks direct) (hloop : proxy.loop = .reading) {position : ℤ × ℤ}
    (hordered : proxy.OrderedAction ready (.mouseMove position)) :
    (proxy.mouseMove position ready).Tracks (direct.act (.mouseMove position)) := by
  rw [MouseProxy.mouseMove]
  by_cases hignore : proxy.ignoreMouse = true
  · have hdirect : direct.act (.mouseMove position) = direct := if_pos (h.ignoreMouse ▸ hignore)
    have hskip : ¬ (proxy.compressMouse = true ∨ proxy.ignoreMouse = false ∧ ready = true) := by
      simp [(h.ignoring hignore).compressMouse, hignore]
    rw [hdirect, if_neg hskip, if_pos hignore]
    exact h
  · have hdirect : direct.act (.mouseMove position) =
        { direct with screen := direct.screen.mouseMove position } :=
      if_neg (h.ignoreMouse ▸ hignore)
    rw [hdirect]
    by_cases hcompress : proxy.compressMouse = true ∨ proxy.ignoreMouse = false ∧ ready = true
    · rw [if_pos hcompress]
      exact
        { h with
          destination := add_zero position
          deltaMouse := fun _ => rfl
          ignoring := fun hignoring => absurd hignoring hignore
          returned := returned_of_reading hloop }
    · rw [if_neg hcompress, if_neg hignore]
      rw [Bool.not_eq_true] at hignore
      obtain ⟨hnone, hready⟩ := not_or.mp hcompress
      rw [Bool.not_eq_true] at hnone
      have hlast : ready = false := by simpa [hignore] using hready
      have hzero := hordered hignore hlast hnone
      have hmoved : (if proxy.compressMouse then proxy.mouse else position) + proxy.deltaMouse =
          position := by
        rw [hnone, hzero, add_zero]
        rfl
      exact
        { h with
          destination := hmoved
          ignoring := fun hignoring => absurd hignoring (by simp [hignore])
          returned := returned_of_reading hloop }

theorem mouseRelativeMove (h : proxy.Tracks direct) (hloop : proxy.loop = .reading) {delta : ℤ × ℤ}
    (hordered : proxy.OrderedAction ready (.mouseRelativeMove delta)) :
    (proxy.mouseRelativeMove delta ready).Tracks (direct.act (.mouseRelativeMove delta)) := by
  rw [MouseProxy.mouseRelativeMove]
  by_cases hignore : proxy.ignoreMouse = true
  · have hdirect : direct.act (.mouseRelativeMove delta) = direct :=
      if_pos (h.ignoreMouse ▸ hignore)
    have hskip :
        ¬ (proxy.compressMouseRelative = true ∨ proxy.ignoreMouse = false ∧ ready = true) := by
      simp [(h.ignoring hignore).compressMouseRelative, hignore]
    rw [hdirect, if_neg hskip, if_pos hignore]
    exact h
  · have hdirect : direct.act (.mouseRelativeMove delta) =
        { direct with screen := direct.screen.mouseRelativeMove delta } :=
      if_neg (h.ignoreMouse ▸ hignore)
    have hdestination := h.destination
    rw [MouseProxy.destination] at hdestination
    rw [hdirect]
    by_cases hcompress :
        proxy.compressMouseRelative = true ∨ proxy.ignoreMouse = false ∧ ready = true
    · rw [if_pos hcompress]
      have hmoved : (if proxy.compressMouse then proxy.mouse else proxy.screen.cursor) +
          (proxy.deltaMouse + delta) = direct.screen.cursor + delta := by
        rw [← add_assoc, hdestination]
      exact
        { h with
          destination := hmoved
          deltaMouse := nofun
          ignoring := fun hignoring => absurd hignoring hignore
          returned := returned_of_reading hloop }
    · rw [if_neg hcompress, if_neg hignore]
      rw [Bool.not_eq_true] at hignore
      obtain ⟨hnone, hready⟩ := not_or.mp hcompress
      rw [Bool.not_eq_true] at hnone
      have hlast : ready = false := by simpa [hignore] using hready
      have hzero := h.deltaMouse hnone
      rw [hzero, add_zero] at hdestination
      have hmoved : (if proxy.compressMouse then proxy.mouse else proxy.screen.cursor + delta) +
          proxy.deltaMouse = direct.screen.cursor + delta := by
        rw [hzero, add_zero, ← hdestination]
        by_cases habsolute : proxy.compressMouse = true
        · rw [if_pos habsolute, if_pos habsolute, hordered hignore hlast hnone habsolute, add_zero]
        · rw [if_neg habsolute, if_neg habsolute]
      exact
        { h with
          destination := hmoved
          ignoring := fun hignoring => absurd hignoring (by simp [hignore])
          returned := returned_of_reading hloop }

theorem input (h : proxy.Tracks direct) (event : InputEvent) :
    (proxy.input event).Tracks (direct.act (.input event)) := by
  have hflushed := flushed_flushCompressedMouse h.deltaMouse
  have hcursor := hflushed.cursor.trans h.destination
  have hevents : proxy.flushCompressedMouse.screen.events ++
      [(event, proxy.flushCompressedMouse.screen.cursor)] =
        direct.screen.events ++ [(event, direct.screen.cursor)] := by
    rw [hflushed.events, h.events, hcursor]
  exact
    { h.flush with
      events := hevents
      ignoring := fun _ =>
        ⟨hflushed.idle.compressMouse, hflushed.idle.compressMouseRelative,
          hflushed.idle.deltaMouse⟩
      returned := fun _ => hcursor }

theorem enter (h : proxy.Tracks direct) (position : ℤ × ℤ) :
    (proxy.enter position).Tracks (direct.act (.enter position)) :=
  { h with
    destination := add_zero position
    deltaMouse := fun _ => rfl
    ignoring := fun _ => ⟨rfl, rfl, rfl⟩
    returned := fun _ => rfl }

theorem leaveLoop (h : proxy.Tracks direct) {loop : DataLoop}
    (hcursor : loop = .returned → proxy.screen.cursor = direct.screen.cursor) :
    { proxy with loop := loop : MouseProxy }.Tracks { direct with loop := loop } :=
  { h with
    loop := rfl
    ignoring := fun hignoring =>
      ⟨(h.ignoring hignoring).compressMouse, (h.ignoring hignoring).compressMouseRelative,
        (h.ignoring hignoring).deltaMouse⟩
    returned := hcursor }

theorem act (h : proxy.Tracks direct) (hloop : proxy.loop = .reading) {action : MouseAction}
    (hordered : proxy.OrderedAction ready action) :
    (proxy.act ready action).Tracks (direct.act action) := by
  cases action with
  | mouseMove position => exact h.mouseMove hloop hordered
  | mouseRelativeMove delta => exact h.mouseRelativeMove hloop hordered
  | input event => exact h.input event
  | enter position => exact h.enter position
  | leave => exact h.flush
  | infoAcknowledgment => exact { h with ignoreMouse := rfl, ignoring := nofun }
  | pass => exact h
  | discard => exact h.leaveLoop nofun
  | disconnect flushed =>
    cases flushed with
    | true =>
      have hflushed := flushed_flushCompressedMouse h.deltaMouse
      exact h.flush.leaveLoop fun _ => hflushed.cursor.trans h.destination
    | false => exact h.leaveLoop fun _ => (hordered rfl).symm.trans h.destination

theorem ordered_of_screen_finish (h : proxy.Tracks direct) (hloop : proxy.loop = .reading)
    {action : MouseAction}
    (hscreen : (proxy.act ready action).finish.screen = (direct.act action).screen) :
    proxy.OrderedAction ready action := by
  have hrunning : ¬ proxy.loop = .returned := returned_of_reading hloop
  cases action with
  | mouseMove position =>
    intro hignore hlast hnone
    let moved : MouseProxy := { proxy with screen := proxy.screen.mouseMove position }
    have hact : proxy.act ready (.mouseMove position) = moved := by
      have hskip : ¬ (proxy.compressMouse = true ∨ proxy.ignoreMouse = false ∧ ready = true) := by
        simp [hnone, hlast]
      have htaken : ¬ proxy.ignoreMouse = true := by simp [hignore]
      show proxy.mouseMove position ready = moved
      rw [MouseProxy.mouseMove, if_neg hskip, if_neg htaken]
    have hdirect : (direct.act (.mouseMove position)).screen.cursor = position := by
      rw [DirectProxy.act, ← h.ignoreMouse, hignore]
      rfl
    have hflushed := @flushed_flushCompressedMouse moved h.deltaMouse
    have hcursor : moved.flushCompressedMouse.screen.cursor = position := by
      rw [hact, finish, if_neg hrunning] at hscreen
      rw [hscreen, hdirect]
    -- the relative moves are still pending, and come on top
    have hbehind : moved.destination = position + proxy.deltaMouse := by
      show (if proxy.compressMouse then proxy.mouse else position) + proxy.deltaMouse = _
      rw [hnone]
      rfl
    exact add_eq_left.mp (hbehind.symm.trans (hflushed.cursor.symm.trans hcursor))
  | mouseRelativeMove delta =>
    intro hignore hlast hnone habsolute
    let moved : MouseProxy := { proxy with screen := proxy.screen.mouseRelativeMove delta }
    have hact : proxy.act ready (.mouseRelativeMove delta) = moved := by
      have hskip :
          ¬ (proxy.compressMouseRelative = true ∨ proxy.ignoreMouse = false ∧ ready = true) := by
        simp [hnone, hlast]
      have htaken : ¬ proxy.ignoreMouse = true := by simp [hignore]
      show proxy.mouseRelativeMove delta ready = moved
      rw [MouseProxy.mouseRelativeMove, if_neg hskip, if_neg htaken]
    have hdirect : (direct.act (.mouseRelativeMove delta)).screen.cursor =
        direct.screen.cursor + delta := by
      rw [DirectProxy.act, ← h.ignoreMouse, hignore]
      rfl
    have hflushed := @flushed_flushCompressedMouse moved h.deltaMouse
    -- the absolute position is still pending, and the delta is lost
    have hsame : moved.destination = proxy.destination := by
      rw [MouseProxy.destination, MouseProxy.destination, habsolute]
      rfl
    have hsum : direct.screen.cursor + delta = direct.screen.cursor := by
      rw [hact, finish, if_neg hrunning] at hscreen
      rw [← hdirect, ← hscreen, hflushed.cursor, hsame, h.destination]
    exact add_eq_left.mp hsum
  | disconnect flushed =>
    rintro rfl
    rw [h.destination]
    exact (congrArg CursorLog.cursor hscreen).symm
  | _ => trivial

end Tracks

def handleBoth (clients : MouseProxy × DirectProxy) (message : ServerMessage × Bool) :
    MouseProxy × DirectProxy :=
  (clients.1.handle message, clients.2.handle message)

theorem foldl_handleBoth (batch : List (ServerMessage × Bool))
    (clients : MouseProxy × DirectProxy) :
    batch.foldl handleBoth clients =
      (batch.foldl MouseProxy.handle clients.1, batch.foldl DirectProxy.handle clients.2) := by
  induction batch generalizing clients with
  | nil => rfl
  | cons message batch ih => exact ih (handleBoth clients message)

theorem throughout_handleBoth {condition : ServerMessage × Bool → MouseProxy → Prop}
    (batch : List (ServerMessage × Bool)) (clients : MouseProxy × DirectProxy) :
    Throughout handleBoth (fun message clients => condition message clients.1) batch clients ↔
      Throughout MouseProxy.handle condition batch clients.1 := by
  induction batch generalizing clients with
  | nil => exact Iff.rfl
  | cons message batch ih => exact and_congr Iff.rfl (ih (handleBoth clients message))

theorem Tracks.parsed (h : proxy.Tracks direct) (message : ServerMessage) :
    { proxy with parser := proxy.parser.next message : MouseProxy }.Tracks
      { direct with parser := direct.parser.next message } :=
  { h with
    parser := congrArg (MessageParser.next · message) h.parser
    ignoring := fun hignoring =>
      ⟨(h.ignoring hignoring).compressMouse, (h.ignoring hignoring).compressMouseRelative,
        (h.ignoring hignoring).deltaMouse⟩ }

theorem handle_of_reading (hloop : proxy.loop = .reading) :
    proxy.handle message =
      { proxy with parser := proxy.parser.next message.1 : MouseProxy }.act message.2
        (proxy.parser.parse message.1) :=
  if_pos hloop

theorem handle_of_not_reading (hloop : proxy.loop ≠ .reading) : proxy.handle message = proxy :=
  if_neg hloop

namespace Tracks

theorem direct_of_reading (h : proxy.Tracks direct) (hloop : proxy.loop = .reading) :
    direct.handle message =
      { direct with parser := direct.parser.next message.1 : DirectProxy }.act
        (proxy.parser.parse message.1) := by
  rw [h.parser]
  exact if_pos (h.loop ▸ hloop)

theorem direct_of_not_reading (h : proxy.Tracks direct) (hloop : proxy.loop ≠ .reading) :
    direct.handle message = direct :=
  if_neg (h.loop ▸ hloop)

theorem handle (h : proxy.Tracks direct) (hordered : proxy.Ordered message) :
    (proxy.handle message).Tracks (direct.handle message) := by
  by_cases hloop : proxy.loop = .reading
  · rw [handle_of_reading hloop, h.direct_of_reading hloop]
    exact (h.parsed message.1).act hloop (hordered hloop)
  · rw [handle_of_not_reading hloop, h.direct_of_not_reading hloop]
    exact h

theorem ordered (h : proxy.Tracks direct)
    (hscreen : (proxy.handle message).finish.screen = (direct.handle message).screen) :
    proxy.Ordered message := by
  intro hloop
  rw [handle_of_reading hloop, h.direct_of_reading hloop] at hscreen
  exact (h.parsed message.1).ordered_of_screen_finish hloop hscreen

end Tracks

theorem Idle.tracks (h : proxy.Idle) :
    { proxy with loop := .reading : MouseProxy }.Tracks proxy.direct where
  parser := rfl
  ignoreMouse := rfl
  loop := rfl
  events := rfl
  destination := h.destination
  deltaMouse _ := h.deltaMouse
  ignoring _ := ⟨h.compressMouse, h.compressMouseRelative, h.deltaMouse⟩
  returned := nofun

/-- **When mouse compression is invisible.** In a batch of any messages that finds nothing pending,
however much input is ready behind each, the cursor comes out right after every first part of the
batch, and at every event in it, just when every message is in order. -/
theorem forall_invisible_iff (proxy : MouseProxy) (hidle : proxy.Idle)
    (batch : List (ServerMessage × Bool)) :
    (∀ before, before <+: batch → proxy.Invisible before) ↔
      Throughout handle Ordered batch { proxy with loop := .reading } := by
  let clients : MouseProxy × DirectProxy := ({ proxy with loop := .reading }, proxy.direct)
  let good (clients : MouseProxy × DirectProxy) : Prop :=
    clients.1.finish.screen = clients.2.screen
  have hgood (before : List (ServerMessage × Bool)) :
      proxy.Invisible before ↔ good (before.foldl handleBoth clients) := by
    rw [foldl_handleBoth]
    exact Iff.rfl
  have hstart : clients.1.Tracks clients.2 := hidle.tracks
  rw [← throughout_handleBoth batch clients]
  simp only [hgood]
  apply @forall_prefix_iff_throughout _ _ _ _ _ _ (fun clients => clients.1.Tracks clients.2) good
  · exact fun _ htracks => htracks.screen_finish
  · exact fun _ _ htracks hordered => htracks.handle hordered
  · exact fun _ _ htracks hscreen => htracks.ordered hscreen
  · exact hstart

/-- A relative move is held back, and the absolute one behind it, the last of the batch, is not. -/
theorem not_invisible_mixed_moves :
    ¬ ({ screen := { cursor := (100, 100) }, parser := .parseMessage, ignoreMouse := false } :
        MouseProxy).Invisible
      [(.mouseRelativeMove (5, 0), true), (.mouseMove (10, 10), false)] := by
  decide

/-- Moves of both kinds with more input ready behind each, and a key. -/
theorem forall_invisible_iff_moves_and_key :
    let proxy : MouseProxy :=
      { screen := { cursor := (0, 0) }, parser := .parseMessage, ignoreMouse := false }
    let batch : List (ServerMessage × Bool) :=
      [(.mouseMove (10, 10), true), (.mouseRelativeMove (5, 0), true), (.input .keyDown, false)]
    (∀ before, before <+: batch → proxy.Invisible before) ↔
      Throughout handle Ordered batch { proxy with loop := .reading } :=
  forall_invisible_iff _ ⟨rfl, rfl, rfl⟩ _

end MouseProxy

end DeskflowPlus
