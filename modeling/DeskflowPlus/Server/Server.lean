import DeskflowPlus.Lib.Run
import DeskflowPlus.Server.ScreenMap
import Mathlib.Logic.Function.Basic

/-!
# The server's screens

The server knows the connected screens by name and by address. One of them is active; a screen may be
waited for at an edge, and the one that was active when the screen saver started is remembered. These
are addresses of proxies that are deleted when their clients disconnect.
-/

namespace DeskflowPlus

/-- The addresses are `m_active`, `m_activeSaver` and, for the screen that is waited for,
`m_switchScreen`. -/
structure Server where
  clientSet : List ClientProxy
  clients : List (String × ClientProxy)
  oldClients : List ClientProxy := []
  active : ClientProxy
  activeSaver : Option ClientProxy := none
  waitingScreen : Option ClientProxy := none
  switchDir : Option Direction := none
  switchWaitTimer : Bool := false
  switchWaitX : Int := 0
  switchWaitY : Int := 0
  switchTwoTapEngaged : Bool := false
  switchTwoTapArmed : Bool := false
  x : Int
  y : Int
  xDelta : Int := 0
  yDelta : Int := 0
  xDelta2 : Int := 0
  yDelta2 : Int := 0
  xSaver : Int := 0
  ySaver : Int := 0
  lockedToScreen : Bool := false
  jumpCursorPos : ClientProxy → Int × Int := fun _ => (0, 0)

namespace Server

def switchTwoTapZone : Int := 3

variable {Fraction : Type} (setup : ServerSetup Fraction) (io : ServerIo)

def isLockedToScreen (server : Server) : Bool :=
  if setup.disableLockToScreen then false else server.lockedToScreen || io.isLockedToScreen

def getJumpZoneSize (client : ClientProxy) : Int :=
  if client = setup.primaryClient then io.jumpZoneSize else 0

def startSwitchTwoTap (server : Server) : Server :=
  { server with switchTwoTapEngaged := true, switchTwoTapArmed := false }

def stopSwitchTwoTap (server : Server) : Server :=
  { server with switchTwoTapEngaged := false, switchTwoTapArmed := false }

def shouldSwitchTwoTap (server : Server) : Bool := server.switchTwoTapArmed && !io.twoTapLate

def movesAway (server : Server) : Option Direction → Bool
  | some .left => 0 < server.xDelta && 0 < server.xDelta2
  | some .right => server.xDelta < 0 && server.xDelta2 < 0
  | some .top => 0 < server.yDelta && 0 < server.yDelta2
  | some .bottom => server.yDelta < 0 && server.yDelta2 < 0
  | none => server.switchTwoTapArmed

def armSwitchTwoTap (x y : Int) (server : Server) : Server :=
  if ¬ server.switchTwoTapEngaged then server
  else if io.twoTapLate then server.stopSwitchTwoTap
  else if server.switchTwoTapArmed then server
  else
    let a := io.shape server.active
    let tapZone := max io.jumpZoneSize switchTwoTapZone
    if a.x + tapZone ≤ x ∧ x < a.x + a.width - tapZone ∧ a.y + tapZone ≤ y ∧
        y < a.y + a.height - tapZone then
      { server with switchTwoTapArmed := server.movesAway server.switchDir }
    else server

def stopSwitchWait (server : Server) : Server := { server with switchWaitTimer := false }

def startSwitchWait (x y : Int) (server : Server) : Server :=
  { server.stopSwitchWait with switchWaitX := x, switchWaitY := y, switchWaitTimer := true }

def noSwitch (x y : Int) (server : Server) : Server :=
  (server.armSwitchTwoTap io x y).stopSwitchWait

def stopSwitch (server : Server) : Server :=
  if server.waitingScreen.isSome then
    ({ server with waitingScreen := none, switchDir := none } : Server).stopSwitchTwoTap.stopSwitchWait
  else server

def s_topLeftCornerMask : UInt32 := 1
def s_topRightCornerMask : UInt32 := 2
def s_bottomLeftCornerMask : UInt32 := 4
def s_bottomRightCornerMask : UInt32 := 8

def getCorner (client : ClientProxy) (x y size : Int) : UInt32 :=
  let a := io.shape client
  let left : Bool := x ≤ a.x
  let right : Bool := a.x + a.width - 1 ≤ x
  let top : Bool := y ≤ a.y
  let bottom : Bool := a.y + a.height - 1 ≤ y
  if (left || right) ∧ y < a.y + size then
    if left then s_topLeftCornerMask else s_topRightCornerMask
  else if (left || right) ∧ a.y + a.height - size ≤ y then
    if left then s_bottomLeftCornerMask else s_bottomRightCornerMask
  else if (top || bottom) ∧ x < a.x + size then
    if top then s_topLeftCornerMask else s_bottomLeftCornerMask
  else if (top || bottom) ∧ a.x + a.width - size ≤ x then
    if top then s_topRightCornerMask else s_bottomRightCornerMask
  else 0

/-- The screen's own corners, or else those of all screens. -/
def inLockedCorner (xActive yActive : Int) (server : Server) : Bool :=
  match (setup.switchCorners (some (setup.getName server.active))).or (setup.switchCorners none) with
  | some (corners, size) => getCorner io server.active xActive yActive size &&& corners ≠ 0
  | none => false

def lacksModifiers : Bool :=
  setup.switchNeedsShift && !io.shift || setup.switchNeedsControl && !io.control ||
    setup.switchNeedsAlt && !io.alt

/-- Whether to switch at once; if not, the screen may be waited for from now on. -/
def isSwitchOkay (newScreen : Option ClientProxy) (dir : Direction) (x y xActive yActive : Int)
    (server : Server) : Bool × Server :=
  match newScreen with
  | none => (false, server.stopSwitch)
  | some newScreen =>
    let isNewDirection : Bool := some dir ≠ server.switchDir
    let server : Server :=
      if isNewDirection ∨ server.waitingScreen.isNone then
        { server with switchDir := some dir, waitingScreen := some newScreen }
      else server
    let (preventSwitch, allowSwitch, server) :=
      if 0 < setup.switchTwoTapDelay then
        if isNewDirection ∨ ¬ server.switchTwoTapEngaged ∨ ¬ server.shouldSwitchTwoTap io then
          (true, false, server.startSwitchTwoTap)
        else (false, true, server)
      else (false, false, server)
    let (preventSwitch, server) :=
      if ¬ allowSwitch ∧ 0 < setup.switchWaitDelay then
        (true,
          if isNewDirection ∨ ¬ server.switchWaitTimer then server.startSwitchWait x y else server)
      else (preventSwitch, server)
    let (preventSwitch, server) :=
      if server.inLockedCorner setup io xActive yActive then (true, server.stopSwitch)
      else (preventSwitch, server)
    let (preventSwitch, server) :=
      if ¬ preventSwitch ∧ server.isLockedToScreen setup io then (true, server.stopSwitch)
      else (preventSwitch, server)
    let (preventSwitch, server) :=
      if ¬ preventSwitch ∧ lacksModifiers setup io then (true, server.stopSwitch)
      else (preventSwitch, server)
    (!preventSwitch, server)

def switchScreen (dst : ClientProxy) (x y : Int) (server : Server) : Server :=
  let server : Server :=
    { server.stopSwitch with x, y, xDelta := 0, yDelta := 0, xDelta2 := 0, yDelta2 := 0 }
  if server.active ≠ dst ∧ io.leaves then { server with active := dst } else server

def jumpToScreen (newScreen : ClientProxy) (server : Server) : Server :=
  let server : Server :=
    { server with
      jumpCursorPos := Function.update server.jumpCursorPos server.active (server.x, server.y) }
  let (x, y) := server.jumpCursorPos newScreen
  server.switchScreen io newScreen x y

def stopRelativeMoves (server : Server) : Server :=
  if setup.relativeMoves ∧ server.active ≠ setup.primaryClient then
    let a := io.shape server.active
    { server with
      x := a.x + a.width / 2
      y := a.y + a.height / 2
      xDelta := 0
      yDelta := 0
      xDelta2 := 0
      yDelta2 := 0 }
  else server

/-- The loop over the two directions, from the motion's own position. -/
def trySwitch (xc yc : Int) : List (Option Direction × Int × Int) → Server → Option Server
  | [], server => some server
  | (none, _, _) :: rest, server => trySwitch xc yc rest server
  | (some dir, x, y) :: rest, server =>
    match mapToNeighbor setup io server.clients server.active dir (x, y) with
    | none => none
    | some (newScreen, (x, y)) =>
      match server.isSwitchOkay setup io newScreen dir x y xc yc, newScreen with
      | (true, server), some dst => some (server.switchScreen io dst x y)
      | (_, server), _ => trySwitch xc yc rest server

def onMouseMovePrimary (x y : Int) (server : Server) : Option Server :=
  if server.active ≠ setup.primaryClient then some server
  else
    let server : Server :=
      { server with
        xDelta2 := server.xDelta
        yDelta2 := server.yDelta
        xDelta := x - server.x
        yDelta := y - server.y
        x
        y }
    let a := io.shape server.active
    let zoneSize := getJumpZoneSize setup io server.active
    let xc :=
      if x < a.x + zoneSize then a.x
      else if a.x + a.width - zoneSize ≤ x then a.x + a.width - 1 else x
    let yc :=
      if y < a.y + zoneSize then a.y
      else if a.y + a.height - zoneSize ≤ y then a.y + a.height - 1 else y
    let (dirh, xh) : Option Direction × Int :=
      if x < a.x + zoneSize then (some .left, x - zoneSize)
      else if a.x + a.width - zoneSize ≤ x then (some .right, x + zoneSize) else (none, x)
    let (dirv, yv) : Option Direction × Int :=
      if y < a.y + zoneSize then (some .top, y - zoneSize)
      else if a.y + a.height - zoneSize ≤ y then (some .bottom, y + zoneSize) else (none, y)
    if dirh.isNone ∧ dirv.isNone then some (server.noSwitch io x y)
    else server.trySwitch setup io xc yc [(dirh, xh, y), (dirv, x, yv)]

/-- The mouse is off the edge where a screen is waited for. -/
def clearWait (a : Shape) (server : Server) : Bool :=
  match server.switchDir with
  | some .left => a.x + io.jumpZoneSize ≤ server.x
  | some .right => server.x ≤ a.x + a.width - 1 - io.jumpZoneSize
  | some .top => a.y + io.jumpZoneSize ≤ server.y
  | some .bottom => server.y ≤ a.y + a.height - 1 + io.jumpZoneSize
  | none => false

/-- The mouse stays on the screen, at most on its edge. -/
def clampToScreen (a : Shape) (x y : Int) (server : Server) : Server :=
  { server with
    x := if x < a.x then a.x else if a.x + a.width - 1 < x then a.x + a.width - 1 else x
    y := if y < a.y then a.y else if a.y + a.height - 1 < y then a.y + a.height - 1 else y }

def onMouseMoveSecondary (dx dy : Int) (server : Server) : Option Server :=
  let (dx, dy) := io.adjustMotion (dx, dy)
  if server.active = setup.primaryClient then some server
  else if setup.relativeMoves ∧ server.lockedToScreen then some server
  else
    let xOld := server.x
    let yOld := server.y
    let server : Server :=
      { server with
        xDelta2 := server.xDelta
        yDelta2 := server.yDelta
        xDelta := dx
        yDelta := dy
        x := xOld + dx
        y := yOld + dy }
    let a := io.shape server.active
    let xc :=
      if server.x < a.x then a.x
      else if a.x + a.width ≤ server.x then a.x + a.width - 1 else server.x
    let yc :=
      if server.y < a.y then a.y
      else if a.y + a.height ≤ server.y then a.y + a.height - 1 else server.y
    let dir : Option Direction :=
      if server.x < a.x then some .left
      else if a.x + a.width - 1 < server.x then some .right
      else if server.y < a.y then some .top
      else if a.y + a.height - 1 < server.y then some .bottom else none
    match dir with
    | none =>
      let server :=
        if server.waitingScreen.isSome ∧ server.clearWait io a then
          server.noSwitch io server.x server.y
        else server
      some (server.clampToScreen a (xOld + dx) (yOld + dy))
    | some dir =>
      match mapToNeighbor setup io server.clients server.active dir (server.x, server.y) with
      | none => none
      | some (newScreen, (x, y)) =>
        let server : Server := { server with x, y }
        match server.isSwitchOkay setup io newScreen dir x y xc yc, newScreen with
        | (true, server), some dst => some (server.switchScreen io dst server.x server.y)
        | (_, server), _ => some (server.clampToScreen a (xOld + dx) (yOld + dy))

/-- Behind a stopped wait the timer cannot fire, so a null target would be read. -/
def handleSwitchWaitTimeout (server : Server) : Option Server :=
  if server.isLockedToScreen setup io then some server.stopSwitch
  else
    match server.waitingScreen with
    | none => none
    | some target => some (server.switchScreen io target server.switchWaitX server.switchWaitY)

def onScreensaver (activated : Bool) (server : Server) : Server :=
  if activated then
    let server : Server :=
      { server with activeSaver := some server.active, xSaver := server.x, ySaver := server.y }
    if server.active ≠ setup.primaryClient then server.switchScreen io setup.primaryClient 0 0
    else server
  else
    let server : Server :=
      match server.activeSaver with
      | none => server
      | some screen =>
        if screen = setup.primaryClient then server
        else
          let s := io.shape screen
          let zoneSize := getJumpZoneSize setup io screen
          let xSaver :=
            if server.xSaver < s.x + zoneSize then s.x + zoneSize
            else if s.x + s.width - zoneSize ≤ server.xSaver then s.x + s.width - zoneSize - 1
            else server.xSaver
          let ySaver :=
            if server.ySaver < s.y + zoneSize then s.y + zoneSize
            else if s.y + s.height - zoneSize ≤ server.ySaver then s.y + s.height - zoneSize - 1
            else server.ySaver
          ({ server with xSaver, ySaver } : Server).switchScreen io screen xSaver ySaver
    { server with activeSaver := none }

inductive LockState where
  | on
  | off
  | toggle

def handleSwitchToScreenEvent (screen : String) (server : Server) : Server :=
  match findClient server.clients screen with
  | none => server
  | some client => server.jumpToScreen io client

def handleSwitchInDirectionEvent (direction : Direction) (server : Server) : Option Server :=
  match getNeighbor setup io server.clients server.active direction (server.x, server.y) with
  | none => none
  | some none => some server
  | some (some (newScreen, _)) => some (server.jumpToScreen io newScreen)

def handleToggleScreenEvent (server : Server) : Server :=
  let screens := server.clients.map (·.1)
  let currentScreen := setup.getName server.active
  if screens.length < 2 ∨ currentScreen ∉ screens then server
  else
    let nextScreen := (screens.drop (screens.idxOf currentScreen + 1)).head?.or screens.head?
    match nextScreen.bind (findClient server.clients) with
    | none => server
    | some client => server.jumpToScreen io client

def handleLockCursorToScreenEvent (state : LockState) (server : Server) : Server :=
  let newState := match state with
    | .on => true
    | .off => false
    | .toggle => !server.lockedToScreen
  if newState = server.lockedToScreen then server
  else
    let server : Server := { server with lockedToScreen := newState }
    match newState with
    | true => server
    | false => server.stopRelativeMoves setup io

/-- `std::map::insert` of a new name. -/
def insertClient (name : String) (client : ClientProxy) :
    List (String × ClientProxy) → List (String × ClientProxy)
  | [] => [(name, client)]
  | entry :: rest =>
    if name < entry.1 then (name, client) :: entry :: rest
    else entry :: insertClient name client rest

def addClient (client : ClientProxy) (server : Server) : Bool × Server :=
  let name := setup.getName client
  if server.clients.any (·.1 = name) then (false, server)
  else
    (true,
      { server with
        clientSet := client :: server.clientSet
        clients := insertClient name client server.clients
        jumpCursorPos := Function.update server.jumpCursorPos client (io.cursorPos client) })

def removeClient (client : ClientProxy) (server : Server) : Bool × Server :=
  if client ∉ server.clientSet then (false, server)
  else
    (true,
      { server with
        clientSet := server.clientSet.filter (· ≠ client)
        clients := server.clients.filter (·.1 ≠ setup.getName client) })

def forceLeaveClient (client : ClientProxy) (server : Server) : Server :=
  let active := server.activeSaver.getD server.active
  let server : Server :=
    if active = client then
      let server : Server := { server with x := io.cursorCenter.1, y := io.cursorCenter.2 }
      let server := if some active = server.waitingScreen then server.stopSwitch else server
      { server with active := setup.primaryClient }
    else server
  if server.activeSaver = some client then { server with activeSaver := none } else server

def closeClient (client : ClientProxy) (server : Server) : Server :=
  let (_, server) := server.removeClient setup client
  ({ server with oldClients := client :: server.oldClients } : Server).forceLeaveClient setup io client

def adoptClient (client : ClientProxy) (server : Server) : Server :=
  if (setup.canonicalName (setup.clientName client)).isNone then server.closeClient setup io client
  else
    match server.addClient setup io client with
    | (false, server) => server.closeClient setup io client
    | (true, server) => server

def removeActiveClient (client : ClientProxy) (server : Server) : Server :=
  match server.removeClient setup client with
  | (true, server) => server.forceLeaveClient setup io client
  | (false, server) => server

def removeOldClient (client : ClientProxy) (server : Server) : Server :=
  { server with oldClients := server.oldClients.filter (· ≠ client) }

/-- The proxy is deleted behind this. -/
def handleClientDisconnected (client : ClientProxy) (server : Server) : Server :=
  (server.removeActiveClient setup io client).removeOldClient client

def handleClientCloseTimeout (client : ClientProxy) (server : Server) : Server :=
  server.removeOldClient client

def handleShapeChanged (client : ClientProxy) (server : Server) : Option Server :=
  if client ∉ server.clientSet then some server
  else
    let (x, y) := io.cursorPos client
    let server : Server :=
      { server with jumpCursorPos := Function.update server.jumpCursorPos client (x, y) }
    let server : Server := if client = server.active then { server with x, y } else server
    if client ≠ setup.primaryClient then some server
    else if client = server.active then server.onMouseMovePrimary setup io server.x server.y
    else server.onMouseMoveSecondary setup io 0 0

end Server

inductive ServerEvent where
  | adoptClient (client : ClientProxy)
  | clientDisconnected (client : ClientProxy)
  | clientCloseTimeout (client : ClientProxy)
  | motionOnPrimary (x y : Int)
  | motionOnSecondary (dx dy : Int)
  | switchWaitTimeout
  | screensaver (activated : Bool)
  | switchToScreen (screen : String)
  | switchInDirection (direction : Direction)
  | toggleScreen
  | lockCursorToScreen (state : Server.LockState)
  | shapeChanged (client : ClientProxy)

namespace Server

/-- Proxies that have not been deleted. -/
def Live (server : Server) (client : ClientProxy) : Prop :=
  client ∈ server.clientSet ∨ client ∈ server.oldClients

instance (server : Server) (client : ClientProxy) : Decidable (server.Live client) :=
  inferInstanceAs (Decidable (_ ∨ _))

/-- The server from its construction on. A proxy is new when it is adopted, only one that is there
disconnects, and timers fire while they run. -/
def machine {Fraction : Type} (setup : ServerSetup Fraction) : Machine Server (ServerIo × ServerEvent)
    where
  start server := ∃ x y lockedToScreen jumpCursorPos, server =
    { clientSet := [setup.primaryClient]
      clients := [(setup.getName setup.primaryClient, setup.primaryClient)]
      active := setup.primaryClient, x, y, lockedToScreen, jumpCursorPos }
  step server call :=
    let (io, event) := call
    match event with
    | .adoptClient client =>
      if server.Live client then none else some (server.adoptClient setup io client)
    | .clientDisconnected client =>
      if client ≠ setup.primaryClient ∧ server.Live client then
        some (server.handleClientDisconnected setup io client)
      else none
    | .clientCloseTimeout client =>
      if client ∈ server.oldClients then some (server.handleClientCloseTimeout client) else none
    | .motionOnPrimary x y => server.onMouseMovePrimary setup io x y
    | .motionOnSecondary dx dy => server.onMouseMoveSecondary setup io dx dy
    | .switchWaitTimeout =>
      if server.switchWaitTimer then server.handleSwitchWaitTimeout setup io else none
    | .screensaver activated => some (server.onScreensaver setup io activated)
    | .switchToScreen screen => some (server.handleSwitchToScreenEvent io screen)
    | .switchInDirection direction => server.handleSwitchInDirectionEvent setup io direction
    | .toggleScreen => some (server.handleToggleScreenEvent setup io)
    | .lockCursorToScreen state => some (server.handleLockCursorToScreenEvent setup io state)
    | .shapeChanged client => server.handleShapeChanged setup io client

end Server

end DeskflowPlus
