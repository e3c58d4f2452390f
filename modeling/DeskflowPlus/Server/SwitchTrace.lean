import DeskflowPlus.Server.LiveClients

/-!
# What a motion tries

A motion asks at most twice whether to switch, once for each direction in which it meets an edge, and
it ends with at most one call of `switchScreen`; so does the timeout behind a wait. Here both are
followed up to that call, with the state it is made in, which the handlers themselves do not show.
-/

namespace DeskflowPlus

/-- A call of `isSwitchOkay`, for the neighbour that `mapToNeighbor` found from where the cursor was
going to, with the position on it. -/
structure SwitchAttempt where
  server : Server
  dir : Direction
  departure : Int × Int
  newScreen : Option ClientProxy
  x : Int
  y : Int

/-- A call of `switchScreen`. -/
structure SwitchCall where
  dst : ClientProxy
  x : Int
  y : Int
  deriving DecidableEq

/-- The server before its call of `switchScreen`, or as it stays. -/
structure SwitchTrace where
  attempts : List SwitchAttempt := []
  server : Server
  call : Option SwitchCall := none

namespace SwitchTrace

def cons (attempt : SwitchAttempt) (trace : SwitchTrace) : SwitchTrace :=
  { trace with attempts := attempt :: trace.attempts }

/-- The rest of the handler. -/
def perform (io : ServerIo) (trace : SwitchTrace) : Server :=
  match trace.call with
  | none => trace.server
  | some call => trace.server.switchScreen io call.dst call.x call.y

end SwitchTrace

namespace Server

variable {Fraction : Type} (setup : ServerSetup Fraction) (io : ServerIo)

def trySwitchTrace (xc yc : Int) : List (Option Direction × Int × Int) → Server → Option SwitchTrace
  | [], server => some { server }
  | (none, _, _) :: rest, server => trySwitchTrace xc yc rest server
  | (some dir, x, y) :: rest, server =>
    match mapToNeighbor setup io server.clients server.active dir (x, y) with
    | none => none
    | some (newScreen, (xNew, yNew)) =>
      let attempt : SwitchAttempt :=
        { server, dir, departure := (x, y), newScreen, x := xNew, y := yNew }
      match server.isSwitchOkay setup io newScreen dir xNew yNew xc yc, newScreen with
      | (true, server), some dst =>
        some { attempts := [attempt], server, call := some ⟨dst, xNew, yNew⟩ }
      | (_, server), _ => (trySwitchTrace xc yc rest server).map (·.cons attempt)

def edgesOnPrimary (a : Shape) (zoneSize x y : Int) : List (Option Direction × Int × Int) :=
  let (dirh, xh) : Option Direction × Int :=
    if x < a.x + zoneSize then (some .left, x - zoneSize)
    else if a.x + a.width - zoneSize ≤ x then (some .right, x + zoneSize) else (none, x)
  let (dirv, yv) : Option Direction × Int :=
    if y < a.y + zoneSize then (some .top, y - zoneSize)
    else if a.y + a.height - zoneSize ≤ y then (some .bottom, y + zoneSize) else (none, y)
  [(dirh, xh, y), (dirv, x, yv)]

def onMouseMovePrimaryTrace (x y : Int) (server : Server) : Option SwitchTrace :=
  if server.active ≠ setup.primaryClient then some { server }
  else
    let server : Server :=
      { server with
        xDelta2 := server.xDelta
        yDelta2 := server.yDelta
        xDelta := x - server.x
        yDelta := y - server.y
        x
        y }
    let a := io.shape server.active
    let zoneSize := getJumpZoneSize setup io server.active
    let xc :=
      if x < a.x + zoneSize then a.x
      else if a.x + a.width - zoneSize ≤ x then a.x + a.width - 1 else x
    let yc :=
      if y < a.y + zoneSize then a.y
      else if a.y + a.height - zoneSize ≤ y then a.y + a.height - 1 else y
    let edges := edgesOnPrimary a zoneSize x y
    if edges.all (·.1.isNone) then some { server := server.noSwitch io x y }
    else server.trySwitchTrace setup io xc yc edges

/-- The direction in which a position is off the screen. -/
def edgeOnSecondary (a : Shape) (x y : Int) : Option Direction :=
  if x < a.x then some .left
  else if a.x + a.width - 1 < x then some .right
  else if y < a.y then some .top
  else if a.y + a.height - 1 < y then some .bottom else none

def onMouseMoveSecondaryTrace (dx dy : Int) (server : Server) : Option SwitchTrace :=
  let (dx, dy) := io.adjustMotion (dx, dy)
  if server.active = setup.primaryClient then some { server }
  else if setup.relativeMoves ∧ server.lockedToScreen then some { server }
  else
    let xOld := server.x
    let yOld := server.y
    let server : Server :=
      { server with
        xDelta2 := server.xDelta
        yDelta2 := server.yDelta
        xDelta := dx
        yDelta := dy
        x := xOld + dx
        y := yOld + dy }
    let a := io.shape server.active
    let xc :=
      if server.x < a.x then a.x
      else if a.x + a.width ≤ server.x then a.x + a.width - 1 else server.x
    let yc :=
      if server.y < a.y then a.y
      else if a.y + a.height ≤ server.y then a.y + a.height - 1 else server.y
    match edgeOnSecondary a server.x server.y with
    | none =>
      let server :=
        if server.waitingScreen.isSome ∧ server.clearWait io a then
          server.noSwitch io server.x server.y
        else server
      some { server := server.clampToScreen a (xOld + dx) (yOld + dy) }
    | some dir =>
      match mapToNeighbor setup io server.clients server.active dir (server.x, server.y) with
      | none => none
      | some (newScreen, (x, y)) =>
        let mapped : Server := { server with x, y }
        let attempts : List SwitchAttempt :=
          [{ server := mapped, dir, departure := (server.x, server.y), newScreen, x, y }]
        match mapped.isSwitchOkay setup io newScreen dir x y xc yc, newScreen with
        | (true, server), some dst =>
          some { attempts, server, call := some ⟨dst, server.x, server.y⟩ }
        | (_, server), _ =>
          some { attempts, server := server.clampToScreen a (xOld + dx) (yOld + dy) }

def handleSwitchWaitTimeoutTrace (server : Server) : Option SwitchTrace :=
  if server.isLockedToScreen setup io then some { server := server.stopSwitch }
  else
    match server.waitingScreen with
    | none => none
    | some target => some { server, call := some ⟨target, server.switchWaitX, server.switchWaitY⟩ }

def handleShapeChangedTrace (client : ClientProxy) (server : Server) : Option SwitchTrace :=
  if client ∉ server.clientSet then some { server }
  else
    let (x, y) := io.cursorPos client
    let server : Server :=
      { server with jumpCursorPos := Function.update server.jumpCursorPos client (x, y) }
    let server : Server := if client = server.active then { server with x, y } else server
    if client ≠ setup.primaryClient then some { server }
    else if client = server.active then server.onMouseMovePrimaryTrace setup io server.x server.y
    else server.onMouseMoveSecondaryTrace setup io 0 0

def switchTrace (server : Server) (call : ServerIo × ServerEvent) : Option SwitchTrace :=
  let (io, event) := call
  match event with
  | .motionOnPrimary x y => server.onMouseMovePrimaryTrace setup io x y
  | .motionOnSecondary dx dy => server.onMouseMoveSecondaryTrace setup io dx dy
  | .shapeChanged client => server.handleShapeChangedTrace setup io client
  | .switchWaitTimeout =>
    if server.switchWaitTimer then server.handleSwitchWaitTimeoutTrace setup io else none
  | _ => none

variable {setup io} {server later : Server}

theorem trySwitch_eq {xc yc : Int} {dirs : List (Option Direction × Int × Int)} :
    server.trySwitch setup io xc yc dirs =
      (server.trySwitchTrace setup io xc yc dirs).map (·.perform io) := by
  induction dirs generalizing server with
  | nil => rfl
  | cons edge rest ih =>
    obtain ⟨_ | dir, x, y⟩ := edge
    · exact ih
    have hcons (attempt : SwitchAttempt) (trace : Option SwitchTrace) :
        (trace.map (·.cons attempt)).map (·.perform io) = trace.map (·.perform io) := by
      rw [Option.map_map]
      rfl
    unfold trySwitch trySwitchTrace
    rcases mapToNeighbor setup io server.clients server.active dir (x, y) with
      _ | ⟨newScreen, xNew, yNew⟩
    · rfl
    dsimp only
    rcases server.isSwitchOkay setup io newScreen dir xNew yNew xc yc with ⟨_ | _, tried⟩
    · dsimp only
      rw [ih, hcons]
    · cases newScreen with
      | none =>
        dsimp only
        rw [ih, hcons]
      | some dst => rfl

theorem trySwitchTrace_cons {xc yc x y : Int} {dir : Direction}
    {rest : List (Option Direction × Int × Int)} {trace : SwitchTrace}
    (h : server.trySwitchTrace setup io xc yc ((some dir, x, y) :: rest) = some trace) :
    ∃ (attempt : SwitchAttempt) (okay : Bool) (tried : Server),
      attempt.server = server ∧ attempt.dir = dir ∧ attempt.departure = (x, y) ∧
        mapToNeighbor setup io server.clients server.active dir (x, y) =
          some (attempt.newScreen, (attempt.x, attempt.y)) ∧
        attempt.server.isSwitchOkay setup io attempt.newScreen attempt.dir attempt.x attempt.y xc yc =
          (okay, tried) ∧
        (okay = true ∧ (∃ dst, attempt.newScreen = some dst ∧ trace =
            { attempts := [attempt], server := tried, call := some ⟨dst, attempt.x, attempt.y⟩ }) ∨
          okay = false ∧ ∃ later, tried.trySwitchTrace setup io xc yc rest = some later ∧
            trace = later.cons attempt) := by
  unfold trySwitchTrace at h
  rcases hneighbor : mapToNeighbor setup io server.clients server.active dir (x, y) with
    _ | ⟨newScreen, xNew, yNew⟩
  · rw [hneighbor] at h
    cases h
  rw [hneighbor] at h
  dsimp -zeta only at h
  extract_lets attempt at h
  rcases hokay : server.isSwitchOkay setup io newScreen dir xNew yNew xc yc with ⟨okay, tried⟩
  rw [hokay] at h
  refine ⟨attempt, okay, tried, rfl, rfl, rfl, rfl, hokay, ?_⟩
  rcases okay with _ | _
  · obtain ⟨later, hlater, rfl⟩ := Option.map_eq_some_iff.mp h
    exact .inr ⟨rfl, later, hlater, rfl⟩
  rcases newScreen with _ | dst
  · cases hokay
  · obtain rfl := Option.some.inj h
    exact .inl ⟨rfl, dst, rfl, rfl⟩

theorem onMouseMovePrimary_eq {x y : Int} :
    server.onMouseMovePrimary setup io x y =
      (server.onMouseMovePrimaryTrace setup io x y).map (·.perform io) := by
  unfold onMouseMovePrimary onMouseMovePrimaryTrace
  split
  · rfl
  extract_lets moved a zoneSize xc yc edges
  unfold edges edgesOnPrimary
  generalize (if x < a.x + zoneSize then _ else _ : Option Direction × Int) = horizontal
  obtain ⟨dirh, xh⟩ := horizontal
  generalize (if y < a.y + zoneSize then _ else _ : Option Direction × Int) = vertical
  obtain ⟨dirv, yv⟩ := vertical
  rcases dirh with _ | dirh
  · rcases dirv with _ | dirv
    · rfl
    · exact trySwitch_eq
  · exact trySwitch_eq

theorem onMouseMoveSecondary_eq {dx dy : Int} :
    server.onMouseMoveSecondary setup io dx dy =
      (server.onMouseMoveSecondaryTrace setup io dx dy).map (·.perform io) := by
  unfold onMouseMoveSecondary onMouseMoveSecondaryTrace
  generalize io.adjustMotion (dx, dy) = motion
  obtain ⟨dx, dy⟩ := motion
  dsimp -zeta only
  split
  · rfl
  split
  · rfl
  extract_lets xOld yOld moved a xc yc dir
  have hdir : edgeOnSecondary a moved.x moved.y = dir := rfl
  rw [hdir]
  clear_value moved a xc yc dir
  rcases dir with _ | dir
  · rfl
  dsimp only
  rcases mapToNeighbor setup io moved.clients moved.active dir (moved.x, moved.y) with
    _ | ⟨newScreen, xNew, yNew⟩
  · rfl
  dsimp only
  rcases ({ moved with x := xNew, y := yNew } : Server).isSwitchOkay setup io newScreen dir xNew yNew
    xc yc with ⟨_ | _, tried⟩
  · rfl
  · cases newScreen <;> rfl

theorem handleSwitchWaitTimeout_eq :
    server.handleSwitchWaitTimeout setup io =
      (server.handleSwitchWaitTimeoutTrace setup io).map (·.perform io) := by
  unfold handleSwitchWaitTimeout handleSwitchWaitTimeoutTrace
  split
  · rfl
  cases server.waitingScreen <;> rfl

theorem handleShapeChanged_eq {client : ClientProxy} :
    server.handleShapeChanged setup io client =
      (server.handleShapeChangedTrace setup io client).map (·.perform io) := by
  unfold handleShapeChanged handleShapeChangedTrace
  split
  · rfl
  obtain ⟨x, y⟩ := io.cursorPos client
  dsimp -zeta only
  extract_lets recorded shown
  split
  · rfl
  split
  · exact onMouseMovePrimary_eq
  · exact onMouseMoveSecondary_eq

theorem step_of_switchTrace {call : ServerIo × ServerEvent} {trace : SwitchTrace}
    (h : server.switchTrace setup call = some trace) :
    (machine setup).step server call = some (trace.perform call.1) := by
  obtain ⟨io, event⟩ := call
  cases event with
  | motionOnPrimary x y => exact onMouseMovePrimary_eq.trans (congrArg _ h)
  | motionOnSecondary dx dy => exact onMouseMoveSecondary_eq.trans (congrArg _ h)
  | shapeChanged client => exact handleShapeChanged_eq.trans (congrArg _ h)
  | switchWaitTimeout =>
    dsimp only [switchTrace] at h
    split at h
    · rename_i htimer
      exact (if_pos htimer).trans (handleSwitchWaitTimeout_eq.trans (congrArg _ h))
    · cases h
  | _ => cases h

end Server

end DeskflowPlus
