import DeskflowPlus.Server.SwitchDecision

/-!
# Waits at the four sides

While the cursor stays on a secondary screen, a wait at one of its borders ends when the cursor is far
enough from that border. The four sides are four inequalities. Three of them are mirror images of each
other; at the bottom the zone is added where it has to be taken off, so that a wait there ends with
the next motion.
-/

namespace DeskflowPlus

inductive Mirror where
  | leftRight
  | topBottom

namespace Mirror

def direction : Mirror → Direction → Direction
  | .leftRight, .left => .right
  | .leftRight, .right => .left
  | .topBottom, .top => .bottom
  | .topBottom, .bottom => .top
  | _, dir => dir

def position : Mirror → Int × Int → Int × Int
  | .leftRight, (x, y) => (-x, y)
  | .topBottom, (x, y) => (x, -y)

def shape : Mirror → Shape → Shape
  | .leftRight, a => { a with x := -(a.x + a.width - 1) }
  | .topBottom, a => { a with y := -(a.y + a.height - 1) }

variable (mirror : Mirror)

def server (server : Server) : Server :=
  { server with
    x := (mirror.position (server.x, server.y)).1
    y := (mirror.position (server.x, server.y)).2
    xDelta := (mirror.position (server.xDelta, server.yDelta)).1
    yDelta := (mirror.position (server.xDelta, server.yDelta)).2
    xDelta2 := (mirror.position (server.xDelta2, server.yDelta2)).1
    yDelta2 := (mirror.position (server.xDelta2, server.yDelta2)).2
    switchDir := server.switchDir.map mirror.direction
    switchWaitX := (mirror.position (server.switchWaitX, server.switchWaitY)).1
    switchWaitY := (mirror.position (server.switchWaitX, server.switchWaitY)).2
    xSaver := (mirror.position (server.xSaver, server.ySaver)).1
    ySaver := (mirror.position (server.xSaver, server.ySaver)).2
    jumpCursorPos := fun client => mirror.position (server.jumpCursorPos client) }

def io (io : ServerIo) : ServerIo :=
  { io with
    shape := fun client => mirror.shape (io.shape client)
    cursorPos := fun client => mirror.position (io.cursorPos client)
    cursorCenter := mirror.position io.cursorCenter
    adjustMotion := fun motion => mirror.position (io.adjustMotion (mirror.position motion)) }

def call : ServerIo × ServerEvent → ServerIo × ServerEvent
  | (io, .motionOnSecondary dx dy) =>
    (mirror.io io,
      .motionOnSecondary (mirror.position (dx, dy)).1 (mirror.position (dx, dy)).2)
  | call => call

variable {mirror}

theorem position_position (position : Int × Int) :
    mirror.position (mirror.position position) = position := by
  obtain ⟨x, y⟩ := position
  cases mirror
  · show (-(-x), y) = (x, y)
    rw [Int.neg_neg]
  · show (x, -(-y)) = (x, y)
    rw [Int.neg_neg]

theorem position_add (x y : Int) (delta : Int × Int) :
    mirror.position (x + delta.1, y + delta.2) =
      ((mirror.position (x, y)).1 + (mirror.position delta).1,
        (mirror.position (x, y)).2 + (mirror.position delta).2) := by
  cases mirror
  · exact Prod.ext Int.neg_add rfl
  · exact Prod.ext rfl Int.neg_add

end Mirror

namespace Server

variable {Fraction : Type} (setup : ServerSetup Fraction) (io : ServerIo)

/-- How far the position is from a border of the screen. -/
def distanceTo (a : Shape) (position : Int × Int) : Direction → Int
  | .left => position.1 - a.x
  | .right => a.x + a.width - 1 - position.1
  | .top => position.2 - a.y
  | .bottom => a.y + a.height - 1 - position.2

/-- Where a motion takes the cursor. -/
def destination (motion : Int × Int) (server : Server) : Int × Int :=
  (server.x + (io.adjustMotion motion).1, server.y + (io.adjustMotion motion).2)

def MovesInside (server : Server) : ServerIo × ServerEvent → Prop
  | (io, .motionOnSecondary dx dy) =>
    server.active ≠ setup.primaryClient ∧ ¬ (setup.relativeMoves ∧ server.lockedToScreen) ∧
      edgeOnSecondary (io.shape server.active) (server.destination io (dx, dy)).1
        (server.destination io (dx, dy)).2 = none
  | _ => False

def movedBy (motion : Int × Int) (server : Server) : Server :=
  { server with
    xDelta2 := server.xDelta
    yDelta2 := server.yDelta
    xDelta := (io.adjustMotion motion).1
    yDelta := (io.adjustMotion motion).2
    x := server.x + (io.adjustMotion motion).1
    y := server.y + (io.adjustMotion motion).2 }

def movedInside (motion : Int × Int) (server : Server) : Server :=
  let moved := server.movedBy io motion
  if moved.waitingScreen.isSome ∧ moved.clearWait io (io.shape server.active) then
    moved.noSwitch io moved.x moved.y
  else moved

/-- A wait that is running ends with the motion just when the cursor is then at least the zone's size
away from the border where the screen is waited for. -/
def ClearedAtDistance (server : Server) : ServerIo × ServerEvent → Prop
  | (io, event) =>
    ∀ next dir, (machine setup).step server (io, event) = some next →
      server.waitingScreen.isSome → server.switchDir = some dir → server.switchWaitTimer →
        (next.switchWaitTimer = false ↔
          io.jumpZoneSize ≤ distanceTo (io.shape next.active) (next.x, next.y) dir)

def NearsWaited (dir : Direction) (server : Server) : ServerIo × ServerEvent → Prop
  | (io, .motionOnSecondary dx dy) =>
    server.waitingScreen.isSome ∧ server.switchDir = some dir ∧
      distanceTo (io.shape server.active) (server.destination io (dx, dy)) dir <
        io.jumpZoneSize.natAbs
  | _ => False

variable {setup io} {server next : Server} {a : Shape} {motion : Int × Int}

theorem edgeOnSecondary_eq_none {x y : Int} :
    edgeOnSecondary a x y = none ↔
      (a.x ≤ x ∧ x ≤ a.x + a.width - 1) ∧ a.y ≤ y ∧ y ≤ a.y + a.height - 1 := by
  unfold edgeOnSecondary
  split_ifs
  · exact iff_of_false nofun (by omega)
  · exact iff_of_false nofun (by omega)
  · exact iff_of_false nofun (by omega)
  · exact iff_of_false nofun (by omega)
  · exact iff_of_true rfl (by omega)

theorem clampToScreen_of_inside (h : edgeOnSecondary a server.x server.y = none) :
    server.clampToScreen a server.x server.y = server := by
  obtain ⟨⟨hleft, hright⟩, htop, hbottom⟩ := edgeOnSecondary_eq_none.mp h
  unfold clampToScreen
  rw [if_neg (by omega), if_neg (by omega), if_neg (by omega), if_neg (by omega)]

theorem movedInside_stays :
    Stays (server.movedBy io motion) (server.movedInside io motion) := by
  unfold movedInside
  extract_lets moved
  split_ifs
  · exact stays_noSwitch
  · exact .refl moved

theorem step_of_movesInside {dx dy : Int}
    (h : MovesInside setup server (io, .motionOnSecondary dx dy)) :
    (machine setup).step server (io, .motionOnSecondary dx dy) =
      some (server.movedInside io (dx, dy)) := by
  obtain ⟨hsecondary, habsolute, hinside⟩ := h
  show server.onMouseMoveSecondary setup io dx dy = _
  have hstays : Stays (server.movedBy io (dx, dy)) (server.movedInside io (dx, dy)) := movedInside_stays
  have hclamped : (server.movedInside io (dx, dy)).clampToScreen (io.shape server.active)
      (server.destination io (dx, dy)).1 (server.destination io (dx, dy)).2 =
        server.movedInside io (dx, dy) := by
    have hx : (server.movedInside io (dx, dy)).x = (server.destination io (dx, dy)).1 := hstays.x
    have hy : (server.movedInside io (dx, dy)).y = (server.destination io (dx, dy)).2 := hstays.y
    rw [← hx, ← hy] at hinside ⊢
    exact clampToScreen_of_inside hinside
  rw [onMouseMoveSecondary_eq]
  unfold onMouseMoveSecondaryTrace
  dsimp only
  rw [if_neg hsecondary, if_neg habsolute]
  unfold destination at hinside
  dsimp only at hinside
  rw [hinside]
  exact congrArg some hclamped

/-- How far from its border the code ends a wait. -/
def clearDistance (io : ServerIo) : Direction → Int
  | .bottom => -io.jumpZoneSize
  | _ => io.jumpZoneSize

theorem clearWait_iff {dir : Direction} (hdir : server.switchDir = some dir) :
    server.clearWait io a = true ↔ clearDistance io dir ≤ distanceTo a (server.x, server.y) dir := by
  unfold clearWait
  rw [hdir]
  cases dir <;> dsimp only [clearDistance, distanceTo] <;> rw [decide_eq_true_iff] <;> omega

variable {call : ServerIo × ServerEvent}

theorem clearedAtDistance_iff (h : MovesInside setup server call) :
    ClearedAtDistance setup server call ↔
      ¬ (server.switchWaitTimer ∧ NearsWaited .bottom server call) := by
  obtain ⟨io, event⟩ := call
  cases event with
  | motionOnSecondary dx dy =>
    have hstep := step_of_movesInside h
    obtain ⟨⟨hleft, hright⟩, htop, hbottom⟩ := edgeOnSecondary_eq_none.mp h.2.2
    have hstays : Stays (server.movedBy io (dx, dy)) (server.movedInside io (dx, dy)) :=
      movedInside_stays
    have hposition : ((server.movedInside io (dx, dy)).x, (server.movedInside io (dx, dy)).y) =
        server.destination io (dx, dy) := Prod.ext hstays.x hstays.y
    have hactive : (server.movedInside io (dx, dy)).active = server.active := hstays.active
    have htimer (dir : Direction) (hwaiting : server.waitingScreen.isSome)
        (hdir : server.switchDir = some dir) (hrunning : server.switchWaitTimer) :
        (server.movedInside io (dx, dy)).switchWaitTimer = false ↔
          clearDistance io dir ≤
            distanceTo (io.shape server.active) (server.destination io (dx, dy)) dir := by
      have hclear : (server.movedBy io (dx, dy)).clearWait io (io.shape server.active) = true ↔ _ :=
        clearWait_iff hdir
      unfold movedInside
      extract_lets moved
      split_ifs with hcleared
      · exact iff_of_true rfl (hclear.mp hcleared.2)
      · refine iff_of_false (fun hstopped => ?_) fun hdistance => hcleared ⟨hwaiting, hclear.mpr hdistance⟩
        exact absurd (hstopped.symm.trans hrunning) Bool.false_ne_true
    have hside (dir : Direction) (hother : dir ≠ .bottom) : clearDistance io dir = io.jumpZoneSize := by
      cases dir with
      | bottom => exact absurd rfl hother
      | _ => rfl
    constructor
    · rintro hcleared ⟨hrunning, hwaiting, hdir, hnear⟩
      have hiff := hcleared _ .bottom hstep hwaiting hdir hrunning
      rw [hactive, hposition, htimer .bottom hwaiting hdir hrunning] at hiff
      unfold clearDistance distanceTo at hiff
      unfold distanceTo at hnear
      dsimp only at hiff hnear
      omega
    · intro hsafe next dir hnext hwaiting hdir hrunning
      obtain rfl := Option.some.inj (hstep.symm.trans hnext)
      rw [hactive, hposition, htimer dir hwaiting hdir hrunning]
      by_cases hother : dir = .bottom
      · subst hother
        have hfar : ¬ distanceTo (io.shape server.active) (server.destination io (dx, dy)) .bottom <
            io.jumpZoneSize.natAbs := fun hnear => hsafe ⟨hrunning, hwaiting, hdir, hnear⟩
        unfold clearDistance distanceTo
        unfold distanceTo at hfar
        dsimp only at hfar ⊢
        omega
      · rw [hside dir hother]
  | _ => exact h.elim

variable {mirror : Mirror}

theorem movedBy_mirror :
    (mirror.server server).movedBy (mirror.io io) (mirror.position motion) =
      mirror.server (server.movedBy io motion) := by
  unfold movedBy Mirror.server Mirror.io
  dsimp only
  rw [Mirror.position_position, Mirror.position_add]

theorem movesAway_mirror {dir : Option Direction} :
    (mirror.server server).movesAway (dir.map mirror.direction) = server.movesAway dir := by
  have hsides {first second first' second' : Prop} [Decidable first] [Decidable second]
      [Decidable first'] [Decidable second'] (h : first ↔ first') (h' : second ↔ second') :
      (decide first && decide second) = (decide first' && decide second') :=
    congrArg₂ _ (decide_eq_decide.mpr h) (decide_eq_decide.mpr h')
  rcases dir with _ | dir
  · rfl
  · cases mirror <;> cases dir <;>
      exact hsides (by dsimp only [Mirror.server, Mirror.position]; omega)
        (by dsimp only [Mirror.server, Mirror.position]; omega)

theorem tapZone_mirror {x y tapZone : Int} :
    ((mirror.shape a).x + tapZone ≤ (mirror.position (x, y)).1 ∧
        (mirror.position (x, y)).1 < (mirror.shape a).x + (mirror.shape a).width - tapZone ∧
          (mirror.shape a).y + tapZone ≤ (mirror.position (x, y)).2 ∧
            (mirror.position (x, y)).2 < (mirror.shape a).y + (mirror.shape a).height - tapZone) ↔
      a.x + tapZone ≤ x ∧ x < a.x + a.width - tapZone ∧ a.y + tapZone ≤ y ∧
        y < a.y + a.height - tapZone := by
  cases mirror <;> dsimp only [Mirror.shape, Mirror.position] <;> omega

theorem noSwitch_mirror {x y : Int} :
    (mirror.server server).noSwitch (mirror.io io) (mirror.position (x, y)).1
        (mirror.position (x, y)).2 = mirror.server (server.noSwitch io x y) := by
  have harm : (mirror.server server).armSwitchTwoTap (mirror.io io) (mirror.position (x, y)).1
      (mirror.position (x, y)).2 = mirror.server (server.armSwitchTwoTap io x y) := by
    have hzone := @tapZone_mirror (io.shape server.active) mirror x y
      (max io.jumpZoneSize switchTwoTapZone)
    have haway := @movesAway_mirror server mirror server.switchDir
    unfold armSwitchTwoTap
    by_cases hengaged : ¬ server.switchTwoTapEngaged
    · rw [if_pos hengaged]
      exact if_pos hengaged
    rw [if_neg hengaged]
    refine (if_neg hengaged).trans ?_
    by_cases hlate : io.twoTapLate = true
    · rw [if_pos hlate]
      exact if_pos hlate
    rw [if_neg hlate]
    refine (if_neg hlate).trans ?_
    by_cases harmed : server.switchTwoTapArmed = true
    · rw [if_pos harmed]
      exact if_pos harmed
    rw [if_neg harmed]
    refine (if_neg harmed).trans ?_
    dsimp only
    by_cases hinside : (io.shape server.active).x + max io.jumpZoneSize switchTwoTapZone ≤ x ∧
        x < (io.shape server.active).x + (io.shape server.active).width -
          max io.jumpZoneSize switchTwoTapZone ∧
        (io.shape server.active).y + max io.jumpZoneSize switchTwoTapZone ≤ y ∧
        y < (io.shape server.active).y + (io.shape server.active).height -
          max io.jumpZoneSize switchTwoTapZone
    · rw [if_pos hinside]
      refine (if_pos (hzone.mpr hinside)).trans ?_
      show ({ mirror.server server with
        switchTwoTapArmed := (mirror.server server).movesAway (server.switchDir.map mirror.direction) } :
          Server) = _
      rw [haway]
      rfl
    · rw [if_neg hinside]
      exact if_neg fun hmirrored => hinside (hzone.mp hmirrored)
  unfold noSwitch
  rw [harm]
  rfl

theorem distanceTo_mirror {position : Int × Int} {dir : Direction} :
    distanceTo (mirror.shape a) (mirror.position position) (mirror.direction dir) =
      distanceTo a position dir := by
  cases mirror <;> cases dir <;>
    dsimp only [distanceTo, Mirror.shape, Mirror.position, Mirror.direction] <;> omega

/-- Where top and bottom change places, no motion nears one of them while a screen is waited for
there. -/
def MirrorsWait (mirror : Mirror) (server : Server) (call : ServerIo × ServerEvent) : Prop :=
  mirror = .topBottom → ¬ NearsWaited .top server call ∧ ¬ NearsWaited .bottom server call

theorem clearWait_mirror {dx dy : Int} (hwaiting : server.waitingScreen.isSome)
    (hsafe : MirrorsWait mirror server (io, .motionOnSecondary dx dy)) :
    (mirror.server (server.movedBy io (dx, dy))).clearWait (mirror.io io)
        (mirror.shape (io.shape server.active)) = true ↔
      (server.movedBy io (dx, dy)).clearWait io (io.shape server.active) = true := by
  rcases hdir : server.switchDir with _ | dir
  · unfold clearWait Mirror.server movedBy
    rw [hdir]
    exact Iff.rfl
  have hmirrored : (mirror.server (server.movedBy io (dx, dy))).switchDir =
      some (mirror.direction dir) := congrArg (Option.map mirror.direction) hdir
  have hdistance : distanceTo (mirror.shape (io.shape server.active))
      ((mirror.server (server.movedBy io (dx, dy))).x,
        (mirror.server (server.movedBy io (dx, dy))).y) (mirror.direction dir) =
      distanceTo (io.shape server.active) (server.destination io (dx, dy)) dir := distanceTo_mirror
  have hmoved : (server.movedBy io (dx, dy)).switchDir = some dir := hdir
  rw [clearWait_iff hmirrored, clearWait_iff hmoved, hdistance]
  show clearDistance io (mirror.direction dir) ≤ _ ↔
    clearDistance io dir ≤ distanceTo _ (server.destination io (dx, dy)) dir
  have hfar (hmirror : mirror = .topBottom) (hvertical : dir = .top ∨ dir = .bottom) :
      io.jumpZoneSize.natAbs ≤
        distanceTo (io.shape server.active) (server.destination io (dx, dy)) dir := by
    obtain ⟨htop, hbottom⟩ := hsafe hmirror
    rcases hvertical with rfl | rfl
    · exact Int.not_lt.mp fun hnear => htop ⟨hwaiting, hdir, hnear⟩
    · exact Int.not_lt.mp fun hnear => hbottom ⟨hwaiting, hdir, hnear⟩
  cases mirror with
  | leftRight => cases dir <;> exact Iff.rfl
  | topBottom =>
    cases dir with
    | left => exact Iff.rfl
    | right => exact Iff.rfl
    | top =>
      have hfar := hfar rfl (.inl rfl)
      exact iff_of_true (by show -io.jumpZoneSize ≤ _; omega) (by show io.jumpZoneSize ≤ _; omega)
    | bottom =>
      have hfar := hfar rfl (.inr rfl)
      exact iff_of_true (by show io.jumpZoneSize ≤ _; omega) (by show -io.jumpZoneSize ≤ _; omega)

theorem movedInside_mirror {dx dy : Int}
    (hsafe : MirrorsWait mirror server (io, .motionOnSecondary dx dy)) :
    (mirror.server server).movedInside (mirror.io io) (mirror.position (dx, dy)) =
      mirror.server (server.movedInside io (dx, dy)) := by
  have hclear (hwaiting : server.waitingScreen.isSome) := clearWait_mirror hwaiting hsafe
  have hstopped := @noSwitch_mirror io (server.movedBy io (dx, dy)) mirror
    (server.movedBy io (dx, dy)).x (server.movedBy io (dx, dy)).y
  unfold movedInside
  rw [movedBy_mirror]
  dsimp only
  by_cases hcleared : (server.movedBy io (dx, dy)).waitingScreen.isSome = true ∧
      (server.movedBy io (dx, dy)).clearWait io (io.shape server.active) = true
  · rw [if_pos hcleared]
    exact (if_pos ⟨hcleared.1, (hclear hcleared.1).mpr hcleared.2⟩).trans hstopped
  · rw [if_neg hcleared]
    exact if_neg fun hmirrored => hcleared ⟨hmirrored.1, (hclear hmirrored.1).mp hmirrored.2⟩

theorem destination_mirror :
    (mirror.server server).destination (mirror.io io) (mirror.position motion) =
      mirror.position (server.destination io motion) := by
  unfold destination Mirror.server Mirror.io
  dsimp only
  rw [Mirror.position_position, Mirror.position_add]

theorem movesInside_mirror (h : MovesInside setup server call) :
    MovesInside setup (mirror.server server) (mirror.call call) := by
  obtain ⟨io, event⟩ := call
  cases event with
  | motionOnSecondary dx dy =>
    obtain ⟨hsecondary, habsolute, hinside⟩ := h
    refine ⟨hsecondary, habsolute, ?_⟩
    obtain ⟨⟨hleft, hright⟩, htop, hbottom⟩ := edgeOnSecondary_eq_none.mp hinside
    show edgeOnSecondary (mirror.shape (io.shape server.active))
      ((mirror.server server).destination (mirror.io io) (mirror.position (dx, dy))).1
      ((mirror.server server).destination (mirror.io io) (mirror.position (dx, dy))).2 = none
    rw [destination_mirror, edgeOnSecondary_eq_none]
    generalize server.destination io (dx, dy) = position at *
    cases mirror <;> dsimp only [Mirror.shape, Mirror.position] <;> omega
  | _ => exact h.elim

theorem step_mirror (h : MovesInside setup server call) (hsafe : MirrorsWait mirror server call) :
    (machine setup).step (mirror.server server) (mirror.call call) =
      ((machine setup).step server call).map mirror.server := by
  have hmirrored : MovesInside setup (mirror.server server) (mirror.call call) := movesInside_mirror h
  obtain ⟨io, event⟩ := call
  cases event with
  | motionOnSecondary dx dy =>
    rw [step_of_movesInside h]
    exact (step_of_movesInside hmirrored).trans (congrArg some (movedInside_mirror hsafe))
  | _ => exact h.elim

theorem exec_mirror {calls : List (ServerIo × ServerEvent)}
    (hinside : (machine setup).Along (MovesInside setup) server calls)
    (hsafe : (machine setup).Along (MirrorsWait mirror) server calls) :
    (machine setup).exec (mirror.server server) (calls.map mirror.call) =
      ((machine setup).exec server calls).map mirror.server := by
  induction calls generalizing server with
  | nil => rfl
  | cons call calls ih =>
    show ((machine setup).step (mirror.server server) (mirror.call call)).bind _ =
      (((machine setup).step server call).bind _).map mirror.server
    rw [step_mirror hinside.1 hsafe.1]
    rcases hstep : (machine setup).step server call with _ | next
    · rfl
    · exact ih (hinside.2 next hstep) (hsafe.2 next hstep)

/-- **The four sides.** Along motions that stay on a secondary screen, every wait ends just at the
zone's distance from its border exactly when no motion nears the bottom while a screen is waited for
there. Runs that are mirrored from left to right have mirrored states; so have those that are mirrored
from top to bottom, if no motion nears either of the two while a screen is waited for there. -/
theorem clearedAtDistance_along_iff {calls : List (ServerIo × ServerEvent)}
    (hinside : (machine setup).Along (MovesInside setup) server calls) :
    ((machine setup).Along (ClearedAtDistance setup) server calls ↔
      (machine setup).Along
        (fun server call => ¬ (server.switchWaitTimer ∧ NearsWaited .bottom server call)) server calls) ∧
    (machine setup).exec (Mirror.leftRight.server server) (calls.map Mirror.leftRight.call) =
      ((machine setup).exec server calls).map Mirror.leftRight.server ∧
    ((machine setup).Along
        (fun server call => ¬ NearsWaited .top server call ∧ ¬ NearsWaited .bottom server call)
        server calls →
      (machine setup).exec (Mirror.topBottom.server server) (calls.map Mirror.topBottom.call) =
        ((machine setup).exec server calls).map Mirror.topBottom.server) := by
  refine ⟨Machine.along_congr hinside fun _ _ => clearedAtDistance_iff, exec_mirror hinside ?_, ?_⟩
  · exact Machine.Along.of_mem fun _ _ _ hmirror => nomatch hmirror
  · intro hsafe
    exact exec_mirror hinside (hsafe.mono fun _ _ hfar _ => hfar)

/-- A screen between two others, above and below it, and a wait before a switch. -/
def columnSetup : ServerSetup Unit where
  canonicalName := some
  neighbor srcName dir _ :=
    if srcName = "middle" ∧ dir = .top then some ("desk", ())
    else if srcName = "middle" ∧ dir = .bottom then some ("low", ()) else none
  switchWaitDelay := 250
  toFraction _ _ := ()
  toPixel _ _ := 50
  primaryClient := 0
  clientName client := if client = 0 then "desk" else if client = 1 then "middle" else "low"

def columnIo : ServerIo where
  shape _ := ⟨0, 0, 100, 100⟩
  searchSteps := 3

def columnStart : Server :=
  { clientSet := [0], clients := [("desk", 0)], active := 0, x := 50, y := 50 }

def columnWait : List (ServerIo × ServerEvent) :=
  [(columnIo, .adoptClient 1), (columnIo, .adoptClient 2), (columnIo, .switchToScreen "middle"),
    (columnIo, .motionOnSecondary 50 150)]

def columnAlong : List (ServerIo × ServerEvent) := [(columnIo, .motionOnSecondary 1 0)]

theorem clearedAtDistance_along_iff_column :
    ∃ server, (machine columnSetup).exec columnStart columnWait = some server ∧
      (machine columnSetup).exec (Mirror.leftRight.server server)
          (columnAlong.map Mirror.leftRight.call) =
        ((machine columnSetup).exec server columnAlong).map Mirror.leftRight.server := by
  have hinside : ∀ server, (machine columnSetup).exec columnStart columnWait = some server →
      (machine columnSetup).Along (MovesInside columnSetup) server columnAlong := by
    intro server hserver
    obtain rfl := Option.some.inj hserver
    exact ⟨⟨by decide, by decide, by decide⟩, fun _ _ => trivial⟩
  exact ⟨_, rfl, (clearedAtDistance_along_iff (hinside _ rfl)).2.1⟩

/-- A motion along the bottom ends the wait there. -/
theorem bottom_wait_lost :
    ∃ server, (machine columnSetup).exec columnStart columnWait = some server ∧
      (machine columnSetup).Along (MovesInside columnSetup) server columnAlong ∧
      ¬ (machine columnSetup).Along (ClearedAtDistance columnSetup) server columnAlong ∧
      (machine columnSetup).exec (Mirror.topBottom.server server)
          (columnAlong.map Mirror.topBottom.call) ≠
        ((machine columnSetup).exec server columnAlong).map Mirror.topBottom.server := by
  refine ⟨_, rfl, ⟨⟨by decide, by decide, by decide⟩, fun _ _ => trivial⟩, fun hcleared => ?_,
    fun hmirrored => ?_⟩
  · have hdistance := (hcleared.1 _ .bottom rfl rfl rfl rfl).mp rfl
    exact absurd hdistance (by decide)
  · have htimer := congrArg (Option.map (·.switchWaitTimer)) hmirrored
    exact absurd htimer (by decide)

end Server

end DeskflowPlus
