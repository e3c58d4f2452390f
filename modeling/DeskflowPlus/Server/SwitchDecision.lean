import DeskflowPlus.Server.SwitchStages
import DeskflowPlus.Server.SwitchTrace

/-!
# When to switch

`isSwitchOkay` goes through a chain of reasons to prevent a switch, each of which may also end the
wait for a screen. One description of its outcome serves all that is shown of motions.
-/

namespace DeskflowPlus

namespace Server

variable {Fraction : Type} {setup : ServerSetup Fraction} {io : ServerIo} {server later : Server}

def WaitKept (earlier later : Server) : Prop :=
  later.switchWaitTimer → earlier.switchWaitTimer ∧
    later.waitingScreen = earlier.waitingScreen ∧ later.switchWaitX = earlier.switchWaitX ∧
      later.switchWaitY = earlier.switchWaitY

theorem WaitKept.refl (server : Server) : WaitKept server server := fun h => ⟨h, rfl, rfl, rfl⟩

theorem WaitKept.trans {earlier middle : Server} (hfirst : WaitKept earlier middle)
    (hsecond : WaitKept middle later) : WaitKept earlier later := by
  intro h
  obtain ⟨hmiddle, hscreen, hx, hy⟩ := hsecond h
  obtain ⟨hearlier, hscreen', hx', hy'⟩ := hfirst hmiddle
  exact ⟨hearlier, hscreen.trans hscreen', hx.trans hx', hy.trans hy'⟩

structure Calm (earlier later : Server) : Prop where
  active : later.active = earlier.active
  clients : later.clients = earlier.clients
  lockedToScreen : later.lockedToScreen = earlier.lockedToScreen
  wait : WaitKept earlier later

/-- And so does the cursor. -/
structure Stays (earlier later : Server) : Prop extends Calm earlier later where
  x : later.x = earlier.x
  y : later.y = earlier.y

theorem Calm.refl (server : Server) : Calm server server :=
  ⟨rfl, rfl, rfl, .refl server⟩

theorem Calm.trans {earlier middle : Server} (hfirst : Calm earlier middle)
    (hsecond : Calm middle later) : Calm earlier later where
  active := hsecond.active.trans hfirst.active
  clients := hsecond.clients.trans hfirst.clients
  lockedToScreen := hsecond.lockedToScreen.trans hfirst.lockedToScreen
  wait := hfirst.wait.trans hsecond.wait

theorem Stays.refl (server : Server) : Stays server server := ⟨.refl server, rfl, rfl⟩

theorem Stays.trans {earlier middle : Server} (hfirst : Stays earlier middle)
    (hsecond : Stays middle later) : Stays earlier later :=
  ⟨hfirst.toCalm.trans hsecond.toCalm, hsecond.x.trans hfirst.x, hsecond.y.trans hfirst.y⟩

theorem stays_stopSwitch : Stays server server.stopSwitch := by
  unfold stopSwitch
  split_ifs
  · exact ⟨⟨rfl, rfl, rfl, fun h => (Bool.false_ne_true h).elim⟩, rfl, rfl⟩
  · exact .refl server

theorem stays_stopIf {condition : Prop} [Decidable condition] {waited : Bool × Server} :
    Stays waited.2 (stopIf condition waited).2 ∧
      ((stopIf condition waited).1 = false → waited.1 = false ∧ ¬ condition) := by
  unfold stopIf
  split_ifs with h
  · exact ⟨stays_stopSwitch, nofun⟩
  · exact ⟨.refl waited.2, fun hprevent => ⟨hprevent, h⟩⟩

end Server

namespace SwitchAttempt

variable {Fraction : Type} (setup : ServerSetup Fraction) (io : ServerIo) (attempt : SwitchAttempt)

def isNewDirection : Bool := some attempt.dir ≠ attempt.server.switchDir

def target : Option ClientProxy :=
  if attempt.isNewDirection ∨ attempt.server.waitingScreen.isNone then attempt.newScreen
  else attempt.server.waitingScreen

def isSecondTap : Bool :=
  0 < setup.switchTwoTapDelay ∧
    ¬ (attempt.isNewDirection ∨ ¬ attempt.server.switchTwoTapEngaged ∨
      ¬ attempt.server.shouldSwitchTwoTap io)

/-- The attempt calls `startSwitchWait`. -/
def startsWait : Bool :=
  attempt.newScreen.isSome ∧ ¬ attempt.isSecondTap setup io ∧ 0 < setup.switchWaitDelay ∧
    (attempt.isNewDirection ∨ ¬ attempt.server.switchWaitTimer)

end SwitchAttempt

/-- What `isSwitchOkay` asks for before it lets the cursor go, and which wait it leaves. -/
structure SwitchDecision {Fraction : Type} (setup : ServerSetup Fraction) (io : ServerIo)
    (attempt : SwitchAttempt) (okay : Bool) (later : Server) : Prop where
  active : later.active = attempt.server.active
  clients : later.clients = attempt.server.clients
  x : later.x = attempt.server.x
  y : later.y = attempt.server.y
  lockedToScreen : later.lockedToScreen = attempt.server.lockedToScreen
  free : okay → ¬ attempt.server.isLockedToScreen setup io ∧ ¬ Server.lacksModifiers setup io
  wait : later.switchWaitTimer → attempt.newScreen.isSome →
    later.waitingScreen = attempt.target ∧
      if attempt.startsWait setup io then
        later.switchWaitX = attempt.x ∧ later.switchWaitY = attempt.y
      else attempt.server.switchWaitTimer ∧ later.switchWaitX = attempt.server.switchWaitX ∧
        later.switchWaitY = attempt.server.switchWaitY
  lost : attempt.newScreen = none → Server.Stays attempt.server later ∧
    (attempt.server.WaitTimed → later.switchWaitTimer = false)

namespace Server

variable {Fraction : Type} {setup : ServerSetup Fraction} {io : ServerIo} {server later : Server}

theorem isLockedToScreen_congr (h : later.lockedToScreen = server.lockedToScreen) :
    later.isLockedToScreen setup io = server.isLockedToScreen setup io := by
  unfold isLockedToScreen
  rw [h]

theorem decision_of_lost (attempt : SwitchAttempt) (hlost : attempt.newScreen = none) :
    SwitchDecision setup io attempt false attempt.server.stopSwitch where
  active := stays_stopSwitch.active
  clients := stays_stopSwitch.clients
  x := stays_stopSwitch.x
  y := stays_stopSwitch.y
  lockedToScreen := stays_stopSwitch.lockedToScreen
  free h := (Bool.false_ne_true h).elim
  wait _ hfound := by
    rw [hlost] at hfound
    cases hfound
  lost _ := by
    refine ⟨stays_stopSwitch, fun htimed => ?_⟩
    unfold stopSwitch
    split_ifs with hwaiting
    · rfl
    · exact Bool.eq_false_iff.mpr fun htimer => hwaiting (htimed htimer)

theorem stays_passGuards {xActive yActive : Int} {waited : Bool × Server} :
    Stays waited.2 (passGuards setup io xActive yActive waited).2 ∧
      ((passGuards setup io xActive yActive waited).1 = false →
        ¬ waited.2.isLockedToScreen setup io ∧ ¬ lacksModifiers setup io) := by
  unfold passGuards
  dsimp only
  generalize hcornered : stopIf (waited.2.inLockedCorner setup io xActive yActive) waited = cornered
  have hcorner := @stays_stopIf (waited.2.inLockedCorner setup io xActive yActive) _ waited
  rw [hcornered] at hcorner
  generalize hheld : stopIf (¬ cornered.1 ∧ cornered.2.isLockedToScreen setup io) cornered = locked
  have hlock := @stays_stopIf (¬ cornered.1 ∧ cornered.2.isLockedToScreen setup io) _ cornered
  rw [hheld] at hlock
  have hmodifiers := @stays_stopIf (¬ locked.1 ∧ lacksModifiers setup io) _ locked
  refine ⟨(hcorner.1.trans hlock.1).trans hmodifiers.1, fun hpassed => ?_⟩
  obtain ⟨hlockPassed, hmodifiersPassed⟩ := hmodifiers.2 hpassed
  obtain ⟨hcornerPassed, hlockFree⟩ := hlock.2 hlockPassed
  rw [isLockedToScreen_congr hcorner.1.lockedToScreen] at hlockFree
  exact ⟨fun hlocked => hlockFree ⟨Bool.eq_false_iff.mp hcornerPassed, hlocked⟩,
    fun hlacks => hmodifiersPassed ⟨Bool.eq_false_iff.mp hlockPassed, hlacks⟩⟩

theorem decision_isSwitchOkay (attempt : SwitchAttempt) {xActive yActive : Int} {okay : Bool}
    (h : attempt.server.isSwitchOkay setup io attempt.newScreen attempt.dir attempt.x attempt.y
      xActive yActive = (okay, later)) : SwitchDecision setup io attempt okay later := by
  rcases hnew : attempt.newScreen with _ | newScreen
  · rw [hnew] at h
    obtain ⟨rfl, rfl⟩ := Prod.mk.inj h
    exact decision_of_lost attempt hnew
  rw [hnew, isSwitchOkay_eq] at h
  obtain ⟨rfl, rfl⟩ := Prod.mk.inj h
  have hcursor := @cursor_awaitSwitch _ setup io attempt.server newScreen attempt.dir attempt.x
    attempt.y
  have hwaiting := @waitingScreen_awaitSwitch _ setup io attempt.server newScreen attempt.dir attempt.x
    attempt.y
  have htime := @waitTime_awaitSwitch _ setup io attempt.server newScreen attempt.dir attempt.x
    attempt.y
  generalize attempt.server.awaitSwitch setup io newScreen attempt.dir attempt.x attempt.y = waited
    at hcursor hwaiting htime
  obtain ⟨hstays, hfree⟩ := @stays_passGuards _ setup io xActive yActive waited
  have htarget : waited.2.waitingScreen = attempt.target := by
    unfold SwitchAttempt.target
    rw [hnew]
    exact hwaiting
  have hstarts : attempt.startsWait setup io = true ↔
      ¬ attempt.server.isSecondTap setup io attempt.dir = true ∧ 0 < setup.switchWaitDelay ∧
        (attempt.server.isNewDirection attempt.dir = true ∨
          ¬ attempt.server.switchWaitTimer = true) := by
    unfold SwitchAttempt.startsWait
    rw [decide_eq_true_iff, hnew]
    exact ⟨fun hstarts => hstarts.2, fun hstarts => ⟨rfl, hstarts⟩⟩
  exact {
    active := hstays.active.trans (congrArg (·.1) hcursor)
    clients := hstays.clients.trans (congrArg (·.2.1) hcursor)
    x := hstays.x.trans (congrArg (·.2.2.1) hcursor)
    y := hstays.y.trans (congrArg (·.2.2.2.1) hcursor)
    lockedToScreen := hstays.lockedToScreen.trans (congrArg (·.2.2.2.2) hcursor)
    free := by
      intro hokay
      rw [← isLockedToScreen_congr (congrArg (·.2.2.2.2) hcursor)]
      exact hfree ((Bool.not_eq_true' _).mp hokay)
    wait := by
      intro htimer _
      obtain ⟨hrunning, hscreen, hx, hy⟩ := hstays.wait htimer
      refine ⟨hscreen.trans htarget, ?_⟩
      by_cases hstart : attempt.startsWait setup io = true
      · rw [if_pos (hstarts.mp hstart)] at htime
        rw [if_pos hstart]
        exact ⟨hx.trans (congrArg (·.2.1) htime), hy.trans (congrArg (·.2.2) htime)⟩
      · rw [if_neg fun hbegun => hstart (hstarts.mpr hbegun)] at htime
        rw [if_neg hstart]
        exact ⟨(congrArg (·.1) htime).symm.trans hrunning, hx.trans (congrArg (·.2.1) htime),
          hy.trans (congrArg (·.2.2) htime)⟩
    lost := fun hlost => absurd (hnew.symm.trans hlost) nofun }

def Beyond (a : Shape) (position : Int × Int) : Direction → Prop
  | .left => position.1 < a.x
  | .right => a.x + a.width ≤ position.1
  | .top => position.2 < a.y
  | .bottom => a.y + a.height ≤ position.2

end Server

def SwitchAttempt.Found {Fraction : Type} (setup : ServerSetup Fraction) (io : ServerIo)
    (attempt : SwitchAttempt) : Prop :=
  Server.Beyond (io.shape attempt.server.active) attempt.departure attempt.dir ∧
    mapToNeighbor setup io attempt.server.clients attempt.server.active attempt.dir
      attempt.departure = some (attempt.newScreen, (attempt.x, attempt.y))

namespace Server

inductive Traced {Fraction : Type} (setup : ServerSetup Fraction) (io : ServerIo) :
    Server → SwitchTrace → Prop
  | stay {server later : Server} (hcalm : Calm server later) :
      Traced setup io server { server := later }
  | call {server later : Server} {attempt : SwitchAttempt} {dst : ClientProxy}
      (hcalm : Calm server attempt.server) (hfound : attempt.Found setup io)
      (hdst : attempt.newScreen = some dst) (hdecision : SwitchDecision setup io attempt true later) :
      Traced setup io server
        { attempts := [attempt], server := later, call := some ⟨dst, attempt.x, attempt.y⟩ }
  | tries {server later : Server} {attempt : SwitchAttempt} {okay : Bool} {trace : SwitchTrace}
      (hcalm : Calm server attempt.server) (hfound : attempt.Found setup io)
      (hdecision : SwitchDecision setup io attempt okay later) (hrest : Traced setup io later trace) :
      Traced setup io server (trace.cons attempt)

variable {Fraction : Type} {setup : ServerSetup Fraction} {io : ServerIo} {server later : Server}
  {trace : SwitchTrace}

theorem Traced.of_calm {earlier : Server} (hcalm : Calm earlier server)
    (h : Traced setup io server trace) : Traced setup io earlier trace := by
  cases h with
  | stay hstay => exact .stay (hcalm.trans hstay)
  | call hcall hfound hdst hdecision => exact .call (hcalm.trans hcall) hfound hdst hdecision
  | tries htries hfound hdecision hrest =>
    exact .tries (hcalm.trans htries) hfound hdecision hrest

theorem traced_trySwitchTrace {xc yc : Int} {edges : List (Option Direction × Int × Int)}
    (hedges : ∀ dir x y, (some dir, x, y) ∈ edges → Beyond (io.shape server.active) (x, y) dir)
    (h : server.trySwitchTrace setup io xc yc edges = some trace) :
    Traced setup io server trace := by
  induction edges generalizing server trace with
  | nil =>
    obtain rfl := Option.some.inj h
    exact .stay (.refl server)
  | cons edge rest ih =>
    have hrest (dir : Direction) (x y : Int) (hmem : (some dir, x, y) ∈ rest) :
        Beyond (io.shape server.active) (x, y) dir := hedges dir x y (List.mem_cons_of_mem _ hmem)
    obtain ⟨_ | dir, x, y⟩ := edge
    · exact ih hrest h
    obtain ⟨attempt, okay, tried, rfl, rfl, hdeparture, hneighbor, hokay, htried⟩ :=
      trySwitchTrace_cons h
    have hfound : attempt.Found setup io := by
      unfold SwitchAttempt.Found
      rw [hdeparture]
      exact ⟨hedges _ x y List.mem_cons_self, hneighbor⟩
    have hdecision : SwitchDecision setup io attempt okay tried := decision_isSwitchOkay attempt hokay
    rcases htried with ⟨rfl, dst, hdst, rfl⟩ | ⟨rfl, later, hlater, rfl⟩
    · exact .call (.refl _) hfound hdst hdecision
    · refine .tries (.refl _) hfound hdecision (ih ?_ hlater)
      rw [hdecision.active]
      exact hrest

variable {x y : Int}

theorem beyond_of_edgesOnPrimary {a : Shape} {zoneSize xEdge yEdge : Int} {dir : Direction}
    (h : (some dir, xEdge, yEdge) ∈ edgesOnPrimary a zoneSize x y) :
    Beyond a (xEdge, yEdge) dir := by
  unfold edgesOnPrimary at h
  split_ifs at h <;> grind [Beyond]

theorem stays_armSwitchTwoTap : Stays server (server.armSwitchTwoTap io x y) := by
  unfold armSwitchTwoTap
  extract_lets
  split_ifs <;> exact ⟨⟨rfl, rfl, rfl, fun h => ⟨h, rfl, rfl, rfl⟩⟩, rfl, rfl⟩

theorem stays_noSwitch : Stays server (server.noSwitch io x y) :=
  stays_armSwitchTwoTap.trans ⟨⟨rfl, rfl, rfl, fun h => (Bool.false_ne_true h).elim⟩, rfl, rfl⟩

theorem traced_onMouseMovePrimaryTrace
    (h : server.onMouseMovePrimaryTrace setup io x y = some trace) :
    Traced setup io server trace := by
  unfold onMouseMovePrimaryTrace at h
  split at h
  · obtain rfl := Option.some.inj h
    exact .stay (.refl server)
  extract_lets moved a zoneSize xc yc edges at h
  have hmoved : Calm server moved := ⟨rfl, rfl, rfl, fun h => ⟨h, rfl, rfl, rfl⟩⟩
  split at h
  · obtain rfl := Option.some.inj h
    exact .stay (hmoved.trans stays_noSwitch.toCalm)
  · refine (traced_trySwitchTrace (fun dir xEdge yEdge hedge => ?_) h).of_calm hmoved
    exact beyond_of_edgesOnPrimary hedge

theorem beyond_of_edgeOnSecondary {a : Shape} {dir : Direction}
    (h : edgeOnSecondary a x y = some dir) : Beyond a (x, y) dir := by
  unfold edgeOnSecondary at h
  split_ifs at h <;> grind [Beyond]

theorem calm_clampToScreen {a : Shape} : Calm server (server.clampToScreen a x y) :=
  ⟨rfl, rfl, rfl, fun h => ⟨h, rfl, rfl, rfl⟩⟩

theorem traced_onMouseMoveSecondaryTrace {dx dy : Int}
    (h : server.onMouseMoveSecondaryTrace setup io dx dy = some trace) :
    Traced setup io server trace := by
  unfold onMouseMoveSecondaryTrace at h
  generalize io.adjustMotion (dx, dy) = motion at h
  obtain ⟨dx, dy⟩ := motion
  dsimp -zeta only at h
  split at h
  · obtain rfl := Option.some.inj h
    exact .stay (.refl server)
  split at h
  · obtain rfl := Option.some.inj h
    exact .stay (.refl server)
  extract_lets xOld yOld moved a xc yc kept at h
  have hmoved : Calm server moved := ⟨rfl, rfl, rfl, fun h => ⟨h, rfl, rfl, rfl⟩⟩
  rcases hedge : edgeOnSecondary a moved.x moved.y with _ | dir
  · rw [hedge] at h
    obtain rfl := Option.some.inj h
    refine .stay (hmoved.trans (Calm.trans ?_ calm_clampToScreen))
    unfold kept
    split_ifs
    · exact stays_noSwitch.toCalm
    · exact .refl moved
  rw [hedge] at h
  dsimp -zeta only at h
  rcases hneighbor : mapToNeighbor setup io moved.clients moved.active dir (moved.x, moved.y) with
    _ | ⟨newScreen, xNew, yNew⟩
  · rw [hneighbor] at h
    cases h
  rw [hneighbor] at h
  dsimp -zeta only at h
  extract_lets mapped attempts at h
  let attempt : SwitchAttempt :=
    { server := mapped, dir, departure := (moved.x, moved.y), newScreen, x := xNew, y := yNew }
  have hmapped : Calm server attempt.server := ⟨rfl, rfl, rfl, fun h => ⟨h, rfl, rfl, rfl⟩⟩
  have hfound : attempt.Found setup io :=
    ⟨beyond_of_edgeOnSecondary hedge, hneighbor⟩
  rcases hokay : mapped.isSwitchOkay setup io newScreen dir xNew yNew xc yc with ⟨okay, tried⟩
  have hdecision : SwitchDecision setup io attempt okay tried :=
    decision_isSwitchOkay attempt hokay
  rw [hokay] at h
  split at h
  · rename_i switching dst heq
    obtain ⟨rfl, rfl⟩ := Prod.mk.inj heq
    obtain rfl := Option.some.inj h
    rw [hdecision.x, hdecision.y]
    exact .call hmapped hfound rfl hdecision
  · rename_i heq _
    obtain ⟨rfl, rfl⟩ := Prod.mk.inj heq
    obtain rfl := Option.some.inj h
    exact .tries hmapped hfound hdecision (.stay calm_clampToScreen)

theorem traced_handleShapeChangedTrace {client : ClientProxy}
    (h : server.handleShapeChangedTrace setup io client = some trace) :
    Traced setup io server trace := by
  unfold handleShapeChangedTrace at h
  split at h
  · obtain rfl := Option.some.inj h
    exact .stay (.refl server)
  obtain ⟨x, y⟩ := io.cursorPos client
  dsimp -zeta only at h
  extract_lets recorded shown at h
  have hshown : Calm server shown := by
    unfold shown
    split_ifs <;> exact ⟨rfl, rfl, rfl, fun h => ⟨h, rfl, rfl, rfl⟩⟩
  split at h
  · obtain rfl := Option.some.inj h
    exact .stay hshown
  split at h
  · exact (traced_onMouseMovePrimaryTrace h).of_calm hshown
  · exact (traced_onMouseMoveSecondaryTrace h).of_calm hshown

end Server

end DeskflowPlus
