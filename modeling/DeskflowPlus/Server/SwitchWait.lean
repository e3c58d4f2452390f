import DeskflowPlus.Server.Reload
import DeskflowPlus.Server.SwitchDecision

/-!
# The wait for a screen

A wait has a target and coordinates, which different conditions set: the target with a new direction
or when there is none, the coordinates whenever a wait starts. An edge may have several neighbours,
so a wait that starts again in the same direction may be given the coordinates on another neighbour
than the one it keeps.
-/

namespace DeskflowPlus

namespace Server

variable {Fraction : Type} {setup : ServerSetup Fraction} {io : ServerIo}
  {server earlier middle later next : Server} {client : ClientProxy}

def waitState (server : Server) : Bool × Option ClientProxy × Int × Int :=
  (server.switchWaitTimer, server.waitingScreen, server.switchWaitX, server.switchWaitY)

theorem WaitKept.of_waitState (h : later.waitState = earlier.waitState) : WaitKept earlier later := by
  intro htimer
  exact ⟨(congrArg (·.1) h).symm.trans htimer, congrArg (·.2.1) h, congrArg (·.2.2.1) h,
    congrArg (·.2.2.2) h⟩

theorem waitKept_switchScreen {dst : ClientProxy} {x y : Int} :
    WaitKept server (server.switchScreen io dst x y) := by
  unfold switchScreen
  extract_lets stopped
  have hstopped : WaitKept server stopped := stays_stopSwitch.wait.trans (.of_waitState rfl)
  split_ifs
  · exact hstopped.trans (.of_waitState rfl)
  · exact hstopped

theorem waitKept_jumpToScreen {newScreen : ClientProxy} :
    WaitKept server (server.jumpToScreen io newScreen) := by
  unfold jumpToScreen
  extract_lets recorded
  have hrecorded : WaitKept server recorded := .of_waitState rfl
  exact hrecorded.trans waitKept_switchScreen

theorem waitKept_stopRelativeMoves : WaitKept server (server.stopRelativeMoves setup io) := by
  unfold stopRelativeMoves
  split_ifs <;> exact .of_waitState rfl

theorem waitKept_onScreensaver {activated : Bool} :
    WaitKept server (server.onScreensaver setup io activated) := by
  cases activated with
  | true =>
    let saved : Server :=
      { server with activeSaver := some server.active, xSaver := server.x, ySaver := server.y }
    have hsaved : WaitKept server saved := .of_waitState rfl
    show WaitKept server (if saved.active ≠ setup.primaryClient then
      saved.switchScreen io setup.primaryClient 0 0 else saved)
    split_ifs
    · exact hsaved.trans waitKept_switchScreen
    · exact hsaved
  | false =>
    unfold onScreensaver
    rw [if_neg Bool.false_ne_true]
    extract_lets shown
    have hforgotten : WaitKept shown { shown with activeSaver := none } := .of_waitState rfl
    refine WaitKept.trans ?_ hforgotten
    unfold shown
    split
    · exact .refl server
    split
    · exact .refl server
    extract_lets s zoneSize xSaver ySaver
    have hplaced : WaitKept server { server with xSaver, ySaver } := .of_waitState rfl
    exact hplaced.trans waitKept_switchScreen

theorem waitKept_removeClient : WaitKept server (server.removeClient setup client).2 := by
  unfold removeClient
  split_ifs <;> exact .of_waitState rfl

theorem waitKept_forceLeaveClient : WaitKept server (server.forceLeaveClient setup io client) := by
  unfold forceLeaveClient
  extract_lets active centred stopped left
  have hleft : WaitKept server left := by
    unfold left
    split_ifs
    · have hcentred : WaitKept server centred := .of_waitState rfl
      have hstopped : WaitKept centred stopped := by
        unfold stopped
        split_ifs
        · exact stays_stopSwitch.wait
        · exact .refl centred
      exact (hcentred.trans hstopped).trans (.of_waitState rfl)
    · exact .refl server
  split_ifs
  · exact hleft.trans (.of_waitState rfl)
  · exact hleft

theorem waitKept_closeClient : WaitKept server (server.closeClient setup io client) := by
  unfold closeClient
  have hremoved : WaitKept server (server.removeClient setup client).2 := waitKept_removeClient
  generalize server.removeClient setup client = removed at hremoved ⊢
  obtain ⟨found, removed⟩ := removed
  have hold : WaitKept removed { removed with oldClients := client :: removed.oldClients } :=
    .of_waitState rfl
  exact (hremoved.trans hold).trans waitKept_forceLeaveClient

theorem waitKept_adoptClient : WaitKept server (server.adoptClient setup io client) := by
  unfold adoptClient
  split_ifs
  · exact waitKept_closeClient
  have hadded : WaitKept server (server.addClient setup io client).2 := by
    unfold addClient
    extract_lets name
    split_ifs <;> exact .of_waitState rfl
  generalize server.addClient setup io client = added at hadded ⊢
  obtain ⟨_ | _, added⟩ := added
  · exact hadded.trans waitKept_closeClient
  · exact hadded

theorem waitKept_handleClientDisconnected :
    WaitKept server (server.handleClientDisconnected setup io client) := by
  unfold handleClientDisconnected removeActiveClient
  have hremoved : WaitKept server (server.removeClient setup client).2 := waitKept_removeClient
  generalize server.removeClient setup client = removed at hremoved ⊢
  obtain ⟨_ | _, removed⟩ := removed
  · exact hremoved.trans (.of_waitState rfl)
  · exact (hremoved.trans waitKept_forceLeaveClient).trans (.of_waitState rfl)

theorem waitKept_step {call : ServerIo × ServerEvent} (htrace : server.switchTrace setup call = none)
    (h : (machine setup).step server call = some next) : WaitKept server next := by
  obtain ⟨io, event⟩ := call
  cases event with
  | adoptClient client =>
    dsimp only [machine] at h
    split_ifs at h
    obtain rfl := Option.some.inj h
    exact waitKept_adoptClient
  | clientDisconnected client =>
    dsimp only [machine] at h
    split_ifs at h
    obtain rfl := Option.some.inj h
    exact waitKept_handleClientDisconnected
  | clientCloseTimeout client =>
    dsimp only [machine] at h
    split_ifs at h
    obtain rfl := Option.some.inj h
    exact .of_waitState rfl
  | screensaver activated =>
    obtain rfl := Option.some.inj h
    exact waitKept_onScreensaver
  | switchToScreen screen =>
    obtain rfl := Option.some.inj h
    unfold handleSwitchToScreenEvent
    split
    · exact .refl server
    · exact waitKept_jumpToScreen
  | switchInDirection direction =>
    dsimp only [machine] at h
    unfold handleSwitchInDirectionEvent at h
    split at h
    · cases h
    · obtain rfl := Option.some.inj h
      exact .refl server
    · obtain rfl := Option.some.inj h
      exact waitKept_jumpToScreen
  | toggleScreen =>
    obtain rfl := Option.some.inj h
    unfold handleToggleScreenEvent
    extract_lets screens currentScreen nextScreen
    split_ifs
    · exact .refl server
    split
    · exact .refl server
    · exact waitKept_jumpToScreen
  | lockCursorToScreen state =>
    obtain rfl := Option.some.inj h
    unfold handleLockCursorToScreenEvent
    extract_lets newState locked
    have hlocked : WaitKept server locked := .of_waitState rfl
    split_ifs
    · exact .refl server
    · cases hstate : newState with
      | true => exact hlocked
      | false => exact hlocked.trans waitKept_stopRelativeMoves
  | motionOnPrimary x y =>
    have hnone : (machine setup).step server (io, .motionOnPrimary x y) = none :=
      onMouseMovePrimary_eq.trans (congrArg _ htrace)
    exact absurd (hnone.symm.trans h) nofun
  | motionOnSecondary dx dy =>
    have hnone : (machine setup).step server (io, .motionOnSecondary dx dy) = none :=
      onMouseMoveSecondary_eq.trans (congrArg _ htrace)
    exact absurd (hnone.symm.trans h) nofun
  | shapeChanged client =>
    have hnone : (machine setup).step server (io, .shapeChanged client) = none :=
      handleShapeChanged_eq.trans (congrArg _ htrace)
    exact absurd (hnone.symm.trans h) nofun
  | switchWaitTimeout =>
    dsimp only [machine, switchTrace] at h htrace
    split_ifs at h htrace
    have hnone : server.handleSwitchWaitTimeout setup io = none :=
      handleSwitchWaitTimeout_eq.trans (congrArg _ htrace)
    exact absurd (hnone.symm.trans h) nofun

def attempts (setup : ServerSetup Fraction) (server : Server) (call : ServerIo × ServerEvent) :
    List SwitchAttempt :=
  ((server.switchTrace setup call).map (·.attempts)).getD []

/-- The last attempt that called `startSwitchWait`. -/
def lastStarted (setup : ServerSetup Fraction) (io : ServerIo) (started : Option SwitchAttempt)
    (attempts : List SwitchAttempt) : Option SwitchAttempt :=
  attempts.foldl
    (fun started attempt => if attempt.startsWait setup io then some attempt else started) started

def waitMachine (setup : ServerSetup Fraction) :
    Machine (Server × Option SwitchAttempt) (ServerIo × ServerEvent) where
  start state := (machine setup).start state.1 ∧ state.2 = none
  step state call :=
    ((machine setup).step state.1 call).map fun next =>
      (next, lastStarted setup call.1 state.2 (state.1.attempts setup call))

def Directed (setup : ServerSetup Fraction) (state : Server × Option SwitchAttempt)
    (call : ServerIo × ServerEvent) : Prop :=
  ∀ attempt ∈ state.1.attempts setup call, attempt.startsWait setup call.1 →
    attempt.target = attempt.newScreen

structure Aimed (setup : ServerSetup Fraction) (server : Server) (attempt : SwitchAttempt) : Prop
    where
  target : server.waitingScreen = attempt.newScreen
  connected : attempt.newScreen.isSome
  x : server.switchWaitX = attempt.x
  y : server.switchWaitY = attempt.y
  found : ∃ io, attempt.Found setup io
  delayed : 0 < setup.switchWaitDelay

def WaitAimed (setup : ServerSetup Fraction) (state : Server × Option SwitchAttempt) : Prop :=
  state.1.switchWaitTimer → ∃ attempt, state.2 = some attempt ∧ Aimed setup state.1 attempt

variable {started : Option SwitchAttempt}

theorem WaitAimed.kept (h : WaitAimed setup (earlier, started)) (hkept : WaitKept earlier later) :
    WaitAimed setup (later, started) := by
  intro htimer
  obtain ⟨hearlier, hscreen, hx, hy⟩ := hkept htimer
  obtain ⟨attempt, hstarted, haimed⟩ := h hearlier
  exact ⟨attempt, hstarted, hscreen.trans haimed.target, haimed.connected, hx.trans haimed.x,
    hy.trans haimed.y, haimed.found, haimed.delayed⟩

theorem WaitAimed.decision {attempt : SwitchAttempt} {okay : Bool}
    (h : WaitAimed setup (attempt.server, started)) (hfound : attempt.Found setup io)
    (hdirected : attempt.startsWait setup io → attempt.target = attempt.newScreen)
    (hdecision : SwitchDecision setup io attempt okay later) :
    WaitAimed setup (later, lastStarted setup io started [attempt]) := by
  intro htimer
  rcases hnew : attempt.newScreen with _ | newScreen
  · -- no neighbour stops a wait
    have htimed : attempt.server.WaitTimed := by
      intro hrunning
      obtain ⟨kept, -, haimed⟩ := h hrunning
      rw [haimed.target]
      exact haimed.connected
    rw [(hdecision.lost hnew).2 htimed] at htimer
    cases htimer
  have hconnected : attempt.newScreen.isSome := Option.isSome_of_eq_some hnew
  obtain ⟨hscreen, htime⟩ := hdecision.wait htimer hconnected
  unfold lastStarted
  rw [List.foldl_cons, List.foldl_nil]
  by_cases hstart : attempt.startsWait setup io = true
  · rw [if_pos hstart] at htime ⊢
    exact ⟨attempt, rfl, hscreen.trans (hdirected hstart), hconnected, htime.1, htime.2,
      ⟨io, hfound⟩, (of_decide_eq_true hstart).2.2.1⟩
  · rw [if_neg hstart] at htime ⊢
    obtain ⟨hrunning, hx, hy⟩ := htime
    obtain ⟨kept, hstarted, haimed⟩ := h hrunning
    have hsame : ¬ attempt.isNewDirection = true := by
      intro hdirection
      refine hstart (decide_eq_true ⟨hconnected, fun htap => ?_, haimed.delayed, .inl hdirection⟩)
      exact (of_decide_eq_true htap).2 (.inl hdirection)
    have htarget : attempt.target = attempt.server.waitingScreen := by
      refine if_neg (not_or.mpr ⟨hsame, fun hlost => ?_⟩)
      have hconnected := haimed.connected
      rw [← haimed.target, Option.isNone_iff_eq_none.mp hlost] at hconnected
      cases hconnected
    exact ⟨kept, hstarted, (hscreen.trans htarget).trans haimed.target, haimed.connected,
      hx.trans haimed.x, hy.trans haimed.y, haimed.found, haimed.delayed⟩

variable {trace : SwitchTrace}

theorem WaitAimed.traced (h : WaitAimed setup (server, started))
    (htrace : Traced setup io server trace)
    (hdirected : ∀ attempt ∈ trace.attempts, attempt.startsWait setup io →
      attempt.target = attempt.newScreen) :
    WaitAimed setup (trace.server, lastStarted setup io started trace.attempts) := by
  induction htrace generalizing started with
  | stay hcalm => exact h.kept hcalm.wait
  | call hcalm hfound hdst hdecision =>
    exact (h.kept hcalm.wait).decision hfound (hdirected _ List.mem_cons_self) hdecision
  | tries hcalm hfound hdecision hrest ih =>
    exact ih ((h.kept hcalm.wait).decision hfound (hdirected _ List.mem_cons_self) hdecision)
      fun attempt hmem => hdirected attempt (List.mem_cons_of_mem _ hmem)

theorem waitKept_perform : WaitKept trace.server (trace.perform io) := by
  unfold SwitchTrace.perform
  split
  · exact .refl _
  · exact waitKept_switchScreen

theorem waitKept_handleSwitchWaitTimeoutTrace
    (h : server.handleSwitchWaitTimeoutTrace setup io = some trace) :
    trace.attempts = [] ∧ WaitKept server trace.server := by
  unfold handleSwitchWaitTimeoutTrace at h
  split at h
  · obtain rfl := Option.some.inj h
    exact ⟨rfl, stays_stopSwitch.wait⟩
  split at h
  · cases h
  · obtain rfl := Option.some.inj h
    exact ⟨rfl, .refl server⟩

theorem WaitAimed.step {call : ServerIo × ServerEvent} (h : WaitAimed setup (server, started))
    (hdirected : Directed setup (server, started) call)
    (hstep : (machine setup).step server call = some next) :
    WaitAimed setup (next, lastStarted setup call.1 started (server.attempts setup call)) := by
  unfold Directed attempts at *
  rcases htrace : server.switchTrace setup call with _ | trace
  · exact h.kept (waitKept_step htrace hstep)
  rw [htrace] at hdirected
  obtain rfl := Option.some.inj (hstep.symm.trans (step_of_switchTrace htrace))
  refine WaitAimed.kept ?_ waitKept_perform
  obtain ⟨io, event⟩ := call
  cases event with
  | motionOnPrimary x y => exact h.traced (traced_onMouseMovePrimaryTrace htrace) hdirected
  | motionOnSecondary dx dy => exact h.traced (traced_onMouseMoveSecondaryTrace htrace) hdirected
  | shapeChanged client => exact h.traced (traced_handleShapeChangedTrace htrace) hdirected
  | switchWaitTimeout =>
    dsimp only [switchTrace] at htrace
    split_ifs at htrace
    obtain ⟨hattempts, hkept⟩ := waitKept_handleSwitchWaitTimeoutTrace htrace
    show WaitAimed setup (trace.server, lastStarted setup io started trace.attempts)
    rw [hattempts]
    exact h.kept hkept
  | _ => cases htrace

/-- **Coordinates of a wait.** While every wait that starts is for the screen that is waited for, the
stored coordinates are those that were found for the target of the timeout. -/
theorem wait_aimed {state : Server × Option SwitchAttempt}
    (hstate : (waitMachine setup).Reachable (Directed setup) state)
    (htimer : state.1.switchWaitTimer) :
    ∃ attempt, state.2 = some attempt ∧ Aimed setup state.1 attempt := by
  have haimed : WaitAimed setup state := by
    refine hstate.invariant (fun first hfirst hrunning => ?_) ?_
    · obtain ⟨⟨x, y, lockedToScreen, jumpCursorPos, hserver⟩, -⟩ := hfirst
      rw [hserver] at hrunning
      cases hrunning
    · intro last call next hlast hdirected hstep
      obtain ⟨server, hserver, rfl⟩ := Option.map_eq_some_iff.mp hstep
      exact WaitAimed.step hlast hdirected hserver
  exact haimed htimer

def forkConfig : Config (Fin (2 ^ 20)) where
  map :=
    [("desk", { neighbors :=
      [({ side := .right, interval := (0, 512) },
          { name := "upper", side := .right, interval := (0, 1024) }),
        ({ side := .right, interval := (512, 1024) },
          { name := "lower", side := .right, interval := (0, 1024) })] }),
      ("lower", {}), ("upper", {})]
  nameToCanonicalName := [("desk", "desk"), ("lower", "lower"), ("upper", "upper")]

def forkSite : ServerSite (Fin (2 ^ 20)) where
  float := fixedPoint
  primaryClient := 0
  clientName client := if client = 0 then "desk" else if client = 1 then "upper" else "lower"

def forkSetup : ServerSetup (Fin (2 ^ 20)) := forkSite.setup forkConfig { switchWaitDelay := 250 }

def forkIo : ServerIo where
  shape _ := ⟨0, 0, 100, 100⟩
  searchSteps := 3

def forkStart : Server × Option SwitchAttempt :=
  ({ clientSet := [0], clients := [("desk", 0)], active := 0, x := 50, y := 50 }, none)

theorem forkStart_start : (waitMachine forkSetup).start forkStart :=
  ⟨⟨50, 50, false, fun _ => (0, 0), rfl⟩, rfl⟩

/-- Both screens connect. -/
def forkAdopt : List (ServerIo × ServerEvent) :=
  [(forkIo, .adoptClient 1), (forkIo, .adoptClient 2)]

/-- The mouse meets the edge to the upper neighbour. -/
def forkUpper : ServerIo × ServerEvent := (forkIo, .motionOnPrimary 99 20)

theorem wait_aimed_fork :
    ∃ state, (waitMachine forkSetup).exec forkStart (forkAdopt ++ [forkUpper]) = some state ∧
      state.1.switchWaitTimer = true ∧
        ∃ attempt, state.2 = some attempt ∧ Aimed forkSetup state.1 attempt := by
  obtain ⟨state, hstate⟩ : ∃ state, (waitMachine forkSetup).exec forkStart
      (forkAdopt ++ [forkUpper]) = some state := ⟨_, rfl⟩
  obtain ⟨adopted, hadopted, hmotion⟩ := Machine.exec_concat hstate
  have hrun : (waitMachine forkSetup).Run (Directed forkSetup) forkStart adopted := by
    refine Machine.run_of_exec_of_allowed (fun state call hcall attempt hattempt => ?_) hadopted
    rcases List.mem_cons.mp hcall with rfl | hcall
    · cases hattempt
    · obtain rfl := List.mem_singleton.mp hcall
      cases hattempt
  have hdirected : Directed forkSetup adopted forkUpper := by
    obtain rfl := Option.some.inj hadopted
    intro attempt hattempt _
    obtain rfl := List.mem_singleton.mp hattempt
    rfl
  have hrunning : state.1.switchWaitTimer = true := by
    obtain rfl := Option.some.inj hstate
    rfl
  exact ⟨state, hstate, hrunning,
    wait_aimed ⟨forkStart, forkStart_start, hrun.tail hdirected hmotion⟩ hrunning⟩

/-- The mouse comes back to the same edge at the lower neighbour. -/
theorem wait_for_other_neighbor :
    ¬ ∀ state, (waitMachine forkSetup).Reachable (fun _ _ => True) state →
      state.1.switchWaitTimer →
        ∃ attempt, state.2 = some attempt ∧ state.1.waitingScreen = attempt.newScreen := by
  intro haimed
  obtain ⟨state, hstate⟩ : ∃ state, (waitMachine forkSetup).exec forkStart (forkAdopt ++
      [forkUpper, (forkIo, .motionOnPrimary 50 50), (forkIo, .motionOnPrimary 99 80)]) = some state := ⟨_, rfl⟩
  have hreached := haimed state ⟨forkStart, forkStart_start, Machine.run_of_exec hstate⟩
  obtain rfl := Option.some.inj hstate
  obtain ⟨attempt, hstarted, htarget⟩ := hreached rfl
  obtain rfl := Option.some.inj hstarted
  exact absurd htarget (by decide)

end Server

end DeskflowPlus
