import DeskflowPlus.Server.Server
import Mathlib.Tactic.SplitIfs

/-!
# The stages of a switch

`isSwitchOkay` chooses the screen, then may prevent the switch for the second tap, for the delay and for
each of three guards. What each stage asks for and leaves alone is said once here.
-/

namespace DeskflowPlus

namespace Server

variable {Fraction : Type} (setup : ServerSetup Fraction) (io : ServerIo)

def isNewDirection (dir : Direction) (server : Server) : Bool := some dir ≠ server.switchDir

def isSecondTap (dir : Direction) (server : Server) : Bool :=
  0 < setup.switchTwoTapDelay ∧
    ¬ (server.isNewDirection dir ∨ ¬ server.switchTwoTapEngaged ∨ ¬ server.shouldSwitchTwoTap io)

def chooseScreen (newScreen : ClientProxy) (dir : Direction) (server : Server) : Server :=
  if server.isNewDirection dir ∨ server.waitingScreen.isNone then
    { server with switchDir := some dir, waitingScreen := some newScreen }
  else server

/-- `preventSwitch` and `allowSwitch` behind the double tap. -/
def awaitTap (isNewDirection : Bool) (server : Server) : Bool × Bool × Server :=
  if 0 < setup.switchTwoTapDelay then
    if isNewDirection ∨ ¬ server.switchTwoTapEngaged ∨ ¬ server.shouldSwitchTwoTap io then
      (true, false, server.startSwitchTwoTap)
    else (false, true, server)
  else (false, false, server)

/-- `preventSwitch` behind the delay. -/
def awaitDelay (isNewDirection : Bool) (x y : Int) (tapped : Bool × Bool × Server) : Bool × Server :=
  if ¬ tapped.2.1 ∧ 0 < setup.switchWaitDelay then
    (true,
      if isNewDirection ∨ ¬ tapped.2.2.switchWaitTimer then tapped.2.2.startSwitchWait x y
      else tapped.2.2)
  else (tapped.1, tapped.2.2)

def stopIf (condition : Prop) [Decidable condition] (waited : Bool × Server) : Bool × Server :=
  if condition then (true, waited.2.stopSwitch) else waited

def passGuards (xActive yActive : Int) (waited : Bool × Server) : Bool × Server :=
  let cornered := stopIf (waited.2.inLockedCorner setup io xActive yActive) waited
  let locked := stopIf (¬ cornered.1 ∧ cornered.2.isLockedToScreen setup io) cornered
  stopIf (¬ locked.1 ∧ lacksModifiers setup io) locked

/-- What the stages before the guards leave. -/
def awaitSwitch (newScreen : ClientProxy) (dir : Direction) (x y : Int) (server : Server) :
    Bool × Server :=
  let isNewDirection := server.isNewDirection dir
  awaitDelay setup isNewDirection x y
    ((server.chooseScreen newScreen dir).awaitTap setup io isNewDirection)

/-- What preparing a switch leaves alone. -/
def cursor (server : Server) : ClientProxy × List (String × ClientProxy) × Int × Int × Bool :=
  (server.active, server.clients, server.x, server.y, server.lockedToScreen)

def waitTime (server : Server) : Bool × Int × Int :=
  (server.switchWaitTimer, server.switchWaitX, server.switchWaitY)

variable {setup io} {server : Server} {newScreen : ClientProxy} {dir : Direction}
  {x y xActive yActive : Int} {isNew : Bool} {tapped : Bool × Bool × Server} {waited : Bool × Server}

theorem isSwitchOkay_eq :
    server.isSwitchOkay setup io (some newScreen) dir x y xActive yActive =
      let passed := passGuards setup io xActive yActive (server.awaitSwitch setup io newScreen dir x y)
      (!passed.1, passed.2) := rfl

theorem cursor_chooseScreen : (server.chooseScreen newScreen dir).cursor = server.cursor := by
  unfold chooseScreen
  split_ifs <;> rfl

theorem waitTime_chooseScreen : (server.chooseScreen newScreen dir).waitTime = server.waitTime := by
  unfold chooseScreen
  split_ifs <;> rfl

theorem switchTwoTapEngaged_chooseScreen :
    (server.chooseScreen newScreen dir).switchTwoTapEngaged = server.switchTwoTapEngaged := by
  unfold chooseScreen
  split_ifs <;> rfl

theorem shouldSwitchTwoTap_chooseScreen :
    (server.chooseScreen newScreen dir).shouldSwitchTwoTap io = server.shouldSwitchTwoTap io := by
  unfold chooseScreen
  split_ifs <;> rfl

theorem waitingScreen_chooseScreen : (server.chooseScreen newScreen dir).waitingScreen =
    if server.isNewDirection dir ∨ server.waitingScreen.isNone then some newScreen
    else server.waitingScreen := by
  unfold chooseScreen
  split_ifs <;> rfl

theorem switchDir_chooseScreen : (server.chooseScreen newScreen dir).switchDir = some dir := by
  unfold chooseScreen
  split_ifs with hchosen
  · rfl
  · have hsame : ¬ server.isNewDirection dir = true := fun hnew => hchosen (.inl hnew)
    unfold isNewDirection at hsame
    rw [decide_eq_true_iff, not_not] at hsame
    exact hsame.symm

theorem awaitTap_keeps : (server.awaitTap setup io isNew).2.2.cursor = server.cursor ∧
    (server.awaitTap setup io isNew).2.2.waitTime = server.waitTime ∧
      (server.awaitTap setup io isNew).2.2.waitingScreen = server.waitingScreen ∧
        (server.awaitTap setup io isNew).2.2.switchDir = server.switchDir := by
  unfold awaitTap
  split_ifs <;> exact ⟨rfl, rfl, rfl, rfl⟩

theorem awaitTap_prevents : (server.awaitTap setup io isNew).1 = true ↔
    0 < setup.switchTwoTapDelay ∧
      (isNew = true ∨ ¬ server.switchTwoTapEngaged = true ∨ ¬ server.shouldSwitchTwoTap io = true) := by
  unfold awaitTap
  split_ifs with hdelay hfirst
  · exact iff_of_true rfl ⟨hdelay, hfirst⟩
  · exact iff_of_false nofun fun h => hfirst h.2
  · exact iff_of_false nofun fun h => hdelay h.1

theorem awaitTap_allows : (server.awaitTap setup io isNew).2.1 = true ↔
    0 < setup.switchTwoTapDelay ∧
      ¬ (isNew = true ∨ ¬ server.switchTwoTapEngaged = true ∨
        ¬ server.shouldSwitchTwoTap io = true) := by
  unfold awaitTap
  split_ifs with hdelay hfirst
  · exact iff_of_false nofun fun h => h.2 hfirst
  · exact iff_of_true rfl ⟨hdelay, hfirst⟩
  · exact iff_of_false nofun fun h => hdelay h.1

theorem awaitTap_engaged (h : (server.awaitTap setup io isNew).1 = true) :
    (server.awaitTap setup io isNew).2.2.switchTwoTapEngaged = true := by
  unfold awaitTap at h ⊢
  split_ifs at h ⊢
  rfl

theorem awaitDelay_keeps : (awaitDelay setup isNew x y tapped).2.cursor = tapped.2.2.cursor ∧
    (awaitDelay setup isNew x y tapped).2.waitingScreen = tapped.2.2.waitingScreen ∧
      (awaitDelay setup isNew x y tapped).2.switchDir = tapped.2.2.switchDir ∧
        (awaitDelay setup isNew x y tapped).2.switchTwoTapEngaged =
          tapped.2.2.switchTwoTapEngaged := by
  unfold awaitDelay
  split_ifs <;> exact ⟨rfl, rfl, rfl, rfl⟩

theorem awaitDelay_prevents : (awaitDelay setup isNew x y tapped).1 = true ↔
    (¬ tapped.2.1 = true ∧ 0 < setup.switchWaitDelay) ∨ tapped.1 = true := by
  unfold awaitDelay
  by_cases hdelay : ¬ tapped.2.1 = true ∧ 0 < setup.switchWaitDelay
  · rw [if_pos hdelay]
    exact iff_of_true rfl (.inl hdelay)
  · rw [if_neg hdelay]
    exact (or_iff_right hdelay).symm

theorem waitTime_awaitDelay : (awaitDelay setup isNew x y tapped).2.waitTime =
    if ¬ tapped.2.1 = true ∧ 0 < setup.switchWaitDelay ∧
      (isNew = true ∨ ¬ tapped.2.2.switchWaitTimer = true) then (true, x, y)
    else tapped.2.2.waitTime := by
  unfold awaitDelay
  by_cases hdelay : ¬ tapped.2.1 = true ∧ 0 < setup.switchWaitDelay
  · rw [if_pos hdelay]
    by_cases hstart : isNew = true ∨ ¬ tapped.2.2.switchWaitTimer = true
    · rw [if_pos hstart, if_pos ⟨hdelay.1, hdelay.2, hstart⟩]
      rfl
    · rw [if_neg hstart, if_neg fun h => hstart h.2.2]
  · rw [if_neg hdelay, if_neg fun h => hdelay ⟨h.1, h.2.1⟩]

theorem awaitDelay_waits (h : ¬ tapped.2.1 = true ∧ 0 < setup.switchWaitDelay) :
    (awaitDelay setup isNew x y tapped).2.switchWaitTimer = true := by
  unfold awaitDelay
  rw [if_pos h]
  split_ifs with hstart
  · rfl
  · exact not_not.mp (not_or.mp hstart).2

theorem cursor_awaitSwitch :
    (server.awaitSwitch setup io newScreen dir x y).2.cursor = server.cursor :=
  (awaitDelay_keeps.1.trans awaitTap_keeps.1).trans cursor_chooseScreen

theorem waitingScreen_awaitSwitch : (server.awaitSwitch setup io newScreen dir x y).2.waitingScreen =
    if server.isNewDirection dir ∨ server.waitingScreen.isNone then some newScreen
    else server.waitingScreen :=
  (awaitDelay_keeps.2.1.trans awaitTap_keeps.2.2.1).trans waitingScreen_chooseScreen

theorem switchDir_awaitSwitch :
    (server.awaitSwitch setup io newScreen dir x y).2.switchDir = some dir :=
  (awaitDelay_keeps.2.2.1.trans awaitTap_keeps.2.2.2).trans switchDir_chooseScreen

theorem allows_chooseScreen :
    ((server.chooseScreen newScreen dir).awaitTap setup io (server.isNewDirection dir)).2.1 =
      server.isSecondTap setup io dir := by
  unfold isSecondTap
  rw [Bool.eq_iff_iff, awaitTap_allows, switchTwoTapEngaged_chooseScreen,
    shouldSwitchTwoTap_chooseScreen, decide_eq_true_iff]

theorem waitTime_awaitSwitch : (server.awaitSwitch setup io newScreen dir x y).2.waitTime =
    if ¬ server.isSecondTap setup io dir = true ∧ 0 < setup.switchWaitDelay ∧
      (server.isNewDirection dir = true ∨ ¬ server.switchWaitTimer = true) then (true, x, y)
    else server.waitTime := by
  have hkept := (@awaitTap_keeps _ setup io (server.chooseScreen newScreen dir)
    (server.isNewDirection dir)).2.1.trans waitTime_chooseScreen
  have htimer : ((server.chooseScreen newScreen dir).awaitTap setup io
      (server.isNewDirection dir)).2.2.switchWaitTimer = server.switchWaitTimer := congrArg (·.1) hkept
  unfold awaitSwitch
  dsimp only
  rw [waitTime_awaitDelay, hkept, htimer, allows_chooseScreen]

theorem awaitSwitch_prevents : (server.awaitSwitch setup io newScreen dir x y).1 = true ↔
    (0 < setup.switchTwoTapDelay ∨ 0 < setup.switchWaitDelay) ∧
      ¬ server.isSecondTap setup io dir = true := by
  unfold awaitSwitch
  dsimp only
  rw [awaitDelay_prevents, allows_chooseScreen, awaitTap_prevents, switchTwoTapEngaged_chooseScreen,
    shouldSwitchTwoTap_chooseScreen]
  unfold isSecondTap
  rw [decide_eq_true_iff]
  constructor
  · rintro (⟨hfirst, hdelay⟩ | ⟨hdelay, hfirst⟩)
    · exact ⟨.inr hdelay, hfirst⟩
    · exact ⟨.inl hdelay, fun hsecond => hsecond.2 hfirst⟩
  · rintro ⟨htaps | hdelay, hfirst⟩
    · exact .inr ⟨htaps, not_not.mp fun hsecond => hfirst ⟨htaps, hsecond⟩⟩
    · exact .inl ⟨hfirst, hdelay⟩

theorem awaitSwitch_pending (h : (server.awaitSwitch setup io newScreen dir x y).1 = true) :
    (server.awaitSwitch setup io newScreen dir x y).2.switchWaitTimer = true ∨
      (server.awaitSwitch setup io newScreen dir x y).2.switchTwoTapEngaged = true := by
  rcases awaitDelay_prevents.mp h with hdelay | htap
  · exact .inl (awaitDelay_waits hdelay)
  · exact .inr (awaitDelay_keeps.2.2.2.trans (awaitTap_engaged htap))

theorem passGuards_cases :
    passGuards setup io xActive yActive waited = (true, waited.2.stopSwitch) ∨
      passGuards setup io xActive yActive waited = waited ∧
        ¬ waited.2.inLockedCorner setup io xActive yActive := by
  unfold passGuards stopIf
  dsimp only
  by_cases hcorner : waited.2.inLockedCorner setup io xActive yActive = true
  · rw [if_pos hcorner, if_neg fun hlock => hlock.1 rfl, if_neg fun hlacks => hlacks.1 rfl]
    exact .inl rfl
  rw [if_neg hcorner]
  by_cases hlock : ¬ waited.1 = true ∧ waited.2.isLockedToScreen setup io = true
  · rw [if_pos hlock, if_neg fun hlacks => hlacks.1 rfl]
    exact .inl rfl
  rw [if_neg hlock]
  by_cases hlacks : ¬ waited.1 = true ∧ lacksModifiers setup io = true
  · rw [if_pos hlacks]
    exact .inl rfl
  · rw [if_neg hlacks]
    exact .inr ⟨rfl, hcorner⟩

theorem passGuards_of_prevented
    (hprevented : waited.1 = true) (hcorner : ¬ waited.2.inLockedCorner setup io xActive yActive) :
    passGuards setup io xActive yActive waited = waited := by
  have hlock : ¬ (¬ waited.1 = true ∧ waited.2.isLockedToScreen setup io = true) :=
    fun hlock => hlock.1 hprevented
  have hlacks : ¬ (¬ waited.1 = true ∧ lacksModifiers setup io = true) :=
    fun hlacks => hlacks.1 hprevented
  unfold passGuards stopIf
  dsimp only
  rw [if_neg hcorner, if_neg hlock, if_neg hlacks]

end Server

end DeskflowPlus
