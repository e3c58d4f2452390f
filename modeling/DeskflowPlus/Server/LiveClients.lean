import DeskflowPlus.Server.Server
import Mathlib.Tactic.SplitIfs

/-!
# Live screens

Moving the cursor only ever makes connected screens active or waited for. A disconnect is the one
event that can leave an address of a deleted proxy behind: it repairs the addresses of the screen
that was shown before the screen saver, or else of the active one, and of no other.
-/

namespace DeskflowPlus

namespace Server

variable {Fraction : Type} {setup : ServerSetup Fraction} {io : ServerIo}
  {server earlier middle later next : Server} {client : ClientProxy}

/-- What the results here speak of. -/
def screens (server : Server) : List ClientProxy × List (String × ClientProxy) × List ClientProxy ×
    Option ClientProxy × ClientProxy × Option ClientProxy × Bool :=
  (server.clientSet, server.clients, server.oldClients, server.activeSaver, server.active,
    server.waitingScreen, server.switchWaitTimer)

def WaitTimed (server : Server) : Prop :=
  server.switchWaitTimer → server.waitingScreen.isSome

/-- What moving the cursor can do to the screens. -/
structure Steers (earlier later : Server) : Prop where
  clientSet : later.clientSet = earlier.clientSet
  clients : later.clients = earlier.clients
  oldClients : later.oldClients = earlier.oldClients
  activeSaver : later.activeSaver = earlier.activeSaver
  active : later.active = earlier.active ∨ later.active ∈ earlier.clientSet
  waitingScreen : ∀ client, later.waitingScreen = some client →
    earlier.waitingScreen = some client ∨ client ∈ earlier.clientSet
  waitTimed : earlier.WaitTimed → later.WaitTimed

namespace Steers

theorem of_screens (h : later.screens = earlier.screens) : Steers earlier later := by
  simp only [screens, Prod.mk.injEq] at h
  obtain ⟨hset, hclients, hold, hsaver, hactive, hwaiting, htimer⟩ := h
  refine ⟨hset, hclients, hold, hsaver, .inl hactive, fun client h => .inl (hwaiting ▸ h), ?_⟩
  intro htimed
  rw [WaitTimed, htimer, hwaiting]
  exact htimed

theorem refl (server : Server) : Steers server server := of_screens rfl

theorem trans (hfirst : Steers earlier middle) (hsecond : Steers middle later) :
    Steers earlier later where
  clientSet := hsecond.clientSet.trans hfirst.clientSet
  clients := hsecond.clients.trans hfirst.clients
  oldClients := hsecond.oldClients.trans hfirst.oldClients
  activeSaver := hsecond.activeSaver.trans hfirst.activeSaver
  active := by
    rcases hsecond.active with hactive | hactive
    · rw [hactive]
      exact hfirst.active
    · exact .inr (hfirst.clientSet ▸ hactive)
  waitingScreen client h := by
    rcases hsecond.waitingScreen client h with hwaiting | hclient
    · exact hfirst.waitingScreen client hwaiting
    · exact .inr (hfirst.clientSet ▸ hclient)
  waitTimed htimed := hsecond.waitTimed (hfirst.waitTimed htimed)

end Steers

theorem steers_stopSwitchWait : Steers server server.stopSwitchWait where
  clientSet := rfl
  clients := rfl
  oldClients := rfl
  activeSaver := rfl
  active := .inl rfl
  waitingScreen _ h := .inl h
  waitTimed _ h := by cases h

variable {x y : Int}

theorem steers_armSwitchTwoTap : Steers server (server.armSwitchTwoTap io x y) := by
  refine Steers.of_screens ?_
  unfold armSwitchTwoTap
  extract_lets
  split_ifs <;> rfl

theorem steers_noSwitch : Steers server (server.noSwitch io x y) :=
  steers_armSwitchTwoTap.trans steers_stopSwitchWait

theorem steers_stopSwitch : Steers server server.stopSwitch := by
  unfold stopSwitch
  split_ifs
  · exact ⟨rfl, rfl, rfl, rfl, .inl rfl, fun _ h => (Option.some_ne_none _ h.symm).elim,
      fun _ h => (Bool.false_ne_true h).elim⟩
  · exact .refl server

theorem Steers.wait (h : Steers earlier server) {dir : Direction}
    (hclient : client ∈ earlier.clientSet) :
    Steers earlier { server with switchDir := some dir, waitingScreen := some client } where
  clientSet := h.clientSet
  clients := h.clients
  oldClients := h.oldClients
  activeSaver := h.activeSaver
  active := h.active
  waitingScreen other hother := by
    obtain rfl : client = other := Option.some.inj hother
    exact .inr hclient
  waitTimed _ _ := rfl

theorem Steers.startSwitchWait (h : Steers earlier server) (hwaiting : server.waitingScreen.isSome)
    : Steers earlier (server.startSwitchWait x y) where
  clientSet := h.clientSet
  clients := h.clients
  oldClients := h.oldClients
  activeSaver := h.activeSaver
  active := h.active
  waitingScreen := h.waitingScreen
  waitTimed _ _ := hwaiting

theorem Steers.guard (h : Steers earlier server) (prevent : Bool) (condition : Prop)
    [Decidable condition] :
    Steers earlier (if condition then (true, server.stopSwitch) else (prevent, server)).2 := by
  split_ifs
  · exact h.trans steers_stopSwitch
  · exact h

theorem steers_isSwitchOkay {newScreen : Option ClientProxy} {dir : Direction}
    {xActive yActive : Int} (hnew : ∀ client, newScreen = some client → client ∈ server.clientSet) :
    Steers server (server.isSwitchOkay setup io newScreen dir x y xActive yActive).2 := by
  cases newScreen with
  | none => exact steers_stopSwitch
  | some newScreen =>
    unfold isSwitchOkay
    dsimp -zeta only
    extract_lets isNewDirection chosen
    have hchosen : Steers server chosen ∧ chosen.waitingScreen.isSome := by
      unfold chosen
      split_ifs with hwait
      · exact ⟨(Steers.refl server).wait (hnew newScreen rfl), rfl⟩
      · exact ⟨.refl server, Option.isSome_iff_ne_none.mpr fun h =>
          hwait (.inr (Option.isNone_iff_eq_none.mpr h))⟩
    clear_value chosen
    generalize htapped : (if 0 < setup.switchTwoTapDelay then _ else _ :
      Bool × Bool × Server) = tapped
    have htap : Steers server tapped.2.2 ∧ tapped.2.2.waitingScreen.isSome := by
      rw [← htapped]
      split_ifs
      · exact ⟨hchosen.1.trans (.of_screens rfl), hchosen.2⟩
      · exact hchosen
      · exact hchosen
    clear htapped
    obtain ⟨prevented, allowSwitch, tapped⟩ := tapped
    dsimp -zeta only at htap ⊢
    generalize hwaited : (if ¬ allowSwitch = true ∧ 0 < setup.switchWaitDelay then _ else _ :
      Bool × Server) = waited
    have hwait : Steers server waited.2 := by
      rw [← hwaited]
      split_ifs
      · exact htap.1.startSwitchWait htap.2
      · exact htap.1
      · exact htap.1
    clear hwaited
    obtain ⟨prevented, waited⟩ := waited
    dsimp -zeta only at hwait ⊢
    have hcorner := hwait.guard prevented (waited.inLockedCorner setup io xActive yActive)
    generalize (if waited.inLockedCorner setup io xActive yActive = true then _ else _ :
      Bool × Server) = cornered at hcorner ⊢
    obtain ⟨prevented, cornered⟩ := cornered
    have hlock := hcorner.guard prevented (¬ prevented ∧ cornered.isLockedToScreen setup io)
    dsimp -zeta only at hlock ⊢
    generalize (if ¬ prevented = true ∧ cornered.isLockedToScreen setup io = true then _ else _ :
      Bool × Server) = locked at hlock ⊢
    obtain ⟨prevented, locked⟩ := locked
    exact hlock.guard prevented (¬ prevented ∧ lacksModifiers setup io)

theorem steers_switchScreen {dst : ClientProxy} {x y : Int} (hdst : dst ∈ server.clientSet) :
    Steers server (server.switchScreen io dst x y) := by
  unfold switchScreen
  extract_lets before stopped
  have hstopped : Steers server stopped := steers_stopSwitch.trans (.of_screens rfl)
  split_ifs
  · exact ⟨hstopped.clientSet, hstopped.clients, hstopped.oldClients, hstopped.activeSaver,
      .inr hdst, hstopped.waitingScreen, hstopped.waitTimed⟩
  · exact hstopped

theorem steers_jumpToScreen {newScreen : ClientProxy} (hnew : newScreen ∈ server.clientSet) :
    Steers server (server.jumpToScreen io newScreen) := by
  unfold jumpToScreen
  extract_lets recorded
  have hrecorded : Steers server recorded := .of_screens rfl
  have hnew : newScreen ∈ recorded.clientSet := hnew
  exact hrecorded.trans (steers_switchScreen hnew)

theorem steers_stopRelativeMoves : Steers server (server.stopRelativeMoves setup io) := by
  refine .of_screens ?_
  unfold stopRelativeMoves
  split_ifs <;> rfl

/-- The primary screen is connected, and the names are those of connected screens. -/
structure Roster (setup : ServerSetup Fraction) (server : Server) : Prop where
  primary : setup.primaryClient ∈ server.clientSet
  named : ∀ entry ∈ server.clients,
    entry.1 = setup.getName entry.2 ∧ entry.2 ∈ server.clientSet

namespace Roster

theorem steers (h : Roster setup earlier) (hsteers : Steers earlier later) :
    Roster setup later := by
  refine ⟨hsteers.clientSet ▸ h.primary, fun entry hentry => ?_⟩
  rw [hsteers.clients] at hentry
  rw [hsteers.clientSet]
  exact h.named entry hentry

theorem mem_of_connected (h : Roster setup server)
    (hclient : ∃ name, (name, client) ∈ server.clients) : client ∈ server.clientSet := by
  obtain ⟨name, hentry⟩ := hclient
  exact (h.named (name, client) hentry).2

end Roster

theorem steers_trySwitch {xc yc : Int} {dirs : List (Option Direction × Int × Int)}
    (hroster : Roster setup server)
    (h : server.trySwitch setup io xc yc dirs = some later) : Steers server later := by
  induction dirs generalizing server with
  | nil =>
    obtain rfl : server = later := Option.some.inj h
    exact .refl server
  | cons dir rest ih =>
    obtain ⟨_ | dir, x, y⟩ := dir
    · exact ih hroster h
    unfold trySwitch at h
    split at h
    · cases h
    rename_i newScreen xNew yNew hneighbor
    have hnew (client : ClientProxy) (hclient : newScreen = some client) :
        client ∈ server.clientSet := by
      subst hclient
      exact hroster.mem_of_connected (connected_of_mapToNeighbor hneighbor)
    have hokay : Steers server (server.isSwitchOkay setup io newScreen dir xNew yNew xc yc).2 :=
      steers_isSwitchOkay hnew
    split at h
    · rename_i switching dst hswitching
      rw [hswitching] at hokay
      obtain rfl := Option.some.inj h
      exact hokay.trans (steers_switchScreen (hokay.clientSet ▸ hnew dst rfl))
    · rename_i hwaiting
      rw [hwaiting] at hokay
      exact hokay.trans (ih (hroster.steers hokay) h)

theorem steers_onMouseMovePrimary (hroster : Roster setup server)
    (h : server.onMouseMovePrimary setup io x y = some later) : Steers server later := by
  unfold onMouseMovePrimary at h
  split at h
  · obtain rfl := Option.some.inj h
    exact .refl server
  extract_lets moved a zoneSize xc yc at h
  have hmoved : Steers server moved := .of_screens rfl
  clear_value moved a zoneSize xc yc
  generalize (if x < a.x + zoneSize then _ else _ : Option Direction × Int) = horizontal at h
  obtain ⟨dirh, xh⟩ := horizontal
  generalize (if y < a.y + zoneSize then _ else _ : Option Direction × Int) = vertical at h
  obtain ⟨dirv, yv⟩ := vertical
  dsimp only at h
  split at h
  · obtain rfl := Option.some.inj h
    exact hmoved.trans steers_noSwitch
  · exact hmoved.trans (steers_trySwitch (hroster.steers hmoved) h)

theorem steers_clampToScreen {a : Shape} :
    Steers server (server.clampToScreen a x y) := .of_screens rfl

theorem steers_onMouseMoveSecondary {dx dy : Int} (hroster : Roster setup server)
    (h : server.onMouseMoveSecondary setup io dx dy = some later) : Steers server later := by
  unfold onMouseMoveSecondary at h
  generalize io.adjustMotion (dx, dy) = motion at h
  obtain ⟨dx, dy⟩ := motion
  dsimp -zeta only at h
  split at h
  · obtain rfl := Option.some.inj h
    exact .refl server
  split at h
  · obtain rfl := Option.some.inj h
    exact .refl server
  extract_lets xOld yOld moved a xc yc dir at h
  have hmoved : Steers server moved := .of_screens rfl
  have hroster := hroster.steers hmoved
  clear_value moved a xc yc dir
  split at h
  · rename_i kept _
    have hkept : Steers moved kept := by
      unfold kept
      split_ifs
      · exact steers_noSwitch
      · exact .refl moved
    obtain rfl := Option.some.inj h
    exact (hmoved.trans hkept).trans steers_clampToScreen
  · rename_i dir
    split at h
    · cases h
    rename_i newScreen xNew yNew hneighbor
    extract_lets mapped at h
    have hmapped : Steers server mapped := hmoved.trans (.of_screens rfl)
    have hnew (client : ClientProxy) (hclient : newScreen = some client) :
        client ∈ mapped.clientSet := by
      subst hclient
      exact hroster.mem_of_connected (connected_of_mapToNeighbor hneighbor)
    have hokay : Steers mapped (mapped.isSwitchOkay setup io newScreen dir xNew yNew xc yc).2 :=
      steers_isSwitchOkay hnew
    split at h
    · rename_i switching dst hswitching
      rw [hswitching] at hokay
      obtain rfl := Option.some.inj h
      exact hmapped.trans (hokay.trans (steers_switchScreen (hokay.clientSet ▸ hnew dst rfl)))
    · rename_i hwaiting
      rw [hwaiting] at hokay
      obtain rfl := Option.some.inj h
      exact hmapped.trans (hokay.trans steers_clampToScreen)

structure LiveClients (server : Server) : Prop where
  active : server.active ∈ server.clientSet
  activeSaver : ∀ client, server.activeSaver = some client → client ∈ server.clientSet
  waitingScreen : ∀ client, server.waitingScreen = some client → client ∈ server.clientSet

def Safe (server : Server) : ServerIo × ServerEvent → Prop
  | (_, .clientDisconnected client) =>
    server.active = client ∨ server.waitingScreen = some client →
      server.activeSaver.getD server.active = client
  | _ => True

/-- What every allowed run keeps. -/
structure Tracked (setup : ServerSetup Fraction) (server : Server) : Prop where
  roster : Roster setup server
  live : LiveClients server
  waitTimed : server.WaitTimed

namespace Tracked

theorem steers (h : Tracked setup earlier) (hsteers : Steers earlier later) :
    Tracked setup later where
  roster := h.roster.steers hsteers
  waitTimed := hsteers.waitTimed h.waitTimed
  live := {
    active := by
      rw [hsteers.clientSet]
      rcases hsteers.active with hactive | hactive
      · rw [hactive]
        exact h.live.active
      · exact hactive
    activeSaver client hclient := by
      rw [hsteers.activeSaver] at hclient
      rw [hsteers.clientSet]
      exact h.live.activeSaver client hclient
    waitingScreen client hclient := by
      rw [hsteers.clientSet]
      rcases hsteers.waitingScreen client hclient with hwaiting | hclient
      · exact h.live.waitingScreen client hwaiting
      · exact hclient }

theorem waited (h : Tracked setup server) (htimer : server.switchWaitTimer) :
    ∃ target ∈ server.clientSet, server.waitingScreen = some target := by
  obtain ⟨target, htarget⟩ := Option.isSome_iff_exists.mp (h.waitTimed htimer)
  exact ⟨target, h.live.waitingScreen target htarget, htarget⟩

theorem handleSwitchWaitTimeout (h : Tracked setup server)
    (hnext : server.handleSwitchWaitTimeout setup io = some next) : Tracked setup next := by
  unfold Server.handleSwitchWaitTimeout at hnext
  split at hnext
  · obtain rfl := Option.some.inj hnext
    exact h.steers steers_stopSwitch
  split at hnext
  · cases hnext
  · rename_i target htarget
    obtain rfl := Option.some.inj hnext
    exact h.steers (steers_switchScreen (h.live.waitingScreen target htarget))

theorem forgetSaver (h : Tracked setup server) :
    Tracked setup { server with activeSaver := none } :=
  ⟨⟨h.roster.primary, h.roster.named⟩,
    ⟨h.live.active, fun _ hclient => (Option.some_ne_none _ hclient.symm).elim,
      h.live.waitingScreen⟩, h.waitTimed⟩

theorem onScreensaver (h : Tracked setup server) (activated : Bool) :
    Tracked setup (server.onScreensaver setup io activated) := by
  cases activated with
  | true =>
    let saved : Server :=
      { server with activeSaver := some server.active, xSaver := server.x, ySaver := server.y }
    have hsaved : Tracked setup saved := by
      refine ⟨⟨h.roster.primary, h.roster.named⟩,
        ⟨h.live.active, fun client hclient => ?_, h.live.waitingScreen⟩, h.waitTimed⟩
      obtain rfl : server.active = client := Option.some.inj hclient
      exact h.live.active
    show Tracked setup (if saved.active ≠ setup.primaryClient then
      saved.switchScreen io setup.primaryClient 0 0 else saved)
    split_ifs
    · exact hsaved.steers (steers_switchScreen hsaved.roster.primary)
    · exact hsaved
  | false =>
    unfold Server.onScreensaver
    rw [if_neg Bool.false_ne_true]
    apply forgetSaver
    split
    · exact h
    rename_i screen hscreen
    split
    · exact h
    extract_lets s zoneSize xSaver ySaver
    have hplaced : Tracked setup { server with xSaver, ySaver } := h.steers (.of_screens rfl)
    exact hplaced.steers (steers_switchScreen (h.live.activeSaver screen hscreen))

theorem jumpToScreen (h : Tracked setup server) {name : String}
    (hclient : findClient server.clients name = some client) :
    Tracked setup (server.jumpToScreen io client) :=
  h.steers (steers_jumpToScreen (h.roster.mem_of_connected ⟨name, mem_of_findClient hclient⟩))

theorem handleSwitchToScreenEvent (h : Tracked setup server) (screen : String) :
    Tracked setup (server.handleSwitchToScreenEvent io screen) := by
  unfold Server.handleSwitchToScreenEvent
  split
  · exact h
  · rename_i hclient
    exact h.jumpToScreen hclient

theorem handleSwitchInDirectionEvent (h : Tracked setup server) {direction : Direction}
    (hnext : server.handleSwitchInDirectionEvent setup io direction = some next) :
    Tracked setup next := by
  unfold Server.handleSwitchInDirectionEvent at hnext
  split at hnext
  · cases hnext
  · obtain rfl := Option.some.inj hnext
    exact h
  · rename_i newScreen found hneighbor
    obtain rfl := Option.some.inj hnext
    exact h.steers (steers_jumpToScreen
      (h.roster.mem_of_connected (connected_of_searchNeighbor hneighbor)))

theorem handleToggleScreenEvent (h : Tracked setup server) :
    Tracked setup (server.handleToggleScreenEvent setup io) := by
  unfold Server.handleToggleScreenEvent
  extract_lets screens currentScreen nextScreen
  split
  · exact h
  split
  · exact h
  · rename_i hclient
    obtain ⟨name, -, hclient⟩ := Option.bind_eq_some_iff.mp hclient
    exact h.jumpToScreen hclient

theorem handleLockCursorToScreenEvent (h : Tracked setup server) (state : LockState) :
    Tracked setup (server.handleLockCursorToScreenEvent setup io state) := by
  unfold Server.handleLockCursorToScreenEvent
  extract_lets newState locked
  have hlocked : Tracked setup locked := h.steers (.of_screens rfl)
  split_ifs
  · exact h
  · cases hstate : newState with
    | true => exact hlocked
    | false => exact hlocked.steers steers_stopRelativeMoves

theorem handleShapeChanged (h : Tracked setup server)
    (hnext : server.handleShapeChanged setup io client = some next) : Tracked setup next := by
  unfold Server.handleShapeChanged at hnext
  split at hnext
  · obtain rfl := Option.some.inj hnext
    exact h
  generalize io.cursorPos client = position at hnext
  obtain ⟨x, y⟩ := position
  dsimp -zeta only at hnext
  extract_lets reset moved at hnext
  have hmoved : Tracked setup moved := by
    refine h.steers (.of_screens ?_)
    unfold moved
    split_ifs <;> rfl
  split at hnext
  · obtain rfl := Option.some.inj hnext
    exact hmoved
  split at hnext
  · exact hmoved.steers (steers_onMouseMovePrimary hmoved.roster hnext)
  · exact hmoved.steers (steers_onMouseMoveSecondary hmoved.roster hnext)

end Tracked

/-- What forced leaving does to the addresses. -/
structure Leaves (setup : ServerSetup Fraction) (client : ClientProxy) (earlier later : Server) :
    Prop where
  clientSet : later.clientSet = earlier.clientSet
  clients : later.clients = earlier.clients
  activeSaver : later.activeSaver =
    if earlier.activeSaver = some client then none else earlier.activeSaver
  active : later.active =
    if earlier.activeSaver.getD earlier.active = client then setup.primaryClient else earlier.active
  waitingScreen : later.waitingScreen =
    if earlier.activeSaver.getD earlier.active = client ∧ earlier.waitingScreen = some client then none
    else earlier.waitingScreen
  waitTimed : earlier.WaitTimed → later.WaitTimed

theorem waitingScreen_stopSwitch : server.stopSwitch.waitingScreen = none := by
  unfold stopSwitch
  split_ifs with hwaiting
  · rfl
  · exact Option.not_isSome_iff_eq_none.mp hwaiting

theorem forgetSaver_eq :
    (if server.activeSaver = some client then { server with activeSaver := none } else server) =
      { server with
        activeSaver := if server.activeSaver = some client then none else server.activeSaver } := by
  split_ifs <;> rfl

theorem leaves_forceLeaveClient :
    Leaves setup client server (server.forceLeaveClient setup io client) := by
  unfold forceLeaveClient
  extract_lets shown centred stopped left
  rw [forgetSaver_eq]
  by_cases hshown : shown = client
  · have hleft : left = { stopped with active := setup.primaryClient } := if_pos hshown
    have hcentred : Steers server centred := .of_screens rfl
    have hstopped : Steers server stopped := by
      unfold stopped
      split_ifs
      · exact hcentred.trans steers_stopSwitch
      · exact hcentred
    rw [hleft]
    refine ⟨hstopped.clientSet, hstopped.clients, ?_, (if_pos hshown).symm, ?_, hstopped.waitTimed⟩
    · dsimp only
      rw [hstopped.activeSaver]
    · show stopped.waitingScreen = if shown = client ∧ server.waitingScreen = some client then none
        else server.waitingScreen
      unfold stopped
      rw [hshown]
      by_cases hwaiting : server.waitingScreen = some client
      · rw [if_pos hwaiting.symm, if_pos ⟨rfl, hwaiting⟩]
        exact waitingScreen_stopSwitch
      · rw [if_neg (Ne.symm hwaiting), if_neg fun h => hwaiting h.2]
  · have hleft : left = server := if_neg hshown
    rw [hleft]
    exact ⟨rfl, rfl, rfl, (if_neg hshown).symm, (if_neg fun h => hshown h.1).symm, id⟩

namespace Leaves

theorem roster (h : Leaves setup client earlier later) (hearlier : Roster setup earlier) :
    Roster setup later := by
  refine ⟨h.clientSet ▸ hearlier.primary, fun entry hentry => ?_⟩
  rw [h.clients] at hentry
  rw [h.clientSet]
  exact hearlier.named entry hentry

theorem live_iff (h : Leaves setup client earlier later)
    (hprimary : setup.primaryClient ∈ earlier.clientSet) (hgone : client ∉ earlier.clientSet)
    (hactive : earlier.active ≠ client → earlier.active ∈ earlier.clientSet)
    (hsaver : ∀ other, earlier.activeSaver = some other → other ≠ client →
      other ∈ earlier.clientSet)
    (hwaiting : ∀ other, earlier.waitingScreen = some other → other ≠ client →
      other ∈ earlier.clientSet) :
    LiveClients later ↔
      (earlier.active = client ∨ earlier.waitingScreen = some client →
        earlier.activeSaver.getD earlier.active = client) := by
  constructor
  · rintro hlive (hclient | hclient) <;> by_contra hshown
    · have hmem := hlive.active
      rw [h.active, if_neg hshown, h.clientSet, hclient] at hmem
      exact hgone hmem
    · have hmem := hlive.waitingScreen client (by
        rw [h.waitingScreen, if_neg fun h => hshown h.1]
        exact hclient)
      rw [h.clientSet] at hmem
      exact hgone hmem
  · intro hsafe
    refine ⟨?_, fun other hother => ?_, fun other hother => ?_⟩
    · rw [h.active, h.clientSet]
      split_ifs with hshown
      · exact hprimary
      · exact hactive fun hclient => hshown (hsafe (.inl hclient))
    · rw [h.activeSaver] at hother
      split_ifs at hother with hclient
      rw [h.clientSet]
      refine hsaver other hother ?_
      rintro rfl
      exact hclient hother
    · rw [h.waitingScreen] at hother
      split_ifs at hother with hclient
      rw [h.clientSet]
      refine hwaiting other hother ?_
      rintro rfl
      exact hclient ⟨hsafe (.inr hother), hother⟩

end Leaves

theorem mem_insertClient {name : String} {clients : List (String × ClientProxy)}
    {entry : String × ClientProxy} (h : entry ∈ insertClient name client clients) :
    entry = (name, client) ∨ entry ∈ clients := by
  induction clients with
  | nil => exact .inl (List.mem_singleton.mp h)
  | cons head rest ih =>
    unfold insertClient at h
    split at h
    · exact List.mem_cons.mp h
    · rcases List.mem_cons.mp h with rfl | hrest
      · exact .inr List.mem_cons_self
      · exact (ih hrest).imp_right (List.mem_cons_of_mem head)

namespace Tracked

theorem addClient (h : Tracked setup server) :
    Tracked setup (server.addClient setup io client).2 := by
  unfold Server.addClient
  extract_lets name
  split
  · exact h
  refine ⟨⟨List.mem_cons_of_mem client h.roster.primary, fun entry hentry => ?_⟩,
    ⟨List.mem_cons_of_mem client h.live.active,
      fun other hother => List.mem_cons_of_mem client (h.live.activeSaver other hother),
      fun other hother => List.mem_cons_of_mem client (h.live.waitingScreen other hother)⟩,
    h.waitTimed⟩
  rcases mem_insertClient hentry with rfl | hentry
  · exact ⟨rfl, List.mem_cons_self⟩
  · obtain ⟨hname, hmem⟩ := h.roster.named entry hentry
    exact ⟨hname, List.mem_cons_of_mem client hmem⟩

theorem closeClient (h : Tracked setup server) (hclient : client ∉ server.clientSet) :
    Tracked setup (server.closeClient setup io client) := by
  unfold Server.closeClient
  have hremove : server.removeClient setup client = (false, server) := if_pos hclient
  rw [hremove]
  dsimp -zeta only
  have hleaves : Leaves setup client { server with oldClients := client :: server.oldClients }
    (forceLeaveClient setup io client { server with oldClients := client :: server.oldClients }) :=
      leaves_forceLeaveClient
  have hlive := hleaves.live_iff h.roster.primary hclient (fun _ => h.live.active)
    (fun other hother _ => h.live.activeSaver other hother)
    (fun other hother _ => h.live.waitingScreen other hother)
  refine ⟨hleaves.roster ⟨h.roster.primary, h.roster.named⟩, hlive.mpr ?_,
    hleaves.waitTimed h.waitTimed⟩
  rintro (hactive | hwaiting)
  · have hactive : server.active = client := hactive
    exact absurd (hactive ▸ h.live.active) hclient
  · exact absurd (h.live.waitingScreen client hwaiting) hclient

theorem removeOldClient (h : Tracked setup server) (client : ClientProxy) :
    Tracked setup (server.removeOldClient client) :=
  ⟨⟨h.roster.primary, h.roster.named⟩,
    ⟨h.live.active, h.live.activeSaver, h.live.waitingScreen⟩, h.waitTimed⟩

theorem adoptClient (h : Tracked setup server) (hclient : client ∉ server.clientSet) :
    Tracked setup (server.adoptClient setup io client) := by
  unfold Server.adoptClient
  split
  · exact h.closeClient hclient
  split
  · rename_i later hadd
    have hlater : later = server := by
      unfold Server.addClient at hadd
      extract_lets name at hadd
      split at hadd
      · exact (Prod.mk.inj hadd).2.symm
      · exact absurd (Prod.mk.inj hadd).1 (Bool.noConfusion)
    rw [hlater]
    exact h.closeClient hclient
  · rename_i later hadd
    have hlater : Tracked setup (server.addClient setup io client).2 := h.addClient
    rw [hadd] at hlater
    exact hlater

end Tracked

theorem Tracked.handleClientDisconnected (h : Tracked setup server)
    (hclient : client ≠ setup.primaryClient) :
    Roster setup (server.handleClientDisconnected setup io client) ∧
      (server.handleClientDisconnected setup io client).WaitTimed ∧
      (LiveClients (server.handleClientDisconnected setup io client) ↔
        Safe server (io, .clientDisconnected client)) := by
  unfold Server.handleClientDisconnected removeActiveClient
  by_cases hmem : client ∈ server.clientSet
  · let removed : Server :=
      { server with
        clientSet := server.clientSet.filter (· ≠ client)
        clients := server.clients.filter (·.1 ≠ setup.getName client) }
    have hremove : server.removeClient setup client = (true, removed) :=
      if_neg (not_not_intro hmem)
    have hkeep (other : ClientProxy) (hother : other ∈ server.clientSet) (hne : other ≠ client) :
        other ∈ removed.clientSet := List.mem_filter.mpr ⟨hother, decide_eq_true hne⟩
    have hleaves : Leaves setup client removed (forceLeaveClient setup io client removed) :=
      leaves_forceLeaveClient
    have hgone : client ∉ removed.clientSet := fun hin =>
      of_decide_eq_true (List.mem_filter.mp hin).2 rfl
    have hprimary := hkeep setup.primaryClient h.roster.primary hclient.symm
    have hroster : Roster setup removed := by
      refine ⟨hprimary, fun entry hentry => ?_⟩
      obtain ⟨hentry, hname⟩ := List.mem_filter.mp hentry
      obtain ⟨hnamed, hset⟩ := h.roster.named entry hentry
      refine ⟨hnamed, hkeep entry.2 hset ?_⟩
      rintro rfl
      exact of_decide_eq_true hname hnamed
    rw [hremove]
    have hleft : Roster setup (forceLeaveClient setup io client removed) := hleaves.roster hroster
    refine ⟨⟨hleft.primary, hleft.named⟩, hleaves.waitTimed h.waitTimed, ?_⟩
    have hlive := hleaves.live_iff hprimary hgone (hkeep server.active h.live.active)
      (fun other hother => hkeep other (h.live.activeSaver other hother))
      (fun other hother => hkeep other (h.live.waitingScreen other hother))
    refine Iff.trans ⟨fun hnext => ?_, fun hnext => ?_⟩ hlive
    · exact ⟨hnext.active, hnext.activeSaver, hnext.waitingScreen⟩
    · exact ⟨hnext.active, hnext.activeSaver, hnext.waitingScreen⟩
  · have hremove : server.removeClient setup client = (false, server) := if_pos hmem
    rw [hremove]
    have hnext := h.removeOldClient client
    refine ⟨hnext.roster, hnext.waitTimed, fun _ => ?_, fun _ => hnext.live⟩
    rintro (hactive | hwaiting)
    · exact absurd (hactive ▸ h.live.active) hmem
    · exact absurd (h.live.waitingScreen client hwaiting) hmem

theorem tracked_start (hstart : (machine setup).start server) : Tracked setup server := by
  obtain ⟨x, y, lockedToScreen, jumpCursorPos, rfl⟩ := hstart
  have hprimary : setup.primaryClient ∈ [setup.primaryClient] := List.mem_singleton.mpr rfl
  refine ⟨⟨hprimary, fun entry hentry => ?_⟩,
    ⟨hprimary, fun _ h => (Option.some_ne_none _ h.symm).elim,
      fun _ h => (Option.some_ne_none _ h.symm).elim⟩,
    fun h => (Bool.false_ne_true h).elim⟩
  obtain rfl := List.mem_singleton.mp hentry
  exact ⟨rfl, hprimary⟩

theorem tracked_step {call : ServerIo × ServerEvent} (h : Tracked setup server)
    (hstep : (machine setup).step server call = some next) :
    Roster setup next ∧ next.WaitTimed ∧ (LiveClients next ↔ Safe server call) := by
  obtain ⟨io, event⟩ := call
  have of_tracked (hsafe : Safe server (io, event)) (hnext : Tracked setup next) :
      Roster setup next ∧ next.WaitTimed ∧ (LiveClients next ↔ Safe server (io, event)) :=
    ⟨hnext.roster, hnext.waitTimed, fun _ => hsafe, fun _ => hnext.live⟩
  cases event with
  | adoptClient client =>
    dsimp only [machine] at hstep
    split_ifs at hstep with hclient
    obtain rfl := Option.some.inj hstep
    exact of_tracked trivial (h.adoptClient fun hmem => hclient (.inl hmem))
  | clientDisconnected client =>
    dsimp only [machine] at hstep
    split_ifs at hstep with hclient
    obtain rfl := Option.some.inj hstep
    exact h.handleClientDisconnected hclient.1
  | clientCloseTimeout client =>
    dsimp only [machine] at hstep
    split_ifs at hstep
    obtain rfl := Option.some.inj hstep
    exact of_tracked trivial (h.removeOldClient client)
  | motionOnPrimary x y =>
    exact of_tracked trivial (h.steers (steers_onMouseMovePrimary h.roster hstep))
  | motionOnSecondary dx dy =>
    exact of_tracked trivial (h.steers (steers_onMouseMoveSecondary h.roster hstep))
  | switchWaitTimeout =>
    dsimp only [machine] at hstep
    split_ifs at hstep
    exact of_tracked trivial (h.handleSwitchWaitTimeout hstep)
  | screensaver activated =>
    obtain rfl := Option.some.inj hstep
    exact of_tracked trivial (h.onScreensaver activated)
  | switchToScreen screen =>
    obtain rfl := Option.some.inj hstep
    exact of_tracked trivial (h.handleSwitchToScreenEvent screen)
  | switchInDirection direction =>
    exact of_tracked trivial (h.handleSwitchInDirectionEvent hstep)
  | toggleScreen =>
    obtain rfl := Option.some.inj hstep
    exact of_tracked trivial h.handleToggleScreenEvent
  | lockCursorToScreen state =>
    obtain rfl := Option.some.inj hstep
    exact of_tracked trivial (h.handleLockCursorToScreenEvent state)
  | shapeChanged client =>
    exact of_tracked trivial (h.handleShapeChanged hstep)

theorem tracked_of_reachable (hserver : (machine setup).Reachable Safe server) :
    Tracked setup server := by
  refine hserver.invariant (fun first hfirst => tracked_start hfirst) ?_
  intro last call next hlast hsafe hstep
  obtain ⟨hroster, htimed, hlive⟩ := tracked_step hlast hstep
  exact ⟨hroster, hlive.mpr hsafe, htimed⟩

/-- **Live clients.** While only safe disconnects happen, the active screen is connected, and so are
the one remembered for the screen saver and the one waited for, if any; a wait that runs out switches
to a connected screen. The first other disconnect leaves a dead address behind. -/
theorem live_clients (hserver : (machine setup).Reachable Safe server) :
    LiveClients server ∧
      (∀ io, server.switchWaitTimer → ¬ server.isLockedToScreen setup io →
        ∃ target ∈ server.clientSet, server.waitingScreen = some target ∧
          server.handleSwitchWaitTimeout setup io =
            some (server.switchScreen io target server.switchWaitX server.switchWaitY)) ∧
      ∀ call next, (machine setup).step server call = some next →
        (LiveClients next ↔ Safe server call) := by
  have htracked := tracked_of_reachable hserver
  refine ⟨htracked.live, fun io htimer hlocked => ?_, fun call next hstep => ?_⟩
  · obtain ⟨target, hmem, htarget⟩ := htracked.waited htimer
    refine ⟨target, hmem, htarget, ?_⟩
    unfold handleSwitchWaitTimeout
    rw [if_neg hlocked, htarget]
  · exact (tracked_step htracked hstep).2.2

/-- Two screens side by side, and a wait before a switch. -/
def besideSetup : ServerSetup Unit where
  canonicalName := some
  neighbor srcName dir _ :=
    if srcName = "left" ∧ dir = .right then some ("right", ()) else none
  switchWaitDelay := 250
  toFraction _ _ := ()
  toPixel _ _ := 50
  primaryClient := 0
  clientName client := if client = 0 then "left" else "right"

def besideIo : ServerIo where
  shape _ := ⟨0, 0, 100, 100⟩
  searchSteps := 3

def besideStart : Server :=
  { clientSet := [0], clients := [("left", 0)], active := 0, x := 50, y := 50 }

theorem besideStart_start : (machine besideSetup).start besideStart :=
  ⟨50, 50, false, fun _ => (0, 0), rfl⟩

/-- The right screen connects, and the mouse meets the edge to it. -/
def besideWait : List (ServerIo × ServerEvent) :=
  [(besideIo, .adoptClient 1), (besideIo, .motionOnPrimary 99 50)]

theorem live_clients_beside :
    ∃ server, (machine besideSetup).exec besideStart besideWait = some server ∧
      server.waitingScreen = some 1 ∧ LiveClients server := by
  obtain ⟨server, hserver⟩ : ∃ server,
      (machine besideSetup).exec besideStart besideWait = some server := ⟨_, rfl⟩
  have hsafe (state : Server) (call : ServerIo × ServerEvent) (hcall : call ∈ besideWait) :
      Safe state call := by
    rcases List.mem_cons.mp hcall with rfl | hcall
    · exact trivial
    · obtain rfl := List.mem_singleton.mp hcall
      exact trivial
  have hlive := live_clients
    ⟨besideStart, besideStart_start, Machine.run_of_exec_of_allowed hsafe hserver⟩
  obtain rfl := Option.some.inj hserver
  exact ⟨_, rfl, rfl, hlive.1⟩

/-- The screen that is waited for disconnects while another one is active. -/
theorem wait_outlives_client :
    ¬ ∀ server, (machine besideSetup).Reachable (fun _ _ => True) server → LiveClients server := by
  intro hlive
  obtain ⟨server, hserver⟩ : ∃ server, (machine besideSetup).exec besideStart
      (besideWait ++ [(besideIo, .clientDisconnected 1)]) = some server := ⟨_, rfl⟩
  have hclient := hlive server ⟨besideStart, besideStart_start, Machine.run_of_exec hserver⟩
  obtain rfl := Option.some.inj hserver
  exact absurd (hclient.waitingScreen 1 rfl) (by decide)

end Server

end DeskflowPlus
