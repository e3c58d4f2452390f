import DeskflowPlus.Server.SwitchDecision
import DeskflowPlus.Server.SwitchRefusal

/-!
# Corners of the primary screen

In a corner a motion is tried in two directions, first horizontally. A direction that has no neighbour
ends whatever wait or double tap is pending, also one for the other direction, be it from before the
motion or begun by its first try.
-/

namespace DeskflowPlus

namespace SwitchTrace

def outcomes (trace : SwitchTrace) : List Server :=
  (trace.attempts.map (·.server)).tail ++ [trace.server]

end SwitchTrace

namespace Server

variable {Fraction : Type} (setup : ServerSetup Fraction) (io : ServerIo)

def PendingTowards (dir : Direction) (server : Server) : Prop :=
  server.waitingScreen.isSome ∧ server.switchDir = some dir ∧
    (server.switchWaitTimer ∨ server.switchTwoTapEngaged)

/-- Where the direction has no neighbour, its attempt leaves alone what is pending for a neighbour in
the other one. -/
def KeepsOther (dir : Direction) (trace : SwitchTrace) : Prop :=
  ∀ tried ∈ trace.attempts.zip trace.outcomes, tried.1.dir = dir → tried.1.newScreen = none →
    ∀ other ∈ trace.attempts, other.newScreen.isSome →
      PendingTowards other.dir tried.1.server → tried.2.switchState = tried.1.server.switchState

def isHeldBack (dir : Direction) (server : Server) : Bool :=
  (0 < setup.switchTwoTapDelay ∨ 0 < setup.switchWaitDelay) ∧
    ¬ (0 < setup.switchTwoTapDelay ∧ server.switchDir = some dir ∧ server.switchTwoTapEngaged ∧
      server.shouldSwitchTwoTap io)

def hasNeighbor (dir : Direction) (position : Int × Int) (server : Server) : Bool :=
  ((mapToNeighbor setup io server.clients server.active dir position).bind (·.1)).isSome

/-- The position clamped to the screen's edge where it is in the jump zone. -/
def clampToEdges (a : Shape) (zoneSize x y : Int) : Int × Int :=
  (if x < a.x + zoneSize then a.x
    else if a.x + a.width - zoneSize ≤ x then a.x + a.width - 1 else x,
    if y < a.y + zoneSize then a.y
    else if a.y + a.height - zoneSize ≤ y then a.y + a.height - 1 else y)

variable {setup io} {server later : Server} {trace : SwitchTrace}

variable {xActive yActive : Int}

theorem inLockedCorner_congr (h : later.active = server.active) :
    later.inLockedCorner setup io xActive yActive = server.inLockedCorner setup io xActive yActive := by
  unfold inLockedCorner
  rw [h]

variable {dir : Direction}

theorem not_pendingTowards_of_stopped (h : server.waitingScreen = none) :
    ¬ PendingTowards dir server := by
  rintro ⟨hwaiting, -⟩
  rw [h] at hwaiting
  cases hwaiting

theorem hasNeighbor_of_mapped {position position' : Int × Int} {newScreen : Option ClientProxy}
    (h : mapToNeighbor setup io server.clients server.active dir position =
      some (newScreen, position')) :
    server.hasNeighbor setup io dir position = newScreen.isSome := by
  unfold hasNeighbor
  rw [h, Option.bind_some]

theorem isSecondTap_iff : server.isSecondTap setup io dir = true ↔
    0 < setup.switchTwoTapDelay ∧ server.switchDir = some dir ∧ server.switchTwoTapEngaged = true ∧
      server.shouldSwitchTwoTap io = true := by
  unfold isSecondTap isNewDirection
  rw [decide_eq_true_iff, decide_eq_true_iff, not_or, not_or, not_not, not_not, not_not, eq_comm]

theorem awaitSwitch_isHeldBack {newScreen : ClientProxy} {dir : Direction} {x y : Int} :
    (server.awaitSwitch setup io newScreen dir x y).1 = server.isHeldBack setup io dir := by
  unfold isHeldBack
  rw [Bool.eq_iff_iff, awaitSwitch_prevents, isSecondTap_iff, decide_eq_true_iff]

theorem waitingScreen_isSome_awaitSwitch {newScreen : ClientProxy} {dir : Direction} {x y : Int} :
    (server.awaitSwitch setup io newScreen dir x y).2.waitingScreen.isSome := by
  rw [waitingScreen_awaitSwitch]
  split_ifs with hchosen
  · rfl
  · exact Option.isSome_iff_ne_none.mpr fun hnone => hchosen (.inr (hnone ▸ rfl))

/-- An attempt for a neighbour leaves something pending in its direction just when it is held back
outside the locked corners; else it lets the cursor go or stops the switch. -/
theorem pending_isSwitchOkay {newScreen : ClientProxy} {x y : Int} {okay : Bool}
    (h : server.isSwitchOkay setup io (some newScreen) dir x y xActive yActive = (okay, later)) :
    (PendingTowards dir later ∧ okay = false ↔
      server.isHeldBack setup io dir ∧ ¬ server.inLockedCorner setup io xActive yActive) ∧
    (okay = true → ¬ server.isHeldBack setup io dir) := by
  rw [isSwitchOkay_eq] at h
  obtain ⟨rfl, rfl⟩ := Prod.mk.inj h
  have hactive := congrArg (·.1) (@cursor_awaitSwitch _ setup io server newScreen dir x y)
  have hscreen := @waitingScreen_isSome_awaitSwitch _ setup io server newScreen dir x y
  have hdir := @switchDir_awaitSwitch _ setup io server newScreen dir x y
  have hpending := @awaitSwitch_pending _ setup io server newScreen dir x y
  rw [← @awaitSwitch_isHeldBack _ setup io server newScreen dir x y]
  generalize server.awaitSwitch setup io newScreen dir x y = waited at hactive hscreen hdir hpending
  rw [← inLockedCorner_congr hactive]
  rcases @passGuards_cases _ setup io xActive yActive waited with hstopped | ⟨hpassed, hcorner⟩
  · rw [hstopped]
    refine ⟨iff_of_false (fun hlater => ?_) ?_, nofun⟩
    · exact not_pendingTowards_of_stopped waitingScreen_stopSwitch hlater.1
    · rintro ⟨hprevented, hcorner⟩
      rw [passGuards_of_prevented hprevented hcorner] at hstopped
      rw [hstopped] at hscreen
      dsimp only at hscreen
      rw [waitingScreen_stopSwitch] at hscreen
      cases hscreen
  · rw [hpassed]
    rcases hprevented : waited.1 with _ | _
    · exact ⟨iff_of_false (fun hlater => Bool.noConfusion hlater.2) fun hheld =>
        Bool.noConfusion hheld.1, fun _ => nofun⟩
    · exact ⟨iff_of_true ⟨⟨hscreen, hdir, hpending hprevented⟩, rfl⟩ ⟨rfl, hcorner⟩, nofun⟩

theorem ne_of_edgesOnPrimary {a : Shape} {zoneSize x y xh yv : Int} {dirh dirv : Direction}
    (h : edgesOnPrimary a zoneSize x y = [(some dirh, xh, y), (some dirv, x, yv)]) :
    dirh ≠ dirv := by
  unfold edgesOnPrimary at h
  split_ifs at h <;> cases h <;> decide

/-- The motion before its tries. -/
def moved (x y : Int) (server : Server) : Server :=
  { server with
    xDelta2 := server.xDelta
    yDelta2 := server.yDelta
    xDelta := x - server.x
    yDelta := y - server.y
    x
    y }

theorem onMouseMovePrimaryTrace_of_corner {x y xh yv : Int} {dirh dirv : Direction}
    (hprimary : server.active = setup.primaryClient)
    (hcorner : edgesOnPrimary (io.shape server.active) (getJumpZoneSize setup io server.active) x y =
      [(some dirh, xh, y), (some dirv, x, yv)]) :
    server.onMouseMovePrimaryTrace setup io x y =
      (server.moved x y).trySwitchTrace setup io
        (clampToEdges (io.shape server.active) (getJumpZoneSize setup io server.active) x y).1
        (clampToEdges (io.shape server.active) (getJumpZoneSize setup io server.active) x y).2
        [(some dirh, xh, y), (some dirv, x, yv)] := by
  unfold onMouseMovePrimaryTrace
  rw [if_neg (not_not.mpr hprimary)]
  dsimp only
  rw [hcorner]
  rfl

theorem switchState_stopSwitch_of_lost {attempt : SwitchAttempt} {okay : Bool}
    (hlost : attempt.newScreen = none)
    (h : attempt.server.isSwitchOkay setup io attempt.newScreen attempt.dir attempt.x attempt.y xActive
      yActive = (okay, later)) :
    okay = false ∧ (later.switchState = attempt.server.switchState ↔
      attempt.server.waitingScreen = none) := by
  rw [hlost] at h
  obtain ⟨rfl, rfl⟩ := Prod.mk.inj h
  exact ⟨rfl, switchState_stopSwitch_iff⟩

theorem keepsPending_iff (dir : Direction) (found : Bool) {attempt : SwitchAttempt} {okay : Bool}
    (h : attempt.server.isSwitchOkay setup io attempt.newScreen attempt.dir attempt.x attempt.y xActive
      yActive = (okay, later)) :
    (attempt.newScreen = none → found → PendingTowards dir attempt.server →
        later.switchState = attempt.server.switchState) ↔
      attempt.newScreen.isSome ∨ ¬ found ∨ ¬ PendingTowards dir attempt.server := by
  rcases hnew : attempt.newScreen with _ | newScreen
  · rw [(switchState_stopSwitch_of_lost hnew h).2]
    constructor
    · intro hkept
      by_contra hpending
      obtain ⟨-, hfound, hpending⟩ : ¬ (none : Option ClientProxy).isSome = true ∧
          found = true ∧ PendingTowards dir attempt.server := by
        simpa only [not_or, not_not] using hpending
      exact not_pendingTowards_of_stopped (hkept rfl hfound hpending) hpending
    · rintro (hnone | hlost | hnothing) - hfound hpending
      · cases hnone
      · exact absurd hfound hlost
      · exact absurd hpending hnothing
  · exact iff_of_true (fun hlost => by cases hlost) (.inl rfl)

theorem keepsOther_of_found (h : ∀ attempt ∈ trace.attempts, attempt.newScreen.isSome) :
    KeepsOther dir trace := by
  intro tried hmem _ hlost
  have hfound := h tried.1 (List.of_mem_zip hmem).1
  rw [hlost] at hfound
  cases hfound

theorem keepsOther_pair {first second : SwitchAttempt} {last : Server}
    {call : Option SwitchCall} (hother : first.dir ≠ second.dir) :
    (KeepsOther first.dir { attempts := [first, second], server := last, call } ↔
      (first.newScreen = none → second.newScreen.isSome → PendingTowards second.dir first.server →
        second.server.switchState = first.server.switchState)) ∧
    (KeepsOther second.dir { attempts := [first, second], server := last, call } ↔
      (second.newScreen = none → first.newScreen.isSome → PendingTowards first.dir second.server →
        last.switchState = second.server.switchState)) := by
  have hself (attempt : SwitchAttempt) (hlost : attempt.newScreen = none) :
      ¬ attempt.newScreen.isSome := by
    rw [hlost]
    exact Bool.false_ne_true
  constructor
  · constructor
    · intro hkept hlost hfound
      exact hkept (first, second.server) List.mem_cons_self rfl hlost second (by simp) hfound
    · intro hkept tried hmem hdir hlost other hmem' hfound
      rcases List.mem_cons.mp hmem with rfl | hmem
      · rcases List.mem_cons.mp hmem' with rfl | hmem'
        · exact absurd hfound (hself _ hlost)
        · obtain rfl := List.mem_singleton.mp hmem'
          exact hkept hlost hfound
      · obtain rfl := List.mem_singleton.mp hmem
        exact absurd hdir.symm hother
  · constructor
    · intro hkept hlost hfound
      exact hkept (second, last) (List.mem_cons_of_mem _ List.mem_cons_self) rfl hlost first
        List.mem_cons_self hfound
    · intro hkept tried hmem hdir hlost other hmem' hfound
      rcases List.mem_cons.mp hmem with rfl | hmem
      · exact absurd hdir hother
      · obtain rfl := List.mem_singleton.mp hmem
        rcases List.mem_cons.mp hmem' with rfl | hmem'
        · exact hkept hlost hfound
        · obtain rfl := List.mem_singleton.mp hmem'
          exact absurd hfound (hself _ hlost)

/-- **Corner motions.** Of the two directions that are tried, one without a neighbour leaves alone what
is pending towards the neighbour in the other. The horizontal one does so just when nothing is pending
towards the vertical neighbour before the motion; the vertical one just when the first try is not held
back, or is stopped in a locked corner. -/
theorem keepsOther_iff {x y xh yv : Int} {dirh dirv : Direction}
    (hprimary : server.active = setup.primaryClient)
    (hcorner : edgesOnPrimary (io.shape server.active) (getJumpZoneSize setup io server.active) x y =
      [(some dirh, xh, y), (some dirv, x, yv)])
    (htrace : server.onMouseMovePrimaryTrace setup io x y = some trace) :
    (KeepsOther dirh trace ↔
      server.hasNeighbor setup io dirh (xh, y) ∨ ¬ server.hasNeighbor setup io dirv (x, yv) ∨
        ¬ PendingTowards dirv server) ∧
    (KeepsOther dirv trace ↔
      ¬ server.hasNeighbor setup io dirh (xh, y) ∨ server.hasNeighbor setup io dirv (x, yv) ∨
        ¬ server.isHeldBack setup io dirh ∨
          server.inLockedCorner setup io
            (clampToEdges (io.shape server.active)
              (getJumpZoneSize setup io server.active) x y).1
            (clampToEdges (io.shape server.active)
              (getJumpZoneSize setup io server.active) x y).2) := by
  rw [onMouseMovePrimaryTrace_of_corner hprimary hcorner] at htrace
  have hother : dirh ≠ dirv := ne_of_edgesOnPrimary hcorner
  generalize clampToEdges _ _ x y = corner at htrace ⊢
  obtain ⟨xc, yc⟩ := corner
  dsimp only at htrace ⊢
  have hmoved (dir : Direction) (position : Int × Int) :
      (server.moved x y).hasNeighbor setup io dir position =
        server.hasNeighbor setup io dir position := rfl
  obtain ⟨first, okay, tried, hserver, hdirh, -, hneighbor, hokay, hrest⟩ := trySwitchTrace_cons htrace
  have hfound := hasNeighbor_of_mapped hneighbor
  rw [hmoved] at hfound
  rw [hfound]
  have hpending : ∀ newScreen, first.newScreen = some newScreen →
      (PendingTowards dirh tried ∧ okay = false ↔
        server.isHeldBack setup io dirh ∧ ¬ server.inLockedCorner setup io xc yc) ∧
      (okay = true → ¬ server.isHeldBack setup io dirh) := by
    intro newScreen hnew
    rw [hserver, hdirh, hnew] at hokay
    have hdecided := pending_isSwitchOkay hokay
    have hheld : (server.moved x y).isHeldBack setup io dirh = server.isHeldBack setup io dirh := rfl
    have hactive : (server.moved x y).active = server.active := rfl
    rw [hheld, inLockedCorner_congr hactive] at hdecided
    exact hdecided
  rcases hrest with ⟨rfl, newScreen, hnew, rfl⟩ | ⟨rfl, later, hlater, rfl⟩
  · -- the first try lets the cursor go
    have hkept (dir : Direction) : KeepsOther dir
        { attempts := [first], server := tried, call := some ⟨newScreen, first.x, first.y⟩ } := by
      refine keepsOther_of_found fun attempt hmem => ?_
      rw [List.mem_singleton.mp hmem, hnew]
      rfl
    have hfree := (hpending newScreen hnew).2 rfl
    rw [hnew]
    exact ⟨iff_of_true (hkept dirh) (.inl rfl), iff_of_true (hkept dirv) (.inr (.inr (.inl hfree)))⟩
  obtain ⟨second, okay, last, hsecond, hdirv, -, hneighbor, hokay', hrest⟩ := trySwitchTrace_cons hlater
  have htried : SwitchDecision setup io first false tried := decision_isSwitchOkay first hokay
  rw [htried.active, htried.clients, hserver] at hneighbor
  have hfound' : server.hasNeighbor setup io dirv (x, yv) = second.newScreen.isSome :=
    hasNeighbor_of_mapped hneighbor
  rw [hfound']
  have hpair : later.cons first = { attempts := [first, second], server := last, call := later.call } := by
    rcases hrest with ⟨-, dst, -, rfl⟩ | ⟨-, later', hlater', rfl⟩
    · rfl
    · obtain rfl := Option.some.inj hlater'
      rfl
  have hkept := @keepsOther_pair first second last later.call (by rw [hdirh, hdirv]; exact hother)
  rw [hdirh, hdirv] at hkept
  rw [hpair, hkept.1, hkept.2, hsecond, hserver]
  constructor
  · -- what is pending was so before the motion
    have hfirst := keepsPending_iff dirv second.newScreen.isSome hokay
    rw [hserver] at hfirst
    exact hfirst
  · -- what is pending was begun by the first try
    have hlast := keepsPending_iff dirh first.newScreen.isSome hokay'
    rw [hsecond] at hlast
    rw [hlast]
    rcases hnew : first.newScreen with _ | newScreen
    · exact iff_of_true (.inr (.inl Bool.false_ne_true)) (.inl Bool.false_ne_true)
    have hheld := (hpending newScreen hnew).1
    have hnothing : ¬ PendingTowards dirh tried ↔
        ¬ server.isHeldBack setup io dirh = true ∨ server.inLockedCorner setup io xc yc = true := by
      constructor
      · intro hnone
        by_contra hboth
        rw [not_or, not_not] at hboth
        exact hnone (hheld.mpr hboth).1
      · rintro hfree hpend
        obtain ⟨hheldBack, hunlocked⟩ := hheld.mp ⟨hpend, rfl⟩
        exact hfree.elim (· hheldBack) hunlocked
    rw [hnothing]
    constructor
    · rintro (hfound | hlost | hfree)
      · exact .inr (.inl hfound)
      · exact absurd rfl hlost
      · exact .inr (.inr hfree)
    · rintro (hlost | hfound | hfree)
      · exact absurd rfl hlost
      · exact .inl hfound
      · exact .inr (.inr hfree)

/-- In a corner beside a screen, on the second try there is no neighbour. -/
theorem keepsOther_iff_beside :
    ∃ server trace, (machine besideSetup).exec besideStart (besideWait.take 1) = some server ∧
      server.onMouseMovePrimaryTrace besideSetup besideIo 99 0 = some trace ∧
        (KeepsOther .top trace ↔
          ¬ server.hasNeighbor besideSetup besideIo .right (100, 0) ∨
            server.hasNeighbor besideSetup besideIo .top (99, -1) ∨
              ¬ server.isHeldBack besideSetup besideIo .right ∨
                server.inLockedCorner besideSetup besideIo 99 0) :=
  ⟨_, _, rfl, rfl, (keepsOther_iff rfl rfl rfl).2⟩

/-- There the wait for that screen never begins. -/
theorem corner_stops_wait :
    ∃ server trace, (machine besideSetup).exec besideStart (besideWait.take 1) = some server ∧
      server.onMouseMovePrimaryTrace besideSetup besideIo 99 0 = some trace ∧
        ¬ KeepsOther .top trace := by
  refine ⟨_, _, rfl, rfl, fun hkept => ?_⟩
  have hsame := hkept _ (List.mem_cons_of_mem _ List.mem_cons_self) rfl rfl _ List.mem_cons_self rfl
    ⟨rfl, rfl, .inl rfl⟩
  exact absurd (congrArg SwitchState.switchWaitTimer hsame) (by decide)

end Server

end DeskflowPlus
