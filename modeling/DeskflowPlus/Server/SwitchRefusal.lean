import DeskflowPlus.Server.LiveClients

/-!
# Refused switches

The primary screen may refuse that the cursor leaves it. By then `switchScreen` has ended every wait
for a screen and recorded the position on the other screen as that of the cursor, and it takes neither
back. Only the sequence number of enter messages, which comes later, is safe.
-/

namespace DeskflowPlus

/-- The server with `m_seqNum`. -/
structure SequencedServer where
  server : Server
  seqNum : UInt32 := 0

namespace Server

/-- The state of a pending switch: `m_switchScreen` with its direction, the wait and the double tap. -/
structure SwitchState where
  waitingScreen : Option ClientProxy
  switchDir : Option Direction
  switchWaitTimer : Bool
  switchWaitX : Int
  switchWaitY : Int
  switchTwoTapEngaged : Bool
  switchTwoTapArmed : Bool

def switchState (server : Server) : SwitchState where
  waitingScreen := server.waitingScreen
  switchDir := server.switchDir
  switchWaitTimer := server.switchWaitTimer
  switchWaitX := server.switchWaitX
  switchWaitY := server.switchWaitY
  switchTwoTapEngaged := server.switchTwoTapEngaged
  switchTwoTapArmed := server.switchTwoTapArmed

theorem switchState_stopSwitch_iff {server : Server} :
    server.stopSwitch.switchState = server.switchState ↔ server.waitingScreen = none := by
  unfold stopSwitch
  split_ifs with hwaiting
  · constructor
    · intro hsame
      exact (congrArg SwitchState.waitingScreen hsame).symm
    · intro hnone
      rw [hnone] at hwaiting
      cases hwaiting
  · exact iff_of_true rfl (Option.not_isSome_iff_eq_none.mp hwaiting)

end Server

namespace SequencedServer

variable (io : ServerIo)

/-- The screen that is entered is told the next number. -/
def switchScreen (dst : ClientProxy) (x y : Int) (state : SequencedServer) : SequencedServer where
  server := state.server.switchScreen io dst x y
  seqNum := if state.server.active ≠ dst ∧ io.leaves then state.seqNum + 1 else state.seqNum

/-- The active screen is to be left, and its `leave` fails. -/
def Refused (dst : ClientProxy) (state : SequencedServer) : Prop :=
  state.server.active ≠ dst ∧ io.leaves = false

/-- What a switch that does not take place must leave alone. -/
structure Unswitched (earlier later : SequencedServer) : Prop where
  active : later.server.active = earlier.server.active
  x : later.server.x = earlier.server.x
  y : later.server.y = earlier.server.y
  seqNum : later.seqNum = earlier.seqNum
  pending : later.server.switchState = earlier.server.switchState

variable {io} {state : SequencedServer} {dst : ClientProxy} {x y : Int}

theorem switchScreen_of_refused (hrefused : Refused io dst state) :
    state.switchScreen io dst x y =
      { state with
        server := { state.server.stopSwitch with
          x, y, xDelta := 0, yDelta := 0, xDelta2 := 0, yDelta2 := 0 } } := by
  have hstays (screen : ClientProxy) : ¬ (screen ≠ dst ∧ io.leaves = true) := by
    rintro ⟨-, hleaves⟩
    rw [hrefused.2] at hleaves
    cases hleaves
  unfold switchScreen Server.switchScreen
  rw [if_neg (hstays _)]
  dsimp only
  rw [if_neg (hstays _)]

/-- **Refused switches.** A switch that the active screen refuses leaves the server as it was just
when no screen is waited for and the cursor is at the very position that it was sent to. -/
theorem unswitched_iff (state : SequencedServer) (io : ServerIo) (dst : ClientProxy) (x y : Int)
    (hrefused : Refused io dst state) :
    Unswitched state (state.switchScreen io dst x y) ↔
      state.server.x = x ∧ state.server.y = y ∧ state.server.waitingScreen = none := by
  have hactive : state.server.stopSwitch.active = state.server.active := by
    unfold Server.stopSwitch
    split_ifs <;> rfl
  rw [switchScreen_of_refused hrefused]
  constructor
  · intro hkept
    exact ⟨hkept.x.symm, hkept.y.symm, Server.switchState_stopSwitch_iff.mp hkept.pending⟩
  · rintro ⟨hx, hy, hnone⟩
    exact {
      active := hactive
      x := hx.symm
      y := hy.symm
      seqNum := rfl
      pending := Server.switchState_stopSwitch_iff.mpr hnone }

/-- The primary screen that keeps its cursor. -/
def besideRefusing : ServerIo := { Server.besideIo with leaves := false }

theorem unswitched_iff_beside :
    Unswitched { server := Server.besideStart }
        (({ server := Server.besideStart } : SequencedServer).switchScreen besideRefusing 1 50 50) ↔
      Server.besideStart.x = 50 ∧ Server.besideStart.y = 50 ∧
        Server.besideStart.waitingScreen = none :=
  unswitched_iff _ besideRefusing 1 50 50 ⟨by decide, rfl⟩

/-- With a screen connected beside it, the primary screen refuses a switch to that screen, and the
cursor is taken to be where it would have been there. -/
theorem refused_switch_moves_cursor :
    ∃ server, (Server.machine Server.besideSetup).exec Server.besideStart
        (Server.besideWait.take 1) = some server ∧
      Refused besideRefusing 1 { server } ∧
        ¬ Unswitched { server } (({ server } : SequencedServer).switchScreen besideRefusing 1 0 50) := by
  refine ⟨_, rfl, ⟨by decide, rfl⟩, fun hkept => ?_⟩
  exact absurd hkept.x (by decide)

end SequencedServer

end DeskflowPlus
