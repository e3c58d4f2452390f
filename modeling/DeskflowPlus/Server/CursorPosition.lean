import DeskflowPlus.Server.NeighborPosition

/-!
# Where the cursor is

A motion either takes the cursor to another screen or leaves it on its own, clamped to that. Fractions are
exact here. The position on another screen lies on it unless the search ran out of neighbours, which
`mapToNeighbor` does not look at; a motion that is ignored leaves the position as it was.
-/

namespace DeskflowPlus

namespace Server

variable {Fraction : Type} {setup : ServerSetup Fraction} {io : ServerIo} {server : Server}
  {trace : SwitchTrace}

theorem Traced.active (h : Traced setup io server trace) : trace.server.active = server.active := by
  induction h with
  | stay hcalm => exact hcalm.active
  | call hcalm _ _ hdecision => exact hdecision.active.trans hcalm.active
  | tries hcalm _ hdecision _ ih => exact ih.trans (hdecision.active.trans hcalm.active)

theorem Traced.last (h : Traced setup io server trace) {switch : SwitchCall}
    (hcall : trace.call = some switch) :
    ∃ attempt, trace.attempts.getLast? = some attempt ∧ attempt.Found setup io ∧
      attempt.newScreen = some switch.dst ∧ attempt.x = switch.x ∧ attempt.y = switch.y ∧
        attempt.server.clients = server.clients := by
  induction h with
  | stay hcalm => cases hcall
  | @call _ _ attempt dst hcalm hfound hdst hdecision =>
    obtain rfl := Option.some.inj hcall
    exact ⟨attempt, rfl, hfound, hdst, rfl, rfl, hcalm.clients⟩
  | tries hcalm hfound hdecision hrest ih =>
    obtain ⟨attempt, hlast, hfound, hdst, hx, hy, hclients⟩ := ih hcall
    refine ⟨attempt, ?_, hfound, hdst, hx, hy,
      hclients.trans (hdecision.clients.trans hcalm.clients)⟩
    unfold SwitchTrace.cons
    rw [List.getLast?_cons, hlast]
    rfl

/-- What screens and platform guarantee: screens have a size, the jump zone leaves something of the
primary screen, and secondary screens can always be left. -/
structure Proper (setup : ServerSetup Fraction) (server : Server) (call : ServerIo × ServerEvent) :
    Prop where
  sized : call.1.Sized server.clients
  active : 0 < (call.1.shape server.active).width ∧ 0 < (call.1.shape server.active).height
  zone : ZoneFits setup call.1
  leaves : server.active ≠ setup.primaryClient → call.1.leaves = true

variable {call : ServerIo × ServerEvent}

end Server

end DeskflowPlus
