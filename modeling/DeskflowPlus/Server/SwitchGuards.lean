import DeskflowPlus.Server.SwitchDecision

/-!
# Guards of a switch

A motion switches only where the cursor is not locked to the screen and no needed modifier is missing.
The timeout behind a wait asks for the lock again, but not for the modifiers, nor has the motion that
started the wait.
-/

namespace DeskflowPlus

namespace Server

variable {Fraction : Type} {setup : ServerSetup Fraction} {io : ServerIo} {server : Server}
  {trace : SwitchTrace}

def SwitchesGuarded (setup : ServerSetup Fraction) (server : Server) (call : ServerIo × ServerEvent) :
    Prop :=
  ∀ trace switch, server.switchTrace setup call = some trace → trace.call = some switch →
    switch.dst ≠ trace.server.active →
      ¬ trace.server.isLockedToScreen setup call.1 ∧ ¬ lacksModifiers setup call.1

def ModifiersAtTimeout (setup : ServerSetup Fraction) (server : Server) :
    ServerIo × ServerEvent → Prop
  | (io, .switchWaitTimeout) =>
    server.switchWaitTimer → ¬ server.isLockedToScreen setup io →
      (∃ target, server.waitingScreen = some target ∧ target ≠ server.active) →
        ¬ lacksModifiers setup io
  | _ => True

theorem Traced.free (h : Traced setup io server trace) {switch : SwitchCall}
    (hcall : trace.call = some switch) :
    ¬ trace.server.isLockedToScreen setup io ∧ ¬ lacksModifiers setup io := by
  induction h with
  | stay hcalm => cases hcall
  | call hcalm hfound hdst hdecision =>
    rw [isLockedToScreen_congr hdecision.lockedToScreen]
    exact hdecision.free rfl
  | tries hcalm hfound hdecision hrest ih => exact ih hcall

theorem switchesGuarded_of_traced {call : ServerIo × ServerEvent}
    (h : ∀ trace, server.switchTrace setup call = some trace → Traced setup call.1 server trace) :
    SwitchesGuarded setup server call :=
  fun trace _ htrace hcall _ => (h trace htrace).free hcall

theorem switchesGuarded_iff {call : ServerIo × ServerEvent} :
    SwitchesGuarded setup server call ↔ ModifiersAtTimeout setup server call := by
  obtain ⟨io, event⟩ := call
  cases event with
  | motionOnPrimary x y =>
    exact iff_of_true (switchesGuarded_of_traced fun _ => traced_onMouseMovePrimaryTrace) trivial
  | motionOnSecondary dx dy =>
    exact iff_of_true (switchesGuarded_of_traced fun _ => traced_onMouseMoveSecondaryTrace) trivial
  | shapeChanged client =>
    exact iff_of_true (switchesGuarded_of_traced fun _ => traced_handleShapeChangedTrace) trivial
  | switchWaitTimeout =>
    constructor
    · rintro hguarded htimer hfree ⟨target, hwaiting, hother⟩
      have htrace : server.switchTrace setup (io, .switchWaitTimeout) = some
          { server, call := some ⟨target, server.switchWaitX, server.switchWaitY⟩ } := by
        dsimp only [switchTrace]
        unfold handleSwitchWaitTimeoutTrace
        rw [if_pos htimer, if_neg hfree, hwaiting]
      exact (hguarded _ _ htrace rfl hother).2
    · intro hheld trace switch htrace hcall hother
      dsimp only [switchTrace] at htrace
      unfold handleSwitchWaitTimeoutTrace at htrace
      split_ifs at htrace with htimer hlocked
      · obtain rfl := Option.some.inj htrace
        cases hcall
      · split at htrace
        · cases htrace
        rename_i target hwaiting
        obtain rfl := Option.some.inj htrace
        obtain rfl := Option.some.inj hcall
        exact ⟨hlocked, hheld htimer hlocked ⟨target, hwaiting, hother⟩⟩
  | _ =>
    refine iff_of_true (fun trace switch htrace => ?_) trivial
    cases htrace

/-- **Guards.** Along any run, every switch of a motion or a timeout is guarded exactly if the
modifiers are held at every timeout that switches. -/
theorem switches_guarded_iff {start : Server} {events : List (ServerIo × ServerEvent)} :
    (machine setup).Along (SwitchesGuarded setup) start events ↔
      (machine setup).Along (ModifiersAtTimeout setup) start events :=
  ⟨Machine.Along.mono fun _ _ => switchesGuarded_iff.mp,
    Machine.Along.mono fun _ _ => switchesGuarded_iff.mpr⟩

/-- Shift is needed but never held. -/
def shiftSetup : ServerSetup Unit := { besideSetup with switchNeedsShift := true }

theorem timeout_ignores_modifiers :
    ¬ ∀ start events, (machine shiftSetup).start start →
      (machine shiftSetup).Along (SwitchesGuarded shiftSetup) start events := by
  intro hguarded
  have halong := hguarded besideStart (besideWait ++ [(besideIo, .switchWaitTimeout)])
    ⟨50, 50, false, fun _ => (0, 0), rfl⟩
  obtain ⟨-, hadopted⟩ := halong
  obtain ⟨-, hmoved⟩ := hadopted _ rfl
  obtain ⟨htimeout, -⟩ := hmoved _ rfl
  exact (htimeout _ _ rfl rfl (by decide)).2 rfl

end Server

end DeskflowPlus
