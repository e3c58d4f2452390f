import DeskflowPlus.Client.KeyState
import DeskflowPlus.Lib.Run

/-!
# Buttons of the server

Each call of the client's key state for a button of the server looks at one entry of the table of server
keys. Releasing a button clears the entry at the unmasked number, which is another one or none
where the number is too large.
-/

namespace DeskflowPlus

open KeyState

inductive ServerKeyCall where
  | down (group : Int) (id : KeyID) (mask : KeyModifierMask) (serverID : KeyButton) (lang : String)
  | again (group : Int) (id : KeyID) (mask : KeyModifierMask) (count : Int32) (serverID : KeyButton)
    (lang : String)
  | up (serverID : KeyButton)

namespace ServerKeyCall

def serverID : ServerKeyCall → KeyButton
  | .down _ _ _ serverID _ => serverID
  | .again _ _ _ _ serverID _ => serverID
  | .up serverID => serverID

def run (platform : Platform) (state : KeyState) : ServerKeyCall → FakedKeys
  | .down group id mask serverID lang => state.fakeKeyDown platform group id mask serverID lang
  | .again group id mask count serverID lang =>
    state.fakeKeyRepeat platform group id mask count serverID lang
  | .up serverID => state.fakeKeyUp serverID

end ServerKeyCall

namespace KeyState

variable {platform : Platform} {group : Int} {state : KeyState} {id : KeyID} {mask : KeyModifierMask}
  {serverID : KeyButton} {lang : String}

def step (platform : Platform) (state : KeyState) (call : ServerKeyCall) : KeyState :=
  (call.run platform state).state

def IsServerKeyDown (state : KeyState) (serverID : KeyButton) : Prop :=
  state.serverKeys.read (maskButton serverID) ≠ 0

instance : Decidable (state.IsServerKeyDown serverID) := inferInstanceAs (Decidable (_ ≠ _))

theorem maskButton_maskButton : maskButton (maskButton serverID) = maskButton serverID :=
  maskButton_eq_iff.mpr maskButton_lt

variable {index : KeyButton}

theorem accesses_fakeKeyRepeat {count : Int32}
    (h : index ∈ (state.fakeKeyRepeat platform group id mask count serverID lang).accesses) :
    index = maskButton serverID := by
  unfold fakeKeyRepeat at h
  dsimp only at h
  split_ifs at h
  · exact List.mem_singleton.mp h
  split at h
  · exact List.mem_singleton.mp h
  split_ifs at h
  · exact List.mem_singleton.mp h
  · simpa using h
  · exact List.mem_singleton.mp h

theorem accesses_pressKey
    (h : index ∈ (state.pressKey platform group id mask serverID lang).accesses) :
    index = serverID := by
  unfold pressKey at h
  by_cases hignored : isIgnoredKey id = true
  · rw [if_pos hignored] at h
    cases h
  rw [if_neg hignored] at h
  split at h
  · cases h
  dsimp only at h
  split_ifs at h
  · exact List.mem_singleton.mp h
  · cases h

theorem accesses_fakeKeyDown
    (h : index ∈ (state.fakeKeyDown platform group id mask serverID lang).accesses) :
    index = maskButton serverID := by
  unfold fakeKeyDown at h
  dsimp only at h
  rcases List.mem_cons.mp h with hread | h
  · exact hread
  split_ifs at h
  · rw [accesses_fakeKeyRepeat h, maskButton_maskButton]
  · exact accesses_pressKey h

/-- A call uses the entry of its button, inside the table, and a release clears it: the next press of
the same entry is none of a button that is down. -/
structure EntryKept (platform : Platform) (call : ServerKeyCall) (state : KeyState) : Prop where
  inside : ∀ index ∈ (call.run platform state).accesses, index.toNat < s_numButtons
  entry : ∀ index ∈ (call.run platform state).accesses,
    index.toNat = call.serverID.toNat % s_numButtons
  cleared : ∀ serverID, call = .up serverID → state.IsServerKeyDown serverID →
    ∀ other, other.toNat % s_numButtons = serverID.toNat % s_numButtons →
      ¬ (step platform state call).IsServerKeyDown other

def ReleasedInside (call : ServerKeyCall) (state : KeyState) : Prop :=
  ∀ serverID, call = .up serverID → state.IsServerKeyDown serverID → serverID.toNat < s_numButtons

theorem entryKept_of_masked {call : ServerKeyCall}
    (haccesses : ∀ index ∈ (call.run platform state).accesses, index = maskButton call.serverID)
    (hcleared : ∀ serverID, call = .up serverID → state.IsServerKeyDown serverID →
      ∀ other, other.toNat % s_numButtons = serverID.toNat % s_numButtons →
        ¬ (step platform state call).IsServerKeyDown other) : EntryKept platform call state where
  inside index hindex := haccesses index hindex ▸ maskButton_lt
  entry index hindex := haccesses index hindex ▸ toNat_maskButton
  cleared := hcleared

theorem fakeKeyUp_of_down (hdown : state.IsServerKeyDown serverID) :
    (state.fakeKeyUp serverID).accesses = [maskButton serverID, serverID] ∧
      (state.fakeKeyUp serverID).state.serverKeys = state.serverKeys.write serverID 0 := by
  unfold fakeKeyUp
  dsimp only
  rw [if_neg hdown]
  exact ⟨rfl, rfl⟩

theorem entryKept_up (hdown : state.IsServerKeyDown serverID)
    (hinside : serverID.toNat < s_numButtons) : EntryKept platform (.up serverID) state := by
  obtain ⟨haccesses, hserverKeys⟩ := fakeKeyUp_of_down hdown
  have hmasked : maskButton serverID = serverID := maskButton_eq_iff.mpr hinside
  refine entryKept_of_masked (fun index hindex => ?_) ?_
  · have hindex : index ∈ (state.fakeKeyUp serverID).accesses := hindex
    rw [haccesses, hmasked] at hindex
    have hserver : index = serverID := by simpa using hindex
    exact hserver.trans hmasked.symm
  · rintro released ⟨rfl⟩ - other hother hstill
    refine hstill ?_
    have hsame : maskButton other = serverID := by
      rw [← hmasked, ← UInt16.toNat_inj, toNat_maskButton, toNat_maskButton, hother]
    have hread : (state.fakeKeyUp serverID).state.serverKeys.read (maskButton other) = 0 := by
      rw [hserverKeys, hsame, ButtonTable.read_write hinside]
    exact hread

theorem entryKept_up_of_released (hreleased : ¬ state.IsServerKeyDown serverID) :
    EntryKept platform (.up serverID) state := by
  refine entryKept_of_masked (fun index hindex => ?_) ?_
  · have hindex : index ∈ (state.fakeKeyUp serverID).accesses := hindex
    unfold fakeKeyUp at hindex
    dsimp only at hindex
    rw [if_pos (not_not.mp hreleased)] at hindex
    exact List.mem_singleton.mp hindex
  · rintro released ⟨rfl⟩ hstill
    exact absurd hstill hreleased

theorem entryKept_iff {call : ServerKeyCall} :
    EntryKept platform call state ↔ ReleasedInside call state := by
  rcases call with _ | _ | serverID
  · exact iff_of_true (entryKept_of_masked (fun _ => accesses_fakeKeyDown) nofun) nofun
  · exact iff_of_true (entryKept_of_masked (fun _ => accesses_fakeKeyRepeat) nofun) nofun
  by_cases hdown : state.IsServerKeyDown serverID
  · refine ⟨?_, fun h => entryKept_up hdown (h serverID rfl hdown)⟩
    rintro h other ⟨rfl⟩ -
    exact h.inside _ ((fakeKeyUp_of_down hdown).1 ▸ List.mem_cons_of_mem _ List.mem_cons_self)
  · refine iff_of_true (entryKept_up_of_released hdown) ?_
    rintro released ⟨rfl⟩ hstill
    exact absurd hstill hdown

/-- **The table of server keys** is used consistently in a run just where no button that is down is
released under a number beyond the table. -/
theorem throughout_entryKept_iff {calls : List ServerKeyCall} :
    Throughout (step platform) (EntryKept platform) calls state ↔
      Throughout (step platform) ReleasedInside calls state :=
  ⟨Throughout.mono fun _ _ => entryKept_iff.mp, Throughout.mono fun _ _ => entryKept_iff.mpr⟩

def letterKeyState : KeyState where
  keyMap := ((KeyMap.empty.addKeyEntry { id := 97, button := 38 }).finish)
  mask := 0
  activeModifiers := []
  keys := Vector.replicate s_numButtons 0
  syntheticKeys := Vector.replicate s_numButtons 0
  keyClientData := Vector.replicate s_numButtons 0
  serverKeys := Vector.replicate s_numButtons 0
  isLangSyncEnabled := true

/-- Pressing and releasing a button beyond the table writes beyond it. -/
theorem released_beyond_table :
    ¬ Throughout (step .other) (EntryKept .other) [.down 0 97 0 550 "en", .up 550] letterKeyState := by
  intro h
  have hdown : (step .other letterKeyState (.down 0 97 0 550 "en")).IsServerKeyDown 550 := by
    decide +kernel
  exact absurd (entryKept_iff.mp h.2.1 550 rfl hdown) (by decide)

end KeyState

end DeskflowPlus
