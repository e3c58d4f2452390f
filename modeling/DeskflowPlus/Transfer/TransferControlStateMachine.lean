import DeskflowPlus.Transfer.QtTypes
import Mathlib.Data.Rat.Defs

/-!
# The control state machine of one transfer

Both ends of a transfer publish the snapshot this machine keeps. Operations other than `fail` and
the two cancellation steps move along a fixed graph of states; a terminal state is left by none of
them. The clock's answer is an argument of the operations that may finish a transfer.
-/

namespace DeskflowPlus.Transfer

inductive TransferDirection where
  | sending
  | receiving
  deriving DecidableEq

inductive TransferState where
  | preparing
  | offered
  | waitingForAcceptance
  | queued
  | transferring
  | paused
  | interrupted
  | resuming
  | verifying
  | committing
  | completed
  | rejected
  | cancelling
  | cancelled
  | failed
  deriving DecidableEq

/-- What ended a transfer; the numbers are the durable values of the source. -/
inductive TransferErrorCode where
  | none
  | manifestBuildFailed
  | offerFailed
  | senderFailed
  | peerRejected
  | peerFileFailed
  | diskFull
  | unsafePath
  | sourceUnreadable
  | connectionLost
  | hashMismatch
  | internalError
  deriving DecidableEq

def TransferErrorCode.toNat : TransferErrorCode → Nat
  | .none => 0
  | .manifestBuildFailed => 1001
  | .offerFailed => 1002
  | .senderFailed => 1003
  | .peerRejected => 1004
  | .peerFileFailed => 1005
  | .diskFull => 1006
  | .unsafePath => 1007
  | .sourceUnreadable => 1008
  | .connectionLost => 1009
  | .hashMismatch => 1010
  | .internalError => 1011

def isKnownTransferErrorCode (code : TransferErrorCode) : Bool := code ≠ .none

/-- A rate as a double shows it: a number, or an infinity or NaN. -/
inductive TransferRate where
  | finite (bytesPerSecond : Rat)
  | notFinite
  deriving DecidableEq

/-- `isfinite` and not negative. -/
def TransferRate.valid : TransferRate → Bool
  | .finite bytesPerSecond => 0 ≤ bytesPerSecond
  | .notFinite => false

structure TransferProgress where
  completedBytes : Nat := 0
  totalBytes : Nat := 0
  completedFiles : Nat := 0
  totalFiles : Nat := 0
  bytesPerSecond : TransferRate := .finite 0
  estimatedRemaining : Option Int := none
  deriving DecidableEq

structure TransferSnapshot where
  id : TransferId
  peerId : DeviceId
  peerDisplayName : QString
  displayName : QString
  direction : TransferDirection := .sending
  state : TransferState := .preparing
  progress : TransferProgress := {}
  currentRelativeDisplayPath : QString := []
  errorCode : TransferErrorCode := .none
  canPause : Bool := false
  canResume : Bool := false
  canCancel : Bool := false
  canRetry : Bool := false
  createdUtc : QDateTime
  finishedUtc : QDateTime := {}
  deriving DecidableEq

inductive TransferControlError where
  | none
  | invalidInitialSnapshot
  | invalidTransition
  | terminalState
  | invalidProgress
  | progressRegression
  | completionIncomplete
  | invalidFailure
  deriving DecidableEq

structure TransferControlResult where
  error : TransferControlError := .none
  changed : Bool := false
  diagnostic : String := ""

def TransferControlResult.ok (result : TransferControlResult) : Bool := result.error = .none

structure TransferControlStateMachine where
  snapshot : TransferSnapshot
  initialized : Bool := false

def validProgress (progress : TransferProgress) : Bool :=
  progress.completedBytes ≤ progress.totalBytes && progress.completedFiles ≤ progress.totalFiles &&
    progress.bytesPerSecond.valid && progress.estimatedRemaining.all (0 ≤ ·)

namespace TransferControlStateMachine

def isTerminal (state : TransferState) : Bool :=
  state = .completed || state = .rejected || state = .cancelled || state = .failed

def canAdvance (state next : TransferState) : Bool :=
  match state with
  | .preparing => next = .offered
  | .offered => next = .waitingForAcceptance || next = .rejected
  | .waitingForAcceptance => next = .queued || next = .rejected
  | .queued => next = .transferring
  | .transferring => next = .paused || next = .interrupted || next = .verifying
  | .paused => next = .resuming || next = .interrupted
  | .interrupted => next = .resuming
  | .resuming => next = .transferring || next = .interrupted
  | .verifying => next = .committing
  | .committing => next = .completed
  | .completed | .rejected | .cancelling | .cancelled | .failed => false

def updateActions (snapshot : TransferSnapshot) : TransferSnapshot :=
  { snapshot with
    canPause := snapshot.state = .transferring
    canResume := snapshot.state = .paused || snapshot.state = .interrupted
    canCancel := !isTerminal snapshot.state && snapshot.state ≠ .cancelling
    canRetry := snapshot.state = .failed }

/-- The finishing time is not before the creation, whatever the clock says. -/
def markFinished (now : QDateTime) (snapshot : TransferSnapshot) : TransferSnapshot :=
  { snapshot with
    finishedUtc :=
      if now.isValid ∧ snapshot.createdUtc.toMSecsSinceEpoch ≤ now.toMSecsSinceEpoch then now
      else snapshot.createdUtc
    progress := { snapshot.progress with bytesPerSecond := .finite 0, estimatedRemaining := none } }

def failure (error : TransferControlError) (diagnostic : String) : TransferControlResult :=
  { error, diagnostic }

def notInitialized : TransferControlResult :=
  failure .invalidInitialSnapshot "transfer state is not initialized"

def initialSnapshotIsInvalid (snapshot : TransferSnapshot) : Bool :=
  snapshot.peerId.value = 0 || snapshot.displayName = [] || snapshot.state ≠ .preparing ||
    !validProgress snapshot.progress || !snapshot.createdUtc.isValid ||
    snapshot.createdUtc.toMSecsSinceEpoch ≤ 0 || snapshot.finishedUtc.isValid ||
    snapshot.errorCode ≠ .none

def initializeSnapshot (machine : TransferControlStateMachine) :
    TransferControlResult × TransferControlStateMachine :=
  if machine.initialized then ({}, machine)
  else if initialSnapshotIsInvalid machine.snapshot then
    (failure .invalidInitialSnapshot "initial transfer snapshot is invalid", machine)
  else ({ changed := true }, { snapshot := updateActions machine.snapshot, initialized := true })

variable (now : QDateTime)

def setState (machine : TransferControlStateMachine) (next : TransferState) :
    TransferControlResult × TransferControlStateMachine :=
  let snapshot := { machine.snapshot with state := next }
  let snapshot := if isTerminal next then markFinished now snapshot else snapshot
  ({ changed := true }, { machine with snapshot := updateActions snapshot })

def advance (machine : TransferControlStateMachine) (next : TransferState) :
    TransferControlResult × TransferControlStateMachine :=
  let progress := machine.snapshot.progress
  if ¬ machine.initialized then (notInitialized, machine)
  else if next = machine.snapshot.state then ({}, machine)
  else if isTerminal machine.snapshot.state then
    (failure .terminalState "terminal transfer state cannot transition", machine)
  else if next = .failed ∨ next = .cancelling ∨ next = .cancelled ∨
      ¬ canAdvance machine.snapshot.state next then
    (failure .invalidTransition "transfer state transition is invalid", machine)
  else if next = .completed ∧ (progress.completedBytes ≠ progress.totalBytes ∨
      progress.completedFiles ≠ progress.totalFiles) then
    (failure .completionIncomplete "incomplete progress cannot be marked completed", machine)
  else machine.setState now next

def pause (machine : TransferControlStateMachine) :
    TransferControlResult × TransferControlStateMachine :=
  if ¬ machine.initialized then (notInitialized, machine)
  else if machine.snapshot.state = .paused then ({}, machine)
  else if machine.snapshot.state ≠ .transferring then
    (failure .invalidTransition "only an active transfer can be paused", machine)
  else machine.setState now .paused

def resume (machine : TransferControlStateMachine) :
    TransferControlResult × TransferControlStateMachine :=
  if ¬ machine.initialized then (notInitialized, machine)
  else if machine.snapshot.state = .resuming then ({}, machine)
  else if machine.snapshot.state ≠ .paused ∧ machine.snapshot.state ≠ .interrupted then
    (failure .invalidTransition "only a paused or interrupted transfer can resume", machine)
  else machine.setState now .resuming

def interrupt (machine : TransferControlStateMachine) :
    TransferControlResult × TransferControlStateMachine :=
  if ¬ machine.initialized then (notInitialized, machine)
  else if machine.snapshot.state = .interrupted then ({}, machine)
  else if machine.snapshot.state ≠ .transferring ∧ machine.snapshot.state ≠ .paused ∧
      machine.snapshot.state ≠ .resuming then
    (failure .invalidTransition "current transfer state cannot be interrupted", machine)
  else machine.setState now .interrupted

def cancel (machine : TransferControlStateMachine) :
    TransferControlResult × TransferControlStateMachine :=
  if ¬ machine.initialized then (notInitialized, machine)
  else if machine.snapshot.state = .cancelling ∨ machine.snapshot.state = .cancelled then
    ({}, machine)
  else if isTerminal machine.snapshot.state then
    (failure .terminalState "terminal transfer cannot be cancelled", machine)
  else machine.setState now .cancelling

def confirmCancelled (machine : TransferControlStateMachine) :
    TransferControlResult × TransferControlStateMachine :=
  if ¬ machine.initialized then (notInitialized, machine)
  else if machine.snapshot.state = .cancelled then ({}, machine)
  else if machine.snapshot.state ≠ .cancelling then
    (failure .invalidTransition "cancellation has not been requested", machine)
  else machine.setState now .cancelled

def fail (machine : TransferControlStateMachine) (errorCode : TransferErrorCode) :
    TransferControlResult × TransferControlStateMachine :=
  if ¬ machine.initialized then (notInitialized, machine)
  else if ¬ isKnownTransferErrorCode errorCode then
    (failure .invalidFailure "failure requires an error code and key", machine)
  else if machine.snapshot.state = .failed then
    if machine.snapshot.errorCode = errorCode then ({}, machine)
    else (failure .terminalState "failed transfer cannot change its error", machine)
  else if isTerminal machine.snapshot.state then
    (failure .terminalState "terminal transfer cannot fail again", machine)
  else { machine with snapshot := { machine.snapshot with errorCode } }.setState now .failed

def updateProgress (machine : TransferControlStateMachine) (completedBytes completedFiles : Nat)
    (bytesPerSecond : TransferRate) (estimatedRemaining : Option Int)
    (currentRelativeDisplayPath : QString) :
    TransferControlResult × TransferControlStateMachine :=
  let progress := machine.snapshot.progress
  if ¬ machine.initialized then (notInitialized, machine)
  else if isTerminal machine.snapshot.state ∨ machine.snapshot.state = .cancelling then
    (failure .terminalState "transfer progress is no longer mutable", machine)
  else if completedBytes > progress.totalBytes ∨ completedFiles > progress.totalFiles ∨
      ¬ bytesPerSecond.valid ∨ ¬ estimatedRemaining.all (0 ≤ ·) then
    (failure .invalidProgress "transfer progress is invalid", machine)
  else if completedBytes < progress.completedBytes ∨ completedFiles < progress.completedFiles then
    (failure .progressRegression "transfer progress cannot move backward", machine)
  else
    let updated := { progress with
      completedBytes, completedFiles, bytesPerSecond, estimatedRemaining }
    if updated = progress ∧
        currentRelativeDisplayPath = machine.snapshot.currentRelativeDisplayPath then ({}, machine)
    else
      ({ changed := true }, { machine with
        snapshot := { machine.snapshot with progress := updated, currentRelativeDisplayPath } })

variable {now} {machine : TransferControlStateMachine} {next : TransferState}

@[simp]
theorem setState_ok : (machine.setState now next).1.ok = true := rfl

@[simp]
theorem setState_state : (machine.setState now next).2.snapshot.state = next := by
  unfold setState updateActions markFinished
  dsimp only
  split_ifs <;> rfl

@[simp]
theorem setState_initialized :
    (machine.setState now next).2.initialized = machine.initialized := rfl

theorem advance_cases (machine : TransferControlStateMachine) (now : QDateTime)
    (next : TransferState) :
    ((machine.advance now next).2 = machine ∧
        ((machine.advance now next).1.ok = true → next = machine.snapshot.state)) ∨
      (machine.initialized = true ∧ isTerminal machine.snapshot.state = false ∧
        canAdvance machine.snapshot.state next = true ∧
        machine.advance now next = machine.setState now next) := by
  unfold advance
  dsimp only
  split_ifs with hinit hsame hterminal hgraph hcomplete
  · exact .inl ⟨rfl, fun _ => hsame⟩
  · exact .inl ⟨rfl, fun h => nomatch h⟩
  · exact .inl ⟨rfl, fun h => nomatch h⟩
  · exact .inl ⟨rfl, fun h => nomatch h⟩
  · simp only [not_or, not_not] at hgraph
    exact .inr ⟨hinit, by simpa using hterminal, hgraph.2.2.2, rfl⟩
  · exact .inl ⟨rfl, fun h => nomatch h⟩

theorem advance_state_of_ok (h : (machine.advance now next).1.ok = true) :
    (machine.advance now next).2.snapshot.state = next := by
  rcases machine.advance_cases now next with ⟨hsame, hstate⟩ | ⟨-, -, -, hset⟩
  · rw [hsame, hstate h]
  · rw [hset, setState_state]

theorem initialized_of_advance_ok (h : (machine.advance now next).1.ok = true) :
    machine.initialized = true := by
  rcases hinit : machine.initialized
  · unfold advance at h
    dsimp only at h
    rw [if_pos (by simp [hinit])] at h
    exact nomatch h
  · rfl

theorem advance_initialized :
    (machine.advance now next).2.initialized = machine.initialized := by
  rcases machine.advance_cases now next with ⟨hsame, -⟩ | ⟨-, -, -, hset⟩
  · rw [hsame]
  · rw [hset, setState_initialized]

theorem initializeSnapshot_cases (snapshot : TransferSnapshot) :
    ((initializeSnapshot { snapshot }).1.ok = false ∧
        (initializeSnapshot { snapshot }).2 = { snapshot }) ∨
      ((initializeSnapshot { snapshot }).1.ok = true ∧
        initialSnapshotIsInvalid snapshot = false ∧
        (initializeSnapshot { snapshot }).2 =
          { snapshot := updateActions snapshot, initialized := true }) := by
  unfold initializeSnapshot
  rw [if_neg (fun h => nomatch h)]
  split
  · exact .inl ⟨rfl, rfl⟩
  · rename_i hvalid
    exact .inr ⟨rfl, Bool.not_eq_true _ ▸ hvalid, rfl⟩

theorem state_of_initialSnapshot {snapshot : TransferSnapshot}
    (h : initialSnapshotIsInvalid snapshot = false) : snapshot.state = .preparing := by
  unfold initialSnapshotIsInvalid at h
  simp only [Bool.or_eq_false_iff, decide_eq_false_iff_not, ne_eq, not_not] at h
  tauto

theorem advance_of_canAdvance (hinit : machine.initialized = true)
    (hgraph : canAdvance machine.snapshot.state next = true) (hnext : next ≠ .completed) :
    machine.advance now next = machine.setState now next := by
  have hedge : isTerminal machine.snapshot.state = false ∧ next ≠ machine.snapshot.state ∧
      next ≠ .failed ∧ next ≠ .cancelling ∧ next ≠ .cancelled := by
    revert hgraph
    generalize machine.snapshot.state = state
    cases state <;> cases next <;> simp [canAdvance, isTerminal]
  obtain ⟨hlive, hmoves, hfailed, hcancelling, hcancelled⟩ := hedge
  unfold advance
  dsimp only
  rw [if_neg (by simpa using hinit), if_neg hmoves, if_neg (by simpa using hlive),
    if_neg (by simp [hfailed, hcancelling, hcancelled, hgraph]), if_neg (by simp [hnext])]

theorem pause_cases (machine : TransferControlStateMachine) (now : QDateTime) :
    ((machine.pause now).2 = machine ∧
        ((machine.pause now).1.ok = true → machine.snapshot.state = .paused)) ∨
      (machine.initialized = true ∧ machine.snapshot.state = .transferring ∧
        machine.pause now = machine.setState now .paused) := by
  unfold pause
  split_ifs with hinit hpaused hactive
  · exact .inl ⟨rfl, fun _ => hpaused⟩
  · exact .inl ⟨rfl, fun h => nomatch h⟩
  · exact .inr ⟨hinit, not_not.mp hactive, rfl⟩
  · exact .inl ⟨rfl, fun h => nomatch h⟩

theorem initialized_of_pause_ok (h : (machine.pause now).1.ok = true) :
    machine.initialized = true := by
  rcases hinit : machine.initialized
  · unfold pause at h
    rw [if_pos (by simp [hinit])] at h
    exact nomatch h
  · rfl

theorem resume_cases (machine : TransferControlStateMachine) (now : QDateTime) :
    ((machine.resume now).2 = machine ∧
        ((machine.resume now).1.ok = true → machine.snapshot.state = .resuming)) ∨
      (machine.initialized = true ∧
        (machine.snapshot.state = .paused ∨ machine.snapshot.state = .interrupted) ∧
        machine.resume now = machine.setState now .resuming) := by
  unfold resume
  split_ifs with hinit hresuming hstopped
  · exact .inl ⟨rfl, fun _ => hresuming⟩
  · exact .inl ⟨rfl, fun h => nomatch h⟩
  · exact .inr ⟨hinit, by tauto, rfl⟩
  · exact .inl ⟨rfl, fun h => nomatch h⟩

theorem initialized_of_resume_ok (h : (machine.resume now).1.ok = true) :
    machine.initialized = true := by
  rcases hinit : machine.initialized
  · unfold resume at h
    rw [if_pos (by simp [hinit])] at h
    exact nomatch h
  · rfl

theorem interrupt_cases (machine : TransferControlStateMachine) (now : QDateTime) :
    ((machine.interrupt now).2 = machine ∧
        ((machine.interrupt now).1.ok = true → machine.snapshot.state = .interrupted)) ∨
      (machine.initialized = true ∧
        (machine.snapshot.state = .transferring ∨ machine.snapshot.state = .paused ∨
          machine.snapshot.state = .resuming) ∧
        machine.interrupt now = machine.setState now .interrupted) := by
  unfold interrupt
  split_ifs with hinit hinterrupted hactive
  · exact .inl ⟨rfl, fun _ => hinterrupted⟩
  · exact .inl ⟨rfl, fun h => nomatch h⟩
  · exact .inr ⟨hinit, by tauto, rfl⟩
  · exact .inl ⟨rfl, fun h => nomatch h⟩

theorem interrupt_initialized :
    (machine.interrupt now).2.initialized = machine.initialized := by
  rcases machine.interrupt_cases now with ⟨hsame, -⟩ | ⟨-, -, hset⟩
  · rw [hsame]
  · rw [hset, setState_initialized]

theorem interrupt_state_of_ok (h : (machine.interrupt now).1.ok = true) :
    (machine.interrupt now).2.snapshot.state = .interrupted := by
  rcases machine.interrupt_cases now with ⟨hsame, hstate⟩ | ⟨-, -, hset⟩
  · rw [hsame, hstate h]
  · rw [hset, setState_state]

theorem cancel_cases (machine : TransferControlStateMachine) (now : QDateTime) :
    ((machine.cancel now).2 = machine ∧
        ((machine.cancel now).1.ok = true →
          machine.snapshot.state = .cancelling ∨ machine.snapshot.state = .cancelled)) ∨
      (machine.initialized = true ∧ isTerminal machine.snapshot.state = false ∧
        machine.cancel now = machine.setState now .cancelling) := by
  unfold cancel
  split_ifs with hinit hcancelling hterminal
  · exact .inl ⟨rfl, fun _ => hcancelling⟩
  · exact .inl ⟨rfl, fun h => nomatch h⟩
  · exact .inr ⟨hinit, by simpa using hterminal, rfl⟩
  · exact .inl ⟨rfl, fun h => nomatch h⟩

theorem initialized_of_cancel_ok (h : (machine.cancel now).1.ok = true) :
    machine.initialized = true := by
  rcases hinit : machine.initialized
  · unfold cancel at h
    rw [if_pos (by simp [hinit])] at h
    exact nomatch h
  · rfl

theorem cancel_initialized : (machine.cancel now).2.initialized = machine.initialized := by
  rcases machine.cancel_cases now with ⟨hsame, -⟩ | ⟨-, -, hset⟩
  · rw [hsame]
  · rw [hset, setState_initialized]

theorem confirmCancelled_cases (machine : TransferControlStateMachine) (now : QDateTime) :
    ((machine.confirmCancelled now).2 = machine ∧
        ((machine.confirmCancelled now).1.ok = true → machine.snapshot.state = .cancelled)) ∨
      (machine.initialized = true ∧ machine.snapshot.state = .cancelling ∧
        machine.confirmCancelled now = machine.setState now .cancelled) := by
  unfold confirmCancelled
  split_ifs with hinit hcancelled hcancelling
  · exact .inl ⟨rfl, fun _ => hcancelled⟩
  · exact .inl ⟨rfl, fun h => nomatch h⟩
  · exact .inr ⟨hinit, not_not.mp hcancelling, rfl⟩
  · exact .inl ⟨rfl, fun h => nomatch h⟩

theorem confirmCancelled_state_of_ok (h : (machine.confirmCancelled now).1.ok = true) :
    (machine.confirmCancelled now).2.snapshot.state = .cancelled := by
  rcases machine.confirmCancelled_cases now with ⟨hsame, hstate⟩ | ⟨-, -, hset⟩
  · rw [hsame, hstate h]
  · rw [hset, setState_state]

theorem confirmCancelled_initialized :
    (machine.confirmCancelled now).2.initialized = machine.initialized := by
  rcases machine.confirmCancelled_cases now with ⟨hsame, -⟩ | ⟨-, -, hset⟩
  · rw [hsame]
  · rw [hset, setState_initialized]

theorem fail_of_live {errorCode : TransferErrorCode} (hinit : machine.initialized = true)
    (hlive : isTerminal machine.snapshot.state = false) (hcode : errorCode ≠ .none) :
    (machine.fail now errorCode).1.ok = true ∧
      (machine.fail now errorCode).2.initialized = true ∧
      (machine.fail now errorCode).2.snapshot.state = .failed := by
  have hknown : isKnownTransferErrorCode errorCode = true := by
    simpa [isKnownTransferErrorCode] using hcode
  have hfailed : machine.snapshot.state ≠ .failed := by
    intro hstate
    rw [hstate] at hlive
    exact nomatch hlive
  have hfail : machine.fail now errorCode =
      { machine with snapshot := { machine.snapshot with errorCode } }.setState now .failed := by
    unfold fail
    rw [if_neg (by simpa using hinit), if_neg (by simpa using hknown), if_neg hfailed,
      if_neg (by simpa using hlive)]
  rw [hfail]
  exact ⟨rfl, hinit, setState_state⟩

theorem fail_of_not_initialized {errorCode : TransferErrorCode}
    (hinit : machine.initialized = false) : (machine.fail now errorCode).1.ok = false := by
  unfold fail
  rw [if_pos (by simp [hinit])]
  rfl

section Progress

variable {completedBytes completedFiles : Nat} {bytesPerSecond : TransferRate}
  {estimatedRemaining : Option Int} {path : QString}

@[simp]
theorem updateProgress_state :
    (machine.updateProgress completedBytes completedFiles bytesPerSecond estimatedRemaining
      path).2.snapshot.state = machine.snapshot.state := by
  unfold updateProgress
  dsimp only
  split_ifs <;> rfl

@[simp]
theorem updateProgress_initialized :
    (machine.updateProgress completedBytes completedFiles bytesPerSecond estimatedRemaining
      path).2.initialized = machine.initialized := by
  unfold updateProgress
  dsimp only
  split_ifs <;> rfl

end Progress

end TransferControlStateMachine

end DeskflowPlus.Transfer
