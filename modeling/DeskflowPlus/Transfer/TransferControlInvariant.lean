import DeskflowPlus.Transfer.TransferControlStateMachine

/-!
# What every run of the control state machine keeps

A machine is made from any snapshot, and any operations follow, each at its own time. Whatever they
are, an operation does one of four things: nothing, the initialisation, a transition out of a state
that is not terminal, or an advance of the progress. Each of these keeps the machine sound.
-/

namespace DeskflowPlus.Transfer

namespace TransferControlStateMachine

/-- One call of the machine, with its arguments and the clock's answer. -/
inductive Operation where
  | initializeSnapshot
  | advance (now : QDateTime) (next : TransferState)
  | pause (now : QDateTime)
  | resume (now : QDateTime)
  | interrupt (now : QDateTime)
  | cancel (now : QDateTime)
  | confirmCancelled (now : QDateTime)
  | fail (now : QDateTime) (errorCode : TransferErrorCode)
  | updateProgress (completedBytes completedFiles : Nat) (bytesPerSecond : TransferRate)
      (estimatedRemaining : Option Int) (currentRelativeDisplayPath : QString)

def apply (machine : TransferControlStateMachine) :
    Operation → TransferControlResult × TransferControlStateMachine
  | .initializeSnapshot => machine.initializeSnapshot
  | .advance now next => machine.advance now next
  | .pause now => machine.pause now
  | .resume now => machine.resume now
  | .interrupt now => machine.interrupt now
  | .cancel now => machine.cancel now
  | .confirmCancelled now => machine.confirmCancelled now
  | .fail now errorCode => machine.fail now errorCode
  | .updateProgress completedBytes completedFiles bytesPerSecond estimatedRemaining path =>
    machine.updateProgress completedBytes completedFiles bytesPerSecond estimatedRemaining path

def after (initial : TransferSnapshot) (operations : List Operation) :
    TransferControlStateMachine :=
  operations.foldl (fun machine operation => (machine.apply operation).2) { snapshot := initial }

/-- A command is taken up: it reports no error, and it is not one that was given already. -/
def Accepts (result : TransferControlResult) : Prop := result.ok = true ∧ result.changed = true

/-- The effects an operation can have. -/
inductive Effect (machine : TransferControlStateMachine) : TransferControlStateMachine → Prop
  | nothing : Effect machine machine
  | initialization (hinit : machine.initialized = false)
      (hvalid : initialSnapshotIsInvalid machine.snapshot = false) :
      Effect machine { snapshot := updateActions machine.snapshot, initialized := true }
  | transition (hinit : machine.initialized = true)
      (hlive : isTerminal machine.snapshot.state = false) (now : QDateTime) (next : TransferState)
      (errorCode : TransferErrorCode)
      (herror : (errorCode = machine.snapshot.errorCode ∧ next ≠ .failed) ∨
        (errorCode ≠ .none ∧ next = .failed))
      (hfull : next = .completed →
        machine.snapshot.progress.completedBytes = machine.snapshot.progress.totalBytes ∧
          machine.snapshot.progress.completedFiles = machine.snapshot.progress.totalFiles) :
      Effect machine
        ({ machine with snapshot := { machine.snapshot with errorCode } }.setState now next).2
  | progress (hinit : machine.initialized = true)
      (hlive : isTerminal machine.snapshot.state = false) (progress : TransferProgress)
      (path : QString) (hvalid : validProgress progress = true)
      (htotalBytes : progress.totalBytes = machine.snapshot.progress.totalBytes)
      (htotalFiles : progress.totalFiles = machine.snapshot.progress.totalFiles)
      (hbytes : machine.snapshot.progress.completedBytes ≤ progress.completedBytes)
      (hfiles : machine.snapshot.progress.completedFiles ≤ progress.completedFiles) :
      Effect machine { machine with
        snapshot := { machine.snapshot with progress, currentRelativeDisplayPath := path } }

variable {machine : TransferControlStateMachine} {now : QDateTime}

theorem Effect.of_setState {next : TransferState} (hinit : machine.initialized = true)
    (hlive : isTerminal machine.snapshot.state = false) (hfailed : next ≠ .failed)
    (hcompleted : next ≠ .completed) : Effect machine (machine.setState now next).2 := by
  have heffect := Effect.transition hinit hlive now next machine.snapshot.errorCode
    (.inl ⟨rfl, hfailed⟩) fun h => absurd h hcompleted
  exact heffect

theorem effect_advance {next : TransferState} : Effect machine (machine.advance now next).2 := by
  unfold advance
  dsimp only
  split_ifs with hinit hsame hterminal hgraph hcomplete
  · exact .nothing
  · exact .nothing
  · exact .nothing
  · exact .nothing
  · rw [not_or] at hgraph
    have heffect := Effect.transition hinit (by simpa using hterminal) now next
      machine.snapshot.errorCode (.inl ⟨rfl, hgraph.1⟩) fun hcompleted => ?_
    · exact heffect
    · by_contra hpart
      apply hcomplete
      refine ⟨hcompleted, ?_⟩
      tauto
  · exact .nothing

theorem effect_pause : Effect machine (machine.pause now).2 := by
  rcases machine.pause_cases now with ⟨hsame, -⟩ | ⟨hinit, hstate, hset⟩
  · rw [hsame]
    exact .nothing
  · rw [hset]
    apply Effect.of_setState hinit
    · rw [hstate]
      rfl
    · exact nofun
    · exact nofun

theorem effect_resume : Effect machine (machine.resume now).2 := by
  rcases machine.resume_cases now with ⟨hsame, -⟩ | ⟨hinit, hstate, hset⟩
  · rw [hsame]
    exact .nothing
  · rw [hset]
    apply Effect.of_setState hinit
    · rcases hstate with hstate | hstate <;> rw [hstate] <;> rfl
    · exact nofun
    · exact nofun

theorem effect_interrupt : Effect machine (machine.interrupt now).2 := by
  rcases machine.interrupt_cases now with ⟨hsame, -⟩ | ⟨hinit, hstate, hset⟩
  · rw [hsame]
    exact .nothing
  · rw [hset]
    apply Effect.of_setState hinit
    · rcases hstate with hstate | hstate | hstate <;> rw [hstate] <;> rfl
    · exact nofun
    · exact nofun

theorem effect_cancel : Effect machine (machine.cancel now).2 := by
  rcases machine.cancel_cases now with ⟨hsame, -⟩ | ⟨hinit, hlive, hset⟩
  · rw [hsame]
    exact .nothing
  · rw [hset]
    exact .of_setState hinit hlive nofun nofun

theorem effect_confirmCancelled : Effect machine (machine.confirmCancelled now).2 := by
  rcases machine.confirmCancelled_cases now with ⟨hsame, -⟩ | ⟨hinit, hstate, hset⟩
  · rw [hsame]
    exact .nothing
  · rw [hset]
    apply Effect.of_setState hinit
    · rw [hstate]
      rfl
    · exact nofun
    · exact nofun

theorem effect_fail {errorCode : TransferErrorCode} :
    Effect machine (machine.fail now errorCode).2 := by
  unfold fail
  split_ifs with hinit hknown hfailed hcode hterminal
  · exact .nothing
  · exact .nothing
  · exact .nothing
  · have hlive : isTerminal machine.snapshot.state = false := by simpa using hterminal
    have hnamed : errorCode ≠ .none := by simpa [isKnownTransferErrorCode] using hknown
    exact .transition hinit hlive now .failed errorCode (.inr ⟨hnamed, rfl⟩) (by rintro ⟨⟩)
  · exact .nothing
  · exact .nothing

theorem effect_updateProgress {completedBytes completedFiles : Nat} {bytesPerSecond : TransferRate}
    {estimatedRemaining : Option Int} {path : QString} :
    Effect machine (machine.updateProgress completedBytes completedFiles bytesPerSecond
      estimatedRemaining path).2 := by
  unfold updateProgress
  dsimp only
  split_ifs with hinit hended hinvalid hbackward hsame
  · exact .nothing
  · exact .nothing
  · exact .nothing
  · exact .nothing
  · simp only [not_or, not_lt, not_not] at hinvalid hbackward
    obtain ⟨hbytes, hfiles, hrate, hremaining⟩ := hinvalid
    refine .progress hinit (by simpa using (not_or.mp hended).1) _ path ?_ rfl rfl
      hbackward.1 hbackward.2
    simp [validProgress, hbytes, hfiles, hrate, hremaining]
  · exact .nothing

theorem effect_apply (machine : TransferControlStateMachine) (operation : Operation) :
    Effect machine (machine.apply operation).2 := by
  cases operation with
  | initializeSnapshot =>
    show Effect machine machine.initializeSnapshot.2
    unfold initializeSnapshot
    split_ifs with hinit hinvalid
    · exact .nothing
    · exact .nothing
    · exact .initialization (by simpa using hinit) (by simpa using hinvalid)
  | advance now next => exact effect_advance
  | pause now => exact effect_pause
  | resume now => exact effect_resume
  | interrupt now => exact effect_interrupt
  | cancel now => exact effect_cancel
  | confirmCancelled now => exact effect_confirmCancelled
  | fail now errorCode => exact effect_fail
  | updateProgress completedBytes completedFiles rate remaining path => exact effect_updateProgress

theorem apply_of_error (operation : Operation) (herror : (machine.apply operation).1.ok = false) :
    (machine.apply operation).2 = machine := by
  revert herror
  cases operation with
  | initializeSnapshot =>
    show machine.initializeSnapshot.1.ok = false → machine.initializeSnapshot.2 = machine
    unfold initializeSnapshot
    split_ifs
    · exact fun _ => rfl
    · exact fun _ => rfl
    · exact fun h => nomatch h
  | advance now next =>
    intro herror
    rcases machine.advance_cases now next with ⟨hsame, -⟩ | ⟨-, -, -, hset⟩
    · exact hsame
    · exact nomatch (congrArg (·.1.ok) hset).symm.trans herror
  | pause now =>
    intro herror
    rcases machine.pause_cases now with ⟨hsame, -⟩ | ⟨-, -, hset⟩
    · exact hsame
    · exact nomatch (congrArg (·.1.ok) hset).symm.trans herror
  | resume now =>
    intro herror
    rcases machine.resume_cases now with ⟨hsame, -⟩ | ⟨-, -, hset⟩
    · exact hsame
    · exact nomatch (congrArg (·.1.ok) hset).symm.trans herror
  | interrupt now =>
    intro herror
    rcases machine.interrupt_cases now with ⟨hsame, -⟩ | ⟨-, -, hset⟩
    · exact hsame
    · exact nomatch (congrArg (·.1.ok) hset).symm.trans herror
  | cancel now =>
    intro herror
    rcases machine.cancel_cases now with ⟨hsame, -⟩ | ⟨-, -, hset⟩
    · exact hsame
    · exact nomatch (congrArg (·.1.ok) hset).symm.trans herror
  | confirmCancelled now =>
    intro herror
    rcases machine.confirmCancelled_cases now with ⟨hsame, -⟩ | ⟨-, -, hset⟩
    · exact hsame
    · exact nomatch (congrArg (·.1.ok) hset).symm.trans herror
  | fail now errorCode =>
    show (machine.fail now errorCode).1.ok = false → (machine.fail now errorCode).2 = machine
    unfold fail
    split_ifs
    · exact fun _ => rfl
    · exact fun _ => rfl
    · exact fun _ => rfl
    · exact fun h => nomatch h
    · exact fun _ => rfl
    · exact fun _ => rfl
  | updateProgress completedBytes completedFiles rate remaining path =>
    show (machine.updateProgress completedBytes completedFiles rate remaining path).1.ok = false →
      (machine.updateProgress completedBytes completedFiles rate remaining path).2 = machine
    unfold updateProgress
    dsimp only
    split_ifs
    · exact fun _ => rfl
    · exact fun _ => rfl
    · exact fun _ => rfl
    · exact fun _ => rfl
    · exact fun h => nomatch h
    · exact fun _ => rfl

/-- What holds of a machine that was initialised. -/
structure Sound (machine : TransferControlStateMachine) : Prop where
  bytes : machine.snapshot.progress.completedBytes ≤ machine.snapshot.progress.totalBytes
  files : machine.snapshot.progress.completedFiles ≤ machine.snapshot.progress.totalFiles
  full : machine.snapshot.state = .completed →
    machine.snapshot.progress.completedBytes = machine.snapshot.progress.totalBytes ∧
      machine.snapshot.progress.completedFiles = machine.snapshot.progress.totalFiles
  created : machine.snapshot.createdUtc.isValid = true
  finished : machine.snapshot.finishedUtc.isValid = isTerminal machine.snapshot.state
  error : machine.snapshot.errorCode ≠ .none ↔ machine.snapshot.state = .failed
  actions : machine.snapshot = updateActions machine.snapshot

theorem markFinished_isValid {snapshot : TransferSnapshot}
    (hcreated : snapshot.createdUtc.isValid = true) :
    (markFinished now snapshot).finishedUtc.isValid = true := by
  unfold markFinished
  dsimp only
  split_ifs with hclock
  · exact hclock.1
  · exact hcreated

theorem Sound.setState {next : TransferState} {errorCode : TransferErrorCode}
    (h : machine.Sound) (hlive : isTerminal machine.snapshot.state = false)
    (herror : (errorCode = machine.snapshot.errorCode ∧ next ≠ .failed) ∨
      (errorCode ≠ .none ∧ next = .failed))
    (hfull : next = .completed →
      machine.snapshot.progress.completedBytes = machine.snapshot.progress.totalBytes ∧
        machine.snapshot.progress.completedFiles = machine.snapshot.progress.totalFiles) :
    Sound ({ machine with snapshot := { machine.snapshot with errorCode } }.setState now next).2 := by
  have hcode : errorCode ≠ .none ↔ next = .failed := by
    rcases herror with ⟨hsame, hnext⟩ | ⟨hnamed, hnext⟩
    · rw [hsame]
      refine iff_of_false (fun hnamed => ?_) hnext
      rw [h.error.mp hnamed] at hlive
      exact nomatch hlive
    · exact iff_of_true hnamed hnext
  unfold TransferControlStateMachine.setState
  dsimp only
  split_ifs with hterminal
  · exact {
      bytes := h.bytes
      files := h.files
      full := hfull
      created := h.created
      finished := (markFinished_isValid h.created).trans hterminal.symm
      error := hcode
      actions := rfl }
  · exact {
      bytes := h.bytes
      files := h.files
      full := hfull
      created := h.created
      finished := (h.finished.trans hlive).trans (Bool.eq_false_of_not_eq_true hterminal).symm
      error := hcode
      actions := rfl }

theorem sound_of_initialization (hvalid : initialSnapshotIsInvalid machine.snapshot = false) :
    Sound { snapshot := updateActions machine.snapshot, initialized := true } := by
  have hstate := state_of_initialSnapshot hvalid
  unfold initialSnapshotIsInvalid validProgress at hvalid
  simp only [Bool.or_eq_false_iff, decide_eq_false_iff_not, Bool.not_eq_false', Bool.and_eq_true,
    decide_eq_true_eq, ne_eq, not_not] at hvalid
  obtain ⟨⟨⟨⟨⟨-, ⟨⟨hbytes, hfiles⟩, -⟩, -⟩, hcreated⟩, -⟩, hfinished⟩, herror⟩ := hvalid
  exact {
    bytes := hbytes
    files := hfiles
    full := fun hcompleted => nomatch hstate.symm.trans hcompleted
    created := hcreated
    finished := by
      show machine.snapshot.finishedUtc.isValid = isTerminal machine.snapshot.state
      rw [hfinished, hstate]
      rfl
    error := iff_of_false (not_not_intro herror) fun hfailed => nomatch hstate.symm.trans hfailed
    actions := rfl }

variable {next : TransferControlStateMachine}

theorem Effect.sound (heffect : Effect machine next)
    (h : machine.initialized = true → machine.Sound) (hinit : next.initialized = true) :
    next.Sound := by
  cases heffect with
  | nothing => exact h hinit
  | initialization _ hvalid => exact sound_of_initialization hvalid
  | transition hstarted hlive now state errorCode herror hfull =>
    exact (h hstarted).setState hlive herror hfull
  | progress hstarted hlive progress path hvalid htotalBytes htotalFiles hbytes hfiles =>
    have hsound := h hstarted
    unfold validProgress at hvalid
    simp only [Bool.and_eq_true, decide_eq_true_eq] at hvalid
    exact {
      bytes := hvalid.1.1.1
      files := hvalid.1.1.2
      full := fun hcompleted => by
        have hcompleted : machine.snapshot.state = .completed := hcompleted
        rw [hcompleted] at hlive
        exact nomatch hlive
      created := hsound.created
      finished := hsound.finished
      error := hsound.error
      actions := congrArg (fun snapshot : TransferSnapshot =>
        { snapshot with progress, currentRelativeDisplayPath := path }) hsound.actions }

theorem Effect.monotone (heffect : Effect machine next) :
    machine.snapshot.progress.completedBytes ≤ next.snapshot.progress.completedBytes ∧
      machine.snapshot.progress.completedFiles ≤ next.snapshot.progress.completedFiles := by
  cases heffect with
  | nothing => exact ⟨le_rfl, le_rfl⟩
  | initialization => exact ⟨le_rfl, le_rfl⟩
  | transition _ _ now state =>
    unfold TransferControlStateMachine.setState
    dsimp only
    split_ifs
    · exact ⟨le_rfl, le_rfl⟩
    · exact ⟨le_rfl, le_rfl⟩
  | progress _ _ progress path _ _ _ hbytes hfiles => exact ⟨hbytes, hfiles⟩

theorem Effect.absorbing (heffect : Effect machine next)
    (hterminal : isTerminal machine.snapshot.state = true) :
    next.snapshot.state = machine.snapshot.state := by
  cases heffect with
  | nothing => rfl
  | initialization => rfl
  | transition _ hlive => exact nomatch hterminal.symm.trans hlive
  | progress => rfl

theorem Effect.untouched (heffect : Effect machine next) (hfresh : next.initialized = false) :
    next = machine := by
  cases heffect with
  | nothing => rfl
  | initialization => exact nomatch hfresh
  | transition hinit => exact nomatch hfresh.symm.trans hinit
  | progress hinit => exact nomatch hfresh.symm.trans hinit

theorem Sound.canPause_iff (h : machine.Sound) (hinit : machine.initialized = true) :
    machine.snapshot.canPause = true ↔ Accepts (machine.pause now).1 := by
  rw [h.actions]
  unfold pause updateActions Accepts
  split_ifs with hpaused hother
  · simp [hpaused]
  · simp [hother, failure, TransferControlResult.ok]
  · have hactive : machine.snapshot.state = .transferring := not_not.mp hother
    exact iff_of_true (by simpa using hactive) ⟨rfl, rfl⟩

theorem Sound.canResume_iff (h : machine.Sound) (hinit : machine.initialized = true) :
    machine.snapshot.canResume = true ↔ Accepts (machine.resume now).1 := by
  rw [h.actions]
  unfold resume updateActions Accepts
  split_ifs with hresuming hother
  · simp [hresuming]
  · simp [hother, failure, TransferControlResult.ok]
  · have hstopped : machine.snapshot.state = .paused ∨ machine.snapshot.state = .interrupted := by
      tauto
    exact iff_of_true (by simpa using hstopped) ⟨rfl, rfl⟩

theorem Sound.canCancel_iff (h : machine.Sound) (hinit : machine.initialized = true) :
    machine.snapshot.canCancel = true ↔ Accepts (machine.cancel now).1 := by
  rw [h.actions]
  unfold cancel updateActions Accepts
  split_ifs with hcancelling hterminal
  · rcases hcancelling with hstate | hstate <;> simp [hstate, isTerminal]
  · simp [hterminal, failure, TransferControlResult.ok]
  · rw [not_or] at hcancelling
    have hlive : isTerminal machine.snapshot.state = false := by simpa using hterminal
    exact iff_of_true (by simp [hlive, hcancelling.1]) ⟨rfl, rfl⟩

theorem after_concat (initial : TransferSnapshot) (operations : List Operation)
    (operation : Operation) :
    after initial (operations ++ [operation]) = ((after initial operations).apply operation).2 := by
  unfold after
  rw [List.foldl_append]
  rfl

theorem sound_after (initial : TransferSnapshot) (operations : List Operation)
    (hinit : (after initial operations).initialized = true) : (after initial operations).Sound := by
  induction operations using List.reverseRecOn with
  | nil => exact nomatch hinit
  | append_singleton operations operation ih =>
    rw [after_concat] at hinit ⊢
    exact (effect_apply _ operation).sound ih hinit

theorem untouched_after (initial : TransferSnapshot) (operations : List Operation)
    (hfresh : (after initial operations).initialized = false) :
    after initial operations = { snapshot := initial } := by
  induction operations using List.reverseRecOn with
  | nil => rfl
  | append_singleton operations operation ih =>
    rw [after_concat] at hfresh ⊢
    have hsame := (effect_apply _ operation).untouched hfresh
    rw [hsame] at hfresh ⊢
    exact ih hfresh

/-- **What every run keeps.** From any snapshot and after any operations, a machine that is not
initialised is as it was made. One that is has progress within its totals, full when completed; a
finish time exactly in the terminal states, an error code exactly in failure; and it publishes
exactly the commands its state takes up. Progress never goes back, the ends are never left, and an
operation that reports an error changes nothing. -/
theorem controlStateMachine_sound (initial : TransferSnapshot) (operations : List Operation) :
    let machine := after initial operations
    let snapshot := machine.snapshot
    (machine.initialized = false → machine = { snapshot := initial }) ∧
      (machine.initialized = true →
        snapshot.progress.completedBytes ≤ snapshot.progress.totalBytes ∧
        snapshot.progress.completedFiles ≤ snapshot.progress.totalFiles ∧
        (snapshot.state = .completed →
          snapshot.progress.completedBytes = snapshot.progress.totalBytes ∧
            snapshot.progress.completedFiles = snapshot.progress.totalFiles) ∧
        (snapshot.finishedUtc.isValid = true ↔ isTerminal snapshot.state = true) ∧
        (snapshot.errorCode ≠ .none ↔ snapshot.state = .failed) ∧
        ∀ now, (snapshot.canPause = true ↔ Accepts (machine.pause now).1) ∧
          (snapshot.canResume = true ↔ Accepts (machine.resume now).1) ∧
          (snapshot.canCancel = true ↔ Accepts (machine.cancel now).1)) ∧
      ∀ operation,
        let next := (machine.apply operation).2
        snapshot.progress.completedBytes ≤ next.snapshot.progress.completedBytes ∧
          snapshot.progress.completedFiles ≤ next.snapshot.progress.completedFiles ∧
          (snapshot.state = .completed ∨ snapshot.state = .failed ∨ snapshot.state = .cancelled →
            next.snapshot.state = snapshot.state) ∧
          ((machine.apply operation).1.ok = false → next = machine) := by
  intro machine snapshot
  refine ⟨untouched_after initial operations, fun hinit => ?_, fun operation => ?_⟩
  · have hsound : machine.Sound := sound_after initial operations hinit
    refine ⟨hsound.bytes, hsound.files, hsound.full, ?_, hsound.error, fun now =>
      ⟨hsound.canPause_iff hinit, hsound.canResume_iff hinit, hsound.canCancel_iff hinit⟩⟩
    rw [hsound.finished]
  · have heffect := effect_apply machine operation
    refine ⟨heffect.monotone.1, heffect.monotone.2, fun hended => heffect.absorbing ?_,
      apply_of_error operation⟩
    rcases hended with hstate | hstate | hstate <;> rw [hstate] <;> rfl

def pausedSample : TransferControlStateMachine :=
  let now : QDateTime := ⟨some 2000⟩
  after
    { id := ⟨1, one_nonNull⟩, peerId := ⟨2, two_nonNull⟩, peerDisplayName := [0x50]
      displayName := [0x61], progress := { totalBytes := 3, totalFiles := 1 }
      createdUtc := ⟨some 1000⟩ }
    [.initializeSnapshot, .advance now .offered, .advance now .waitingForAcceptance,
      .advance now .queued, .advance now .transferring, .pause now]

/-- A command given again is reported ok though it is not published. -/
theorem pause_again_is_ok :
    pausedSample.initialized = true ∧ pausedSample.snapshot.state = .paused ∧
      (pausedSample.pause ⟨some 3000⟩).1.ok = true ∧ pausedSample.snapshot.canPause = false := by
  decide +kernel

end TransferControlStateMachine

end DeskflowPlus.Transfer
