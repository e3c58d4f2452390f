import DeskflowPlus.App.OutgoingTermination

/-!
# Saving and removing a session's recovery state

Saves and removals of one session go through a few flags, one stored completion and two callbacks.
In every run a save and a removal are never in flight together, and a save waits only for another
save. The completion of a removal is stored in one place, so a removal requested while another is
outstanding takes it over; only a cancellation that meets the removal of a complete transfer does
that. In runs without it, each request is gone on from exactly once and no flag is left behind.
-/

namespace DeskflowPlus.App

open Transfer FileTransport

structure RecoveryQueue where
  terminalPending : Bool
  removePending : Bool
  removal : Option RecoveryRemoval
  completion : Option RecoveryRemoveCompletion
  savePending : Bool
  save : Option RecoverySave
  generation : Nat
  prepared : Bool
  stored : Option OutgoingRecoveryState
  requests : List RecoveryRemoveCompletion
  runs : List RecoveryRemoveCompletion

def OutgoingState.recoveryQueue (s : OutgoingState) : RecoveryQueue where
  terminalPending := s.terminalPending
  removePending := s.recoveryRemovePending
  removal := s.recoveryRemoval
  completion := s.recoveryRemoveCompletion
  savePending := s.recoverySavePending
  save := s.recoverySave
  generation := s.recoveryGeneration
  prepared := s.manifest.isSome && s.pagePlan.isSome
  stored := s.stored
  requests := s.removeRequests
  runs := s.removeRuns

namespace RecoveryQueue

variable (runtime : FileTransferRuntime)

/-- What holds in every run. -/
structure Serialised (q : RecoveryQueue) : Prop where
  exclusive : q.removal.isSome = true → q.save = none
  blocked : q.removePending = true ∨ q.removal.isSome = true → q.savePending = false
  storeless : runtime.hasRecoveryStore = false → q.save = none ∧ q.savePending = false ∧
    q.removePending = false ∧ q.removal = none
  generations : ∀ save, q.save = some save → save.generation ≤ q.generation
  /-- A save is put off only while an older one runs. -/
  waiting : q.savePending = true → q.prepared = true ∧
    ∃ save, q.save = some save ∧ save.generation < q.generation

structure Orderly (q : RecoveryQueue) : Prop where
  history : q.requests = q.runs ++ q.completion.toList
  idle : q.terminalPending = false →
    q.removePending = false ∧ q.removal = none ∧ q.completion = none
  busy : q.terminalPending = true → q.completion.isSome = true ∧
    ((q.removePending = true ∧ q.removal = none ∧ q.save.isSome = true) ∨
      (q.removePending = false ∧ q.removal.isSome = true))

/-- A step that leaves a running removal alone. -/
structure Keeps (q q' : RecoveryQueue) : Prop where
  serialised : Serialised runtime q → Serialised runtime q'
  orderly : Serialised runtime q → Orderly q → Orderly q'
  steady : Serialised runtime q → q.removal.isSome = true →
    q'.removal = q.removal ∧ q'.stored = q.stored

variable {runtime}

variable {q : RecoveryQueue}

theorem Keeps.refl : Keeps runtime q q :=
  ⟨id, fun _ => id, fun _ _ => ⟨rfl, rfl⟩⟩

variable {q' : RecoveryQueue}

theorem Keeps.trans {q'' : RecoveryQueue} (h : Keeps runtime q q') (h' : Keeps runtime q' q'') :
    Keeps runtime q q'' where
  serialised hq := h'.serialised (h.serialised hq)
  orderly hq horderly := h'.orderly (h.serialised hq) (h.orderly hq horderly)
  steady hq hremoval := by
    obtain ⟨hsame, hstored⟩ := h.steady hq hremoval
    obtain ⟨hsame', hstored'⟩ := h'.steady (h.serialised hq) (by rw [hsame]; exact hremoval)
    exact ⟨hsame'.trans hsame, hstored'.trans hstored⟩

theorem Keeps.of_eq {q₀ : RecoveryQueue} (h : Keeps runtime q₀ q') (heq : q₀ = q) :
    Keeps runtime q q' := heq ▸ h

theorem Keeps.of_serialised (h : Serialised runtime q → Keeps runtime q q') :
    Keeps runtime q q' :=
  ⟨fun hq => (h hq).serialised hq, fun hq => (h hq).orderly hq, fun hq => (h hq).steady hq⟩

theorem Serialised.removal_none (h : Serialised runtime q) {save : RecoverySave}
    (hsave : q.save = some save) : q.removal = none := by
  rcases hremoval : q.removal with _ | removal
  · rfl
  · exact nomatch hsave.symm.trans (h.exclusive (Option.isSome_iff_exists.mpr ⟨_, hremoval⟩))

theorem keeps_prepared {prepared : Bool} (hmono : q.prepared = true → prepared = true) :
    Keeps runtime q { q with prepared } where
  serialised h := { h with waiting := fun hpending => ⟨hmono (h.waiting hpending).1,
    (h.waiting hpending).2⟩ }
  orderly _ horderly := { horderly with }
  steady _ _ := ⟨rfl, rfl⟩

end RecoveryQueue

namespace OutgoingState

open RecoveryQueue (Keeps Serialised Orderly keeps_prepared)

variable {runtime : FileTransferRuntime} {env : Surroundings} {s : OutgoingState}

@[simp]
theorem recoveryQueue_finishOutgoingFailure {errorCode : TransferErrorCode} :
    (s.finishOutgoingFailure env errorCode).recoveryQueue = s.recoveryQueue := by
  unfold finishOutgoingFailure
  split
  · rfl
  · split
    · rfl
    · rfl

@[simp]
theorem recoveryQueue_finishLocalCancel :
    (s.finishLocalCancel env).recoveryQueue = s.recoveryQueue := by
  unfold finishLocalCancel
  dsimp only
  split
  · rfl
  · split
    · rfl
    · split
      · exact recoveryQueue_finishOutgoingFailure
      · split
        · exact recoveryQueue_finishOutgoingFailure
        · rfl

@[simp]
theorem recoveryQueue_finishRemoteCancel :
    (s.finishRemoteCancel env).recoveryQueue = s.recoveryQueue := by
  unfold finishRemoteCancel
  split
  · rfl
  · dsimp only
    split
    · exact recoveryQueue_finishOutgoingFailure
    · rfl

@[simp]
theorem recoveryQueue_finishCompletion :
    (s.finishCompletion env).recoveryQueue = s.recoveryQueue := by
  unfold finishCompletion
  split
  · rfl
  · dsimp only
    split
    · exact recoveryQueue_finishOutgoingFailure
    · rfl

variable {completion : RecoveryRemoveCompletion}

theorem recoveryQueue_runRemoveCompletion {removed : Except String Unit} :
    (s.runRemoveCompletion env completion removed).recoveryQueue =
      { s.recoveryQueue with terminalPending := false, runs := s.removeRuns ++ [completion] } := by
  unfold runRemoveCompletion
  dsimp only
  cases completion with
  | failure => exact recoveryQueue_finishOutgoingFailure
  | localCancel =>
    cases removed with
    | error => exact recoveryQueue_finishOutgoingFailure
    | ok => exact recoveryQueue_finishLocalCancel
  | remoteCancel =>
    cases removed with
    | error => exact recoveryQueue_finishOutgoingFailure
    | ok => exact recoveryQueue_finishRemoteCancel
  | complete =>
    cases removed with
    | error => exact recoveryQueue_finishOutgoingFailure
    | ok => exact recoveryQueue_finishCompletion

@[simp]
theorem recoveryQueue_updateOutgoingProgress :
    s.updateOutgoingProgress.recoveryQueue = s.recoveryQueue := by
  unfold updateOutgoingProgress
  split <;> rfl

@[simp]
theorem recoveryQueue_startSenderTask {connection : FileTlsConnection} {id : Nat} :
    (s.startSenderTask connection id).recoveryQueue = s.recoveryQueue := by
  unfold startSenderTask
  dsimp only
  split <;> rfl

@[simp]
theorem recoveryQueue_frameAccepted {id : Nat} {frame : Frame} :
    (s.frameAccepted id frame).recoveryQueue = s.recoveryQueue := by
  unfold frameAccepted
  dsimp only
  split
  · exact recoveryQueue_updateOutgoingProgress
  · rfl

theorem serialised_removeOutgoingRecovery (h : Serialised runtime s.recoveryQueue) :
    Serialised runtime (s.removeOutgoingRecovery runtime env completion).recoveryQueue := by
  unfold removeOutgoingRecovery
  dsimp only
  split
  · rw [recoveryQueue_runRemoveCompletion]
    exact { h with }
  · rename_i hstore
    have hstore : runtime.hasRecoveryStore = true := by simpa using hstore
    split
    · rename_i hfree
      obtain ⟨hsave, hremoval⟩ := hfree
      have hsave : s.recoverySave = none := by simpa [recoverySaveRunning] using hsave
      have hremoval : s.recoveryRemoval = none := by simpa [recoveryRemoveRunning] using hremoval
      unfold startOutgoingRecoveryRemoval
      rw [if_neg (by simp [recoveryRemoveRunning, hremoval, hstore])]
      exact ⟨fun _ => hsave, fun _ => rfl, (fun hnone => (by cases hstore.symm.trans hnone)),
        (fun save hsome => (by cases hsave.symm.trans hsome)), fun hpending => by cases hpending⟩
    · exact ⟨h.exclusive, fun _ => rfl, (fun hnone => (by cases hstore.symm.trans hnone)),
        fun save hsome => (h.generations save hsome).trans (Nat.le_succ _), fun hpending => by cases hpending⟩

theorem keeps_removeOutgoingRecovery {completion : RecoveryRemoveCompletion}
    (hfree : Orderly s.recoveryQueue → s.terminalPending = false) :
    Keeps runtime s.recoveryQueue
      ({ s with terminalPending := true }.removeOutgoingRecovery runtime env
        completion).recoveryQueue := by
  have hserialised (h : Serialised runtime s.recoveryQueue) :
      Serialised runtime ({ s with terminalPending := true }.removeOutgoingRecovery runtime env
        completion).recoveryQueue :=
    serialised_removeOutgoingRecovery { h with }
  have hidle (horderly : Orderly s.recoveryQueue) :
      s.recoveryRemovePending = false ∧ s.recoveryRemoval = none ∧
        s.recoveryRemoveCompletion = none := horderly.idle (hfree horderly)
  have hhistory (horderly : Orderly s.recoveryQueue) : s.removeRequests = s.removeRuns := by
    have hhistory : s.removeRequests = s.removeRuns ++ s.recoveryRemoveCompletion.toList :=
      horderly.history
    rw [(hidle horderly).2.2] at hhistory
    simpa using hhistory
  refine ⟨hserialised, fun _ horderly => ?_, fun _ hsome => ?_⟩
  all_goals
    unfold removeOutgoingRecovery
    dsimp only
    split
  · rw [recoveryQueue_runRemoveCompletion]
    refine ⟨?_, fun _ => hidle horderly, nofun⟩
    show s.removeRequests ++ [completion] =
      s.removeRuns ++ [completion] ++ s.recoveryRemoveCompletion.toList
    rw [hhistory horderly, (hidle horderly).2.2]
    simp
  · rename_i hstore
    have hstore : runtime.hasRecoveryStore = true := by simpa using hstore
    have hremoval := (hidle horderly).2.1
    split
    · unfold startOutgoingRecoveryRemoval
      rw [if_neg (by simp [recoveryRemoveRunning, hremoval, hstore])]
      exact ⟨congrArg (· ++ [completion]) (hhistory horderly), nofun,
        fun _ => ⟨rfl, .inr ⟨rfl, rfl⟩⟩⟩
    · rename_i hbusy
      refine ⟨congrArg (· ++ [completion]) (hhistory horderly), nofun,
        fun _ => ⟨rfl, .inl ⟨rfl, hremoval, ?_⟩⟩⟩
      show s.recoverySave.isSome = true
      simpa [recoverySaveRunning, recoveryRemoveRunning, hremoval, Option.isSome_iff_ne_none]
        using hbusy
  · rw [recoveryQueue_runRemoveCompletion]
    exact ⟨rfl, rfl⟩
  · have hsome : s.recoveryRemoval.isSome = true := hsome
    rw [if_neg (by simp [recoveryRemoveRunning, hsome])]
    exact ⟨rfl, rfl⟩

theorem keeps_failOutgoing {errorCode : TransferErrorCode} {diagnostic : String} :
    Keeps runtime s.recoveryQueue
      (s.failOutgoing runtime env errorCode diagnostic).recoveryQueue := by
  unfold failOutgoing
  split
  · exact .refl
  · rename_i hfree
    exact .of_eq (@keeps_removeOutgoingRecovery runtime env { s with cancelled := true } _
      fun _ => by simpa using hfree) rfl

theorem keeps_startOutgoingRecoverySave (hdue : s.recoverySavePending = true)
    (hidle : s.recoverySave = none) (hstore : runtime.hasRecoveryStore = true)
    (hprepared : (s.manifest.isSome && s.pagePlan.isSome) = true)
    (hfree : s.recoveryRemovePending = false ∧ s.recoveryRemoval = none) :
    Keeps runtime { s.recoveryQueue with savePending := false }
      (s.startOutgoingRecoverySave runtime env).recoveryQueue := by
  rw [Bool.and_eq_true] at hprepared
  obtain ⟨manifest, hmanifest⟩ := Option.isSome_iff_exists.mp hprepared.1
  obtain ⟨plan, hplan⟩ := Option.isSome_iff_exists.mp hprepared.2
  unfold startOutgoingRecoverySave
  rw [hmanifest, hplan]
  dsimp only
  rw [if_neg (by simp [hdue, recoverySaveRunning, hidle, hstore])]
  split
  · refine .of_eq keeps_failOutgoing ?_
    rw [← hmanifest, ← hplan]
    rfl
  · refine ⟨fun h => ⟨fun hremoval => ?_, fun _ => rfl,
      (fun hnone => (by cases hstore.symm.trans hnone)), ?_, fun hpending => by cases hpending⟩,
      fun _ horderly => ⟨horderly.history, horderly.idle, fun hpending => ?_⟩, fun _ _ => ⟨rfl, rfl⟩⟩
    · have hremoval : s.recoveryRemoval.isSome = true := hremoval
      rw [hfree.2] at hremoval
      cases hremoval
    · rintro save ⟨⟩
      exact le_rfl
    · refine ⟨(horderly.busy hpending).1, ?_⟩
      rcases (horderly.busy hpending).2 with ⟨hremove, -, -⟩ | ⟨-, hremoval⟩
      · cases hfree.1.symm.trans hremove
      · have hremoval : s.recoveryRemoval.isSome = true := hremoval
        rw [hfree.2] at hremoval
        cases hremoval

theorem keeps_persistOutgoing :
    Keeps runtime s.recoveryQueue (s.persistOutgoing runtime env).recoveryQueue := by
  unfold persistOutgoing
  split
  · exact .refl
  · rename_i hopen
    simp only [not_or, Bool.not_eq_true, Bool.not_eq_false, recoveryRemoveRunning,
      Option.isSome_eq_false_iff, Option.isNone_iff_eq_none] at hopen
    obtain ⟨hstore, hmanifest, hplan, hremove, hremoval⟩ := hopen
    have hprepared : (s.manifest.isSome && s.pagePlan.isSome) = true := by
      rw [Bool.and_eq_true]
      exact ⟨Option.isSome_iff_ne_none.mpr hmanifest, Option.isSome_iff_ne_none.mpr hplan⟩
    dsimp only
    split
    · rename_i hidle
      have hidle : s.recoverySave = none := by simpa [recoverySaveRunning] using hidle
      have hcounted : Keeps runtime s.recoveryQueue { s.recoveryQueue with
          generation := s.recoveryGeneration + 1, savePending := false } :=
        ⟨fun h => { h with
          blocked := fun _ => rfl
          storeless := fun hnone => ⟨(h.storeless hnone).1, rfl, (h.storeless hnone).2.2⟩
          generations := fun save hsave => (h.generations save hsave).trans (Nat.le_succ _)
          waiting := fun hpending => by cases hpending }, fun _ horderly => { horderly with }, fun _ _ => ⟨rfl, rfl⟩⟩
      exact hcounted.trans (.of_eq (keeps_startOutgoingRecoverySave rfl hidle hstore hprepared
        ⟨hremove, hremoval⟩) rfl)
    · rename_i hbusy
      have hbusy : s.recoverySave.isSome = true := by
        simpa [recoverySaveRunning, Option.isSome_iff_ne_none] using hbusy
      obtain ⟨save, hsave⟩ := Option.isSome_iff_exists.mp hbusy
      refine ⟨fun h => { h with
        blocked := fun hblocked => ?_
        storeless := fun hnone => by cases hstore.symm.trans hnone
        generations := fun save hsave => (h.generations save hsave).trans (Nat.le_succ _)
        waiting := fun _ => ⟨hprepared, save, hsave, Nat.lt_succ_of_le (h.generations save hsave)⟩ },
        fun _ horderly => { horderly with }, fun _ _ => ⟨rfl, rfl⟩⟩
      rcases hblocked with hblocked | hblocked
      · cases hremove.symm.trans hblocked
      · have hblocked : s.recoveryRemoval.isSome = true := hblocked
        rw [hremoval] at hblocked
        cases hblocked

theorem keeps_scheduleSenderPump :
    Keeps runtime s.recoveryQueue (s.scheduleSenderPump runtime env).recoveryQueue := by
  unfold scheduleSenderPump
  split
  · exact .refl
  · split
    · exact .refl
    · split
      · dsimp only
        split
        · rw [recoveryQueue_startSenderTask]
          exact .refl
        · split
          · split
            · exact .of_eq keeps_failOutgoing rfl
            · exact .refl
          · exact .of_eq keeps_failOutgoing rfl
          · split
            · refine .of_eq .refl ?_
              exact recoveryQueue_frameAccepted
            · rw [recoveryQueue_startSenderTask, recoveryQueue_frameAccepted]
              exact .refl
      · exact keeps_failOutgoing

theorem keeps_commitOutgoing (hfree : s.terminalPending = false) :
    Keeps runtime s.recoveryQueue (s.commitOutgoing runtime env).recoveryQueue := by
  unfold commitOutgoing
  split
  · exact .refl
  · dsimp only
    split
    · exact .of_eq keeps_failOutgoing rfl
    · exact .of_eq (keeps_removeOutgoingRecovery fun _ => hfree) rfl

theorem keeps_completeOutgoing :
    Keeps runtime s.recoveryQueue (s.completeOutgoing runtime env).recoveryQueue := by
  unfold completeOutgoing
  split
  · exact .refl
  · rename_i hfree
    have hfree : s.terminalPending = false := by simpa using (not_or.mp hfree).1
    have hqueue := @recoveryQueue_updateOutgoingProgress s
    have hsame : s.updateOutgoingProgress.terminalPending = s.terminalPending :=
      congrArg RecoveryQueue.terminalPending hqueue
    exact .of_eq (keeps_commitOutgoing (hsame.trans hfree)) hqueue

theorem keeps_startNextOutgoingFile :
    Keeps runtime s.recoveryQueue (s.startNextOutgoingFile runtime env).recoveryQueue := by
  unfold startNextOutgoingFile
  split
  · split
    · exact .refl
    · dsimp only
      split
      · exact .of_eq keeps_completeOutgoing rfl
      · split
        · split
          · exact .of_eq keeps_failOutgoing rfl
          · refine .of_eq keeps_scheduleSenderPump ?_
            rw [recoveryQueue_updateOutgoingProgress]
            rfl
        · exact .of_eq keeps_failOutgoing rfl
  · exact .refl

theorem keeps_pause : Keeps runtime s.recoveryQueue (s.pause runtime env).recoveryQueue := by
  unfold pause
  dsimp only
  split
  · exact .refl
  · split
    · exact .refl
    · split
      · exact .refl
      · split
        · exact .refl
        · split
          · exact .of_eq keeps_failOutgoing rfl
          · exact .refl

theorem keeps_resume : Keeps runtime s.recoveryQueue (s.resume runtime env).recoveryQueue := by
  unfold resume
  dsimp only
  split
  · exact .refl
  · split
    · exact .refl
    · split
      · exact .refl
      · split
        · exact .refl
        · split
          · exact .of_eq keeps_failOutgoing rfl
          · exact .of_eq keeps_scheduleSenderPump rfl

theorem keeps_cancel {options : TransferCancelOptions}
    (hfree : s.cancelled = false → s.terminalPending = false) :
    Keeps runtime s.recoveryQueue (s.cancel runtime env options).recoveryQueue := by
  unfold cancel
  split
  · exact .refl
  · rename_i hlive
    split
    · exact .refl
    · exact .of_eq (@keeps_removeOutgoingRecovery runtime env { s with cancelled := true } _
        fun _ => hfree (by simpa using (not_or.mp hlive).1)) rfl

theorem keeps_applyRemoteCommand {command : TransferCommandMessage}
    (hfree : ∀ transferId reason keepPartial, command = .cancel transferId reason keepPartial →
      s.cancelled = false → s.terminalPending = false) :
    Keeps runtime s.recoveryQueue (s.applyRemoteCommand runtime env command).recoveryQueue := by
  unfold applyRemoteCommand
  split
  · exact .refl
  · rename_i control _
    cases command with
    | pause =>
      dsimp only
      split
      · exact .refl
      · split
        · exact .refl
        · exact .refl
    | resume =>
      dsimp only
      split
      · exact .refl
      · split
        · exact .refl
        · rename_i resumed _
          have hsent := @keeps_scheduleSenderPump runtime env
            { s with paused := false, control := some resumed }
          refine .trans hsent ?_
          split
          · exact .refl
          · exact .refl
    | cancel transferId reason keepPartial =>
      dsimp only
      split
      · exact .refl
      · rename_i hlive
        split
        · exact .refl
        · exact .of_eq (@keeps_removeOutgoingRecovery runtime env
            { s.publishControl (control.cancel env.now).2 with cancelled := true } _
            fun _ => hfree _ _ _ rfl (by simpa using (not_or.mp hlive).1)) rfl

theorem keeps_sendOffer : Keeps runtime s.recoveryQueue (s.sendOffer runtime env).recoveryQueue := by
  unfold sendOffer
  split
  · dsimp only
    split
    · exact keeps_failOutgoing
    · split
      · exact keeps_failOutgoing
      · split
        · exact keeps_failOutgoing
        · split
          · exact .of_eq keeps_failOutgoing rfl
          · exact .refl
  · exact .refl

theorem keeps_finishManifestPreparation {manifest : Except String TransferManifest}
    {plan : Except String ManifestPagePlan} :
    Keeps runtime s.recoveryQueue
      (s.finishManifestPreparation runtime env manifest plan).recoveryQueue := by
  have hmanifest {manifest : TransferManifest} :
      Keeps runtime s.recoveryQueue { s with manifest := some manifest }.recoveryQueue :=
    keeps_prepared fun hprepared => (Bool.and_eq_true _ _ ▸ hprepared).2
  have hplan {manifest : TransferManifest} {plan : ManifestPagePlan} : Keeps runtime
      s.recoveryQueue
      { s with manifest := some manifest, pagePlan := some plan }.recoveryQueue :=
    keeps_prepared fun _ => rfl
  unfold finishManifestPreparation
  split
  · exact .refl
  · split
    · exact keeps_failOutgoing
    · dsimp only
      split
      · exact hmanifest.trans keeps_failOutgoing
      · split
        · exact hplan.trans (.of_eq keeps_failOutgoing rfl)
        · split
          · exact hplan.trans (.of_eq keeps_failOutgoing rfl)
          · split
            · exact hplan.trans (.of_eq keeps_sendOffer rfl)
            · exact hplan

theorem keeps_sendResumeQuery :
    Keeps runtime s.recoveryQueue (s.sendResumeQuery runtime env).recoveryQueue := by
  unfold sendResumeQuery
  split
  · split
    · exact .refl
    · split
      · exact keeps_failOutgoing
      · dsimp only
        split
        · split
          · exact keeps_failOutgoing
          · exact .refl
        · exact .refl
  · exact .refl

theorem keeps_offerPreparedTransfers :
    Keeps runtime s.recoveryQueue (s.offerPreparedTransfers runtime env).recoveryQueue := by
  unfold offerPreparedTransfers
  split
  · split
    · exact .refl
    · exact keeps_sendResumeQuery
  · split
    · exact keeps_sendOffer
    · exact .refl

theorem keeps_continueResumed :
    Keeps runtime s.recoveryQueue (s.continueResumed runtime env).recoveryQueue := by
  unfold continueResumed
  dsimp only
  refine .of_eq keeps_persistOutgoing ?_
  rw [recoveryQueue_updateOutgoingProgress]
  rfl

theorem keeps_handleResumeResponse {response : ResumeResponseMessage} :
    Keeps runtime s.recoveryQueue
      (s.handleResumeResponse runtime env response).recoveryQueue := by
  unfold handleResumeResponse
  split
  · split
    · exact .refl
    · split
      · exact keeps_failOutgoing
      · dsimp only
        split
        · exact .of_eq keeps_continueResumed rfl
        · split
          · exact .of_eq keeps_failOutgoing rfl
          · exact .of_eq keeps_continueResumed rfl
  · exact .refl

theorem keeps_handleTransferAccept {qt : QtText} {acceptance : TransferAccept} :
    Keeps runtime s.recoveryQueue
      (s.handleTransferAccept runtime env qt acceptance).recoveryQueue := by
  unfold handleTransferAccept
  split
  · dsimp only
    split
    · exact .of_eq keeps_failOutgoing rfl
    · split
      · exact .of_eq keeps_failOutgoing rfl
      · split
        · exact .refl
        · exact .of_eq keeps_persistOutgoing rfl
  · exact .refl

theorem keeps_handleTransferReject {rejection : TransferReject} :
    Keeps runtime s.recoveryQueue (s.handleTransferReject env rejection).recoveryQueue := by
  unfold handleTransferReject
  split
  · exact .refl
  · exact .refl

theorem keeps_sendNextManifestPage :
    Keeps runtime s.recoveryQueue (s.sendNextManifestPage runtime env).recoveryQueue := by
  unfold sendNextManifestPage
  split
  · split
    · exact .refl
    · split
      · exact keeps_failOutgoing
      · split
        · exact .refl
        · exact keeps_startNextOutgoingFile
  · exact .refl

theorem keeps_dispatchSenderPumpResult {generation : Nat} {result : SenderPumpResult} :
    Keeps runtime s.recoveryQueue
      (s.dispatchSenderPumpResult runtime env generation result).recoveryQueue := by
  unfold dispatchSenderPumpResult
  split
  · split
    · exact keeps_offerPreparedTransfers
    · exact .refl
  · split
    · exact .refl
    · split
      · exact keeps_failOutgoing
      · dsimp only
        split
        · exact .refl
        · exact .of_eq keeps_scheduleSenderPump rfl

theorem keeps_handleFileResult {result : FileResultMessage} :
    Keeps runtime s.recoveryQueue (s.handleFileResult runtime env result).recoveryQueue := by
  unfold handleFileResult
  split
  · exact .refl
  · split
    · exact .refl
    · split
      · exact keeps_failOutgoing
      · dsimp only
        refine .of_eq keeps_startNextOutgoingFile ?_
        rw [recoveryQueue_updateOutgoingProgress]
        rfl

theorem keeps_markOutgoingConnectionLost :
    Keeps runtime s.recoveryQueue (s.markOutgoingConnectionLost runtime env).recoveryQueue := by
  unfold markOutgoingConnectionLost
  split
  · exact .refl
  · dsimp only
    split
    · exact .of_eq keeps_failOutgoing rfl
    · split
      · exact .of_eq keeps_failOutgoing rfl
      · exact .of_eq keeps_persistOutgoing rfl

variable {s' : OutgoingState}

theorem recoveryQueue_senderProduces {sources : OutgoingSources}
    (hs' : s.senderProduces sources = some s') : s'.recoveryQueue = s.recoveryQueue := by
  unfold senderProduces at hs'
  split at hs'
  · obtain ⟨worker, -, rfl⟩ := Option.map_eq_some_iff.mp hs'
    rfl
  · exact nomatch hs'

theorem keeps_recoverySaveWrites {fault : Option String}
    (hs' : s.recoverySaveWrites fault = some s') :
    Keeps runtime s.recoveryQueue s'.recoveryQueue := by
  unfold recoverySaveWrites at hs'
  split at hs'
  · rename_i generation state hsave
    have hwrites {result : Option (Except String Unit)} {stored : Option OutgoingRecoveryState} :
        Keeps runtime s.recoveryQueue
          { s.recoveryQueue with save := some { generation, state, result }, stored } := by
      have hbusy (h : Serialised runtime s.recoveryQueue) : s.recoveryRemoval = none :=
        h.removal_none hsave
      refine ⟨fun h => { h with
        exclusive := fun hremoval => ?_
        storeless := fun hnone => nomatch hsave.symm.trans (h.storeless hnone).1
        generations := ?_
        waiting := fun hpending => ⟨(h.waiting hpending).1, _, rfl, ?_⟩ },
        fun _ horderly => { horderly with busy := fun hpending =>
          ⟨(horderly.busy hpending).1, (horderly.busy hpending).2.imp_left fun hwaiting =>
            ⟨hwaiting.1, hwaiting.2.1, rfl⟩⟩ }, fun h hremoval => ?_⟩
      · have hremoval : s.recoveryRemoval.isSome = true := hremoval
        rw [hbusy h] at hremoval
        exact nomatch hremoval
      · rintro save ⟨⟩
        have hgeneration := h.generations _ hsave
        exact hgeneration
      · obtain ⟨-, save, hsome, holder⟩ := h.waiting hpending
        obtain rfl := Option.some.inj (hsave.symm.trans hsome)
        exact holder
      · have hremoval : s.recoveryRemoval.isSome = true := hremoval
        rw [hbusy h] at hremoval
        exact nomatch hremoval
    split at hs'
    · obtain rfl := Option.some.inj hs'
      exact hwrites
    · obtain rfl := Option.some.inj hs'
      exact hwrites
    · obtain rfl := Option.some.inj hs'
      exact hwrites
  · exact nomatch hs'

variable {result : Except String Unit}

theorem keeps_recoverySaveFinished {save : RecoverySave} (hsave : s.recoverySave = some save) :
    Keeps runtime s.recoveryQueue
      (s.recoverySaveFinished runtime env save result).recoveryQueue := by
  refine .of_serialised fun h => ?_
  have hremoval : s.recoveryRemoval = none := h.removal_none hsave
  have hstore : runtime.hasRecoveryStore = true := by
    by_contra hnone
    exact nomatch hsave.symm.trans (h.storeless (by simpa using hnone)).1
  unfold recoverySaveFinished
  dsimp only
  split
  · rename_i hremove
    have hremove : s.recoveryRemovePending = true := hremove
    unfold startOutgoingRecoveryRemoval
    rw [if_neg (by simp [hremove, recoveryRemoveRunning, hremoval, hstore])]
    refine ⟨fun h => ⟨fun _ => rfl, fun _ => h.blocked (.inl hremove),
      (fun hnone => nomatch hstore.symm.trans hnone), nofun, fun hpending => ?_⟩,
      fun _ horderly => ⟨horderly.history, fun hidle => ?_, fun hpending =>
        ⟨(horderly.busy hpending).1, .inr ⟨rfl, rfl⟩⟩⟩, fun _ hsome => ?_⟩
    · exact nomatch (h.blocked (.inl hremove)).symm.trans hpending
    · exact nomatch (horderly.idle hidle).1.symm.trans hremove
    · have hsome : s.recoveryRemoval.isSome = true := hsome
      rw [hremoval] at hsome
      exact nomatch hsome
  · rename_i hremove
    have hremove : s.recoveryRemovePending = false := by simpa using hremove
    have hdone : Keeps runtime s.recoveryQueue
        { s.recoveryQueue with save := none, savePending := false } := by
      refine ⟨fun h => { h with
        exclusive := fun _ => rfl
        blocked := fun _ => rfl
        storeless := fun hnone => ⟨rfl, rfl, (h.storeless hnone).2.2⟩
        generations := nofun
        waiting := nofun }, fun _ horderly => { horderly with busy := fun hpending => ?_ },
        fun _ _ => ⟨rfl, rfl⟩⟩
      refine ⟨(horderly.busy hpending).1, .inr ?_⟩
      rcases (horderly.busy hpending).2 with ⟨hwaiting, -⟩ | hrunning
      · exact nomatch hremove.symm.trans hwaiting
      · exact hrunning
    split
    · rename_i hdue
      have hdue : s.recoverySavePending = true := hdue.2
      have hstarts := @keeps_startOutgoingRecoverySave runtime env { s with recoverySave := none }
        hdue rfl hstore (h.waiting hdue).1 ⟨hremove, hremoval⟩
      exact hdone.trans hstarts
    · rename_i hcurrent
      have hidle : s.recoverySavePending = false := by
        by_contra hdue
        have hdue : s.recoverySavePending = true := by simpa using hdue
        obtain ⟨-, other, hother, holder⟩ := h.waiting hdue
        obtain rfl := Option.some.inj (hsave.symm.trans hother)
        exact hcurrent ⟨Nat.ne_of_lt holder, hdue⟩
      have hfinished : Keeps runtime s.recoveryQueue { s with recoverySave := none }.recoveryQueue :=
        hdone.trans (.of_eq .refl (congrArg
          (fun savePending => { s.recoveryQueue with save := none, savePending }) hidle))
      split
      · exact hfinished.trans (.of_eq keeps_failOutgoing rfl)
      · split
        · exact hfinished
        · split
          · exact hfinished
          · exact hfinished

theorem recoveryQueue_recoveryRemovalErases {fault : Option String}
    (hs' : s.recoveryRemovalErases fault = some s') : s.recoveryRemoval.isSome = true ∧
      ∃ result stored, (stored = s.stored ∧ fault ≠ none ∨ stored = none) ∧
        s'.recoveryQueue = { s.recoveryQueue with removal := some { result }, stored } := by
  unfold recoveryRemovalErases at hs'
  split at hs'
  · rename_i hremoval
    refine ⟨Option.isSome_iff_exists.mpr ⟨_, hremoval⟩, ?_⟩
    split at hs'
    · obtain rfl := Option.some.inj hs'
      exact ⟨_, _, .inl ⟨rfl, nofun⟩, rfl⟩
    · obtain rfl := Option.some.inj hs'
      exact ⟨_, _, .inr rfl, rfl⟩
  · exact nomatch hs'

theorem recoveryQueue_recoveryRemovalFinished {result : Except String Unit}
    {completion : RecoveryRemoveCompletion} (hcompletion : s.recoveryRemoveCompletion = some completion) :
    (s.recoveryRemovalFinished env result).recoveryQueue =
      { s.recoveryQueue with
        terminalPending := false, removal := none, completion := none
        runs := s.removeRuns ++ [completion] } := by
  unfold recoveryRemovalFinished
  rw [hcompletion]
  exact recoveryQueue_runRemoveCompletion

theorem serialised_recoveryRemovalFinished (hremoval : s.recoveryRemoval.isSome = true)
    (h : Serialised runtime s.recoveryQueue) :
    Serialised runtime (s.recoveryRemovalFinished env result).recoveryQueue := by
  have hidle : Serialised runtime { s.recoveryQueue with removal := none } :=
    { h with
      exclusive := nofun
      blocked := fun _ => h.blocked (.inr hremoval)
      storeless := fun hnone =>
        ⟨(h.storeless hnone).1, (h.storeless hnone).2.1, (h.storeless hnone).2.2.1, rfl⟩ }
  rcases hcompletion : s.recoveryRemoveCompletion with _ | completion
  · unfold recoveryRemovalFinished
    rw [hcompletion]
    exact { hidle with }
  · rw [recoveryQueue_recoveryRemovalFinished hcompletion]
    exact { hidle with }

/-- A cancellation meets the removal of a complete transfer. -/
def Overlaps (s : OutgoingState) : OutgoingEvent → Prop
  | .cancel _ => s.terminalPending = true ∧ s.cancelled = false
  | .remoteCommand peer (.cancel transferId _ _) => s.addressed peer transferId = true ∧
      s.terminalPending = true ∧ s.cancelled = false
  | _ => False

variable {sources : OutgoingSources}

variable {event : Surroundings × OutgoingEvent}

theorem keeps_step (hseparate : ¬ s.Overlaps event.2)
    (herases : ∀ fault, event.2 ≠ .recoveryRemovalErases fault)
    (hfinished : event.2 ≠ .recoveryRemovalFinished)
    (hstep : s.step runtime sources event.1 event.2 = some s') :
    Keeps runtime s.recoveryQueue s'.recoveryQueue := by
  obtain ⟨env, event⟩ := event
  unfold step at hstep
  cases event with
  | manifestPrepared manifest plan =>
    dsimp only at hstep
    split at hstep
    · obtain rfl := Option.some.inj hstep
      exact .of_eq keeps_finishManifestPreparation rfl
    · exact nomatch hstep
  | pause =>
    obtain rfl := Option.some.inj hstep
    exact keeps_pause
  | resume =>
    obtain rfl := Option.some.inj hstep
    exact keeps_resume
  | cancel options =>
    obtain rfl := Option.some.inj hstep
    refine keeps_cancel fun hlive => ?_
    by_contra hpending
    exact hseparate ⟨by simpa using hpending, hlive⟩
  | remoteCommand peer command =>
    obtain rfl := Option.some.inj hstep
    dsimp only
    split
    · rename_i haddressed
      refine keeps_applyRemoteCommand fun transferId reason keepPartial hcommand hlive => ?_
      subst hcommand
      by_contra hpending
      exact hseparate ⟨haddressed, by simpa using hpending, hlive⟩
    · exact .refl
  | peerReady =>
    obtain rfl := Option.some.inj hstep
    exact keeps_offerPreparedTransfers
  | offerTimer =>
    dsimp only at hstep
    split at hstep
    · obtain rfl := Option.some.inj hstep
      exact .of_eq keeps_offerPreparedTransfers rfl
    · exact nomatch hstep
  | transferAccept peer acceptance =>
    obtain rfl := Option.some.inj hstep
    dsimp only
    split
    · exact keeps_handleTransferAccept
    · exact .refl
  | transferReject peer rejection =>
    obtain rfl := Option.some.inj hstep
    dsimp only
    split
    · exact keeps_handleTransferReject
    · exact .refl
  | resumeResponse peer response =>
    obtain rfl := Option.some.inj hstep
    dsimp only
    split
    · exact keeps_handleResumeResponse
    · exact .refl
  | fileResult peer result =>
    obtain rfl := Option.some.inj hstep
    dsimp only
    split
    · exact keeps_handleFileResult
    · exact .refl
  | manifestPageTimer =>
    dsimp only at hstep
    split at hstep
    · obtain rfl := Option.some.inj hstep
      exact .of_eq keeps_sendNextManifestPage rfl
    · exact nomatch hstep
  | writeCapacityAvailable =>
    obtain rfl := Option.some.inj hstep
    dsimp only
    split
    · exact .refl
    · exact keeps_scheduleSenderPump
  | senderProduces =>
    rw [recoveryQueue_senderProduces hstep]
    exact .refl
  | senderFinished =>
    dsimp only at hstep
    split at hstep
    · obtain rfl := Option.some.inj hstep
      exact .of_eq keeps_dispatchSenderPumpResult rfl
    · exact nomatch hstep
  | recoverySaveWrites fault => exact keeps_recoverySaveWrites hstep
  | recoverySaveFinished =>
    dsimp only at hstep
    split at hstep
    · rename_i hsave
      obtain ⟨result, -, rfl⟩ := Option.map_eq_some_iff.mp hstep
      exact keeps_recoverySaveFinished hsave
    · exact nomatch hstep
  | recoveryRemovalErases fault => exact absurd rfl (herases fault)
  | recoveryRemovalFinished => exact absurd rfl hfinished
  | connectionLost =>
    obtain rfl := Option.some.inj hstep
    exact keeps_markOutgoingConnectionLost

theorem serialised_cancelled {control : Option TransferControlStateMachine}
    {snapshot : TransferSnapshot} (h : Serialised runtime s.recoveryQueue) :
    Serialised runtime ({ s with
      control, snapshot, cancelled := true, terminalPending := true }.removeOutgoingRecovery runtime
        env completion).recoveryQueue :=
  serialised_removeOutgoingRecovery { h with }

theorem serialised_overlapping (hoverlaps : s.Overlaps event.2)
    (hstep : s.step runtime sources event.1 event.2 = some s')
    (h : Serialised runtime s.recoveryQueue) : Serialised runtime s'.recoveryQueue := by
  obtain ⟨env, event⟩ := event
  dsimp only at hoverlaps hstep
  unfold Overlaps at hoverlaps
  unfold step at hstep
  split at hoverlaps
  · obtain rfl := Option.some.inj hstep
    unfold cancel
    split
    · exact h
    · split
      · exact h
      · exact serialised_cancelled h
  · obtain rfl := Option.some.inj hstep
    split
    · unfold applyRemoteCommand
      split
      · exact h
      · dsimp only
        split
        · exact h
        · split
          · exact h
          · exact serialised_cancelled h
    · exact h
  · exact hoverlaps.elim

theorem recoveryQueue_step (hseparate : ¬ s.Overlaps event.2)
    (hstep : s.step runtime sources event.1 event.2 = some s') :
    Keeps runtime s.recoveryQueue s'.recoveryQueue ∨
      (∃ fault, event.2 = .recoveryRemovalErases fault ∧
        s.recoveryRemovalErases fault = some s') ∨
      s.recoveryRemoval.isSome = true ∧
        ∃ result, s' = s.recoveryRemovalFinished event.1 result := by
  by_cases herases : ∃ fault, event.2 = .recoveryRemovalErases fault
  · obtain ⟨fault, hevent⟩ := herases
    rw [hevent] at hstep
    exact .inr (.inl ⟨fault, hevent, hstep⟩)
  · by_cases hfinished : event.2 = .recoveryRemovalFinished
    · rw [hfinished] at hstep
      unfold step at hstep
      dsimp only at hstep
      split at hstep
      · rename_i hremoval
        obtain ⟨result, -, rfl⟩ := Option.map_eq_some_iff.mp hstep
        exact .inr (.inr ⟨Option.isSome_iff_exists.mpr ⟨_, hremoval⟩, result, rfl⟩)
      · exact nomatch hstep
    · exact .inl (keeps_step hseparate (not_exists.mp herases) hfinished hstep)

theorem serialised_step (hstep : s.step runtime sources event.1 event.2 = some s')
    (h : Serialised runtime s.recoveryQueue) : Serialised runtime s'.recoveryQueue := by
  by_cases hoverlaps : s.Overlaps event.2
  · exact serialised_overlapping hoverlaps hstep h
  · rcases recoveryQueue_step hoverlaps hstep with
      hkeeps | ⟨fault, -, herases⟩ | ⟨hremoval, result, rfl⟩
    · exact hkeeps.serialised h
    · obtain ⟨hremoval, result, stored, -, hqueue⟩ := recoveryQueue_recoveryRemovalErases herases
      rw [hqueue]
      exact { h with
        exclusive := fun _ => h.exclusive hremoval
        blocked := fun _ => h.blocked (.inr hremoval)
        storeless := fun hnone => by
          have hnone : s.recoveryRemoval = none := (h.storeless hnone).2.2.2
          rw [hnone] at hremoval
          exact nomatch hremoval }
    · exact serialised_recoveryRemovalFinished hremoval h

theorem orderly_step (hseparate : ¬ s.Overlaps event.2)
    (hstep : s.step runtime sources event.1 event.2 = some s')
    (hserialised : Serialised runtime s.recoveryQueue) (h : Orderly s.recoveryQueue) :
    Orderly s'.recoveryQueue := by
  rcases recoveryQueue_step hseparate hstep with
    hkeeps | ⟨fault, -, herases⟩ | ⟨hremoval, result, rfl⟩
  · exact hkeeps.orderly hserialised h
  · obtain ⟨hremoval, result, stored, -, hqueue⟩ := recoveryQueue_recoveryRemovalErases herases
    rw [hqueue]
    refine ⟨h.history, fun hidle => ?_, fun hpending => ⟨(h.busy hpending).1, ?_⟩⟩
    · exact nomatch (congrArg Option.isSome (h.idle hidle).2.1).symm.trans hremoval
    · rcases (h.busy hpending).2 with ⟨-, hnone, -⟩ | ⟨hremove, -⟩
      · exact nomatch (congrArg Option.isSome hnone).symm.trans hremoval
      · exact .inr ⟨hremove, rfl⟩
  · have hpending : s.terminalPending = true := by
      by_contra hidle
      have hidle : s.terminalPending = false := by simpa using hidle
      have hnone := (h.idle hidle).2.1
      exact nomatch (congrArg Option.isSome hnone).symm.trans hremoval
    obtain ⟨completion, hcompletion⟩ := Option.isSome_iff_exists.mp (h.busy hpending).1
    rw [recoveryQueue_recoveryRemovalFinished hcompletion]
    refine ⟨?_, fun _ => ⟨?_, rfl, rfl⟩, nofun⟩
    · have hhistory : s.removeRequests = s.removeRuns ++ s.recoveryRemoveCompletion.toList :=
        h.history
      have hcompletion : s.recoveryRemoveCompletion = some completion := hcompletion
      rw [hcompletion] at hhistory
      exact hhistory.trans (List.append_nil _).symm
    · rcases (h.busy hpending).2 with ⟨-, hnone, -⟩ | ⟨hremove, -⟩
      · exact nomatch (congrArg Option.isSome hnone).symm.trans hremoval
      · exact hremove

theorem recoveryQueue_start (hstart : (outgoingMachine runtime sources).start s) :
    Serialised runtime s.recoveryQueue ∧ Orderly s.recoveryQueue := by
  have hfresh (h : s.recoveryQueue = { s.recoveryQueue with
      terminalPending := false, removePending := false, removal := none, completion := none
      savePending := false, save := none, requests := [], runs := [] }) :
      Serialised runtime s.recoveryQueue ∧ Orderly s.recoveryQueue := by
    rw [h]
    exact ⟨⟨fun _ => rfl, fun _ => rfl, fun _ => ⟨rfl, rfl, rfl, rfl⟩, nofun, nofun⟩,
      ⟨rfl, fun _ => ⟨rfl, rfl, rfl⟩, nofun⟩⟩
  refine hfresh ?_
  rcases hstart with ⟨id, target, items, options, peerName, name, now, rfl⟩ |
    ⟨env, state, manifest, plan, peerName, hhydrate⟩
  · rfl
  · unfold hydrate at hhydrate
    split at hhydrate
    · exact nomatch hhydrate
    · obtain ⟨control, -, rfl⟩ := Option.map_eq_some_iff.mp hhydrate
      rfl

open Lifecycle
open TransferControlStateMachine (initialized_of_pause_ok initialized_of_advance_ok
  advance_state_of_ok initialized_of_resume_ok isTerminal)

def Revives (s : OutgoingState) : OutgoingEvent → Prop
  | .resumeResponse peer response => s.addressed peer response.transferId = true ∧
      s.lifecycle.Closed ∧ s.terminalPending = false ∧ s.AcceptsResponse response
  | _ => False

variable {transferId : TransferId}

theorem holds_remotePause : Holds runtime s.lifecycle
    (s.applyRemoteCommand runtime env (.pause transferId)).lifecycle := by
  unfold applyRemoteCommand
  split
  · exact Moves.refl.holds
  · rename_i control hcontrol
    dsimp only
    split
    · exact Moves.refl.holds
    · split
      · exact Moves.refl.holds
      · rename_i hok
        exact holds_publish hcontrol (initialized_of_pause_ok (not_not.mp hok)) .pause

theorem holds_remoteResume : Holds runtime s.lifecycle
    (s.applyRemoteCommand runtime env (.resume transferId)).lifecycle := by
  unfold applyRemoteCommand
  split
  · exact Moves.refl.holds
  · rename_i control hcontrol
    dsimp only
    split
    · exact Moves.refl.holds
    · rcases @resumeControl_cases env control with
        ⟨diagnostic, herror⟩ | ⟨control', hok, hfollows, hinit, -⟩
      · rw [herror]
        dsimp only
        rw [← hcontrol]
        exact Moves.refl.holds
      · rw [hok]
        refine .of_base fun h => ?_
        obtain ⟨last, hlast, -, hbase⟩ := @resent_base runtime env s _ _ hcontrol hinit hfollows h
        dsimp only
        rw [hlast]
        refine ⟨fun _ => hbase, fun _ _ other hother => ?_⟩
        obtain rfl := Option.some.inj hother
        exact .inl rfl

theorem holds_handleTransferAccept {qt : QtText} {acceptance : TransferAccept} :
    Holds runtime s.lifecycle
      (s.handleTransferAccept runtime env qt acceptance).lifecycle := by
  by_cases hquiet : s.AcceptsOffer qt acceptance
  · obtain ⟨offerState, control, hoffer, hcontrol, haccepted, hwaiting⟩ := hquiet
    refine .of_base fun h => ?_
    have hoffered : ¬ s.lifecycle.Unoffered := fun h => nomatch h.2.1.symm.trans hoffer
    have hanswered : Moves runtime s.lifecycle
        { s with offerState := some (offerState.receiveAccept qt acceptance).2 }.lifecycle :=
      moves_offerState (h.started_of_offered hoffered) (prepared_of_control h hcontrol)
    unfold handleTransferAccept
    rw [hoffer, hcontrol]
    dsimp only
    rw [if_neg (not_not.mpr haccepted)]
    refine hanswered.holds.trans ?_
    split
    · rename_i hrefused
      rcases control.advance_cases env.now .queued with ⟨hsame, -⟩ | ⟨-, -, -, hset⟩
      · rw [hsame, ← hcontrol]
        exact (moves_failOutgoing (by decide)).holds
      · rw [hset] at hrefused
        exact absurd TransferControlStateMachine.setState_ok hrefused
    · rename_i hqueued
      have hqueued := not_not.mp hqueued
      have hinit := initialized_of_advance_ok hqueued
      have hfollows : Follows control (control.advance env.now .queued).2 :=
        .advance (by simp [Ended])
      have hpublished : Holds runtime
          { s with offerState := some (offerState.receiveAccept qt acceptance).2 }.lifecycle
          ({ s with
            offerState := some (offerState.receiveAccept qt acceptance).2
            effectiveConflictPolicy := acceptance.effectiveConflictPolicy }.publishControl
              (control.advance env.now .queued).2).lifecycle :=
        holds_publish hcontrol hinit hfollows
      refine .trans hpublished (.of_base fun hbase => ?_)
      split
      · exact Moves.refl.holds
      · refine .of_eq (moves_persistOutgoing fun hclosed => .inr ?_).holds rfl
        have hpending := hbase.pending_of_live hclosed rfl (hfollows.1.trans hinit)
          (by rw [advance_state_of_ok hqueued]; rfl)
        exact (hbase.pending hpending).2.1
  · exact (moves_handleTransferAccept fun _ => hquiet).holds

theorem holds_restored {control control' : TransferControlStateMachine}
    (hcontrol : s.control = some control) (hinit : control'.initialized = true)
    (hresuming : control'.snapshot.state = .resuming)
    (hquiet : s.lifecycle.Closed → s.terminalPending = true) :
    Holds runtime s.lifecycle (s.publishControl control').lifecycle := by
  refine ⟨fun h => { h with
    started := fun other hother => ?_
    unprepared := fun hpreparing => by cases (prepared_of_control h hcontrol).symm.trans hpreparing
    ends := fun other hother hended => ?_
    underway := fun _ _ => ⟨control', rfl, by rw [hresuming]; simp [Underway]⟩
    completable := fun completion hcompletion =>
      (h.completable completion hcompletion).mono id fun _ => rfl
    ended := fun hended => .inr ?_
    finished := fun hclosed hidle => ?_ }, fun _ _ other hother => ?_⟩
  · obtain rfl := Option.some.inj hother
    exact .inl hinit
  · obtain rfl := Option.some.inj hother
    rw [hresuming] at hended
    simp [Ended] at hended
  · rcases hended with hcancelled | hterminal
    · exact hquiet (.inl hcancelled)
    · have hterminal : isTerminal control'.snapshot.state = true := hterminal
      rw [hresuming] at hterminal
      cases hterminal
  · cases hidle.symm.trans (hquiet (closed_of_restored hresuming hclosed))
  · obtain rfl := Option.some.inj hother
    exact .inl rfl

theorem holds_handleResumeResponse {response : ResumeResponseMessage}
    (hquiet : s.lifecycle.Closed → s.AcceptsResponse response → s.terminalPending = true) :
    Holds runtime s.lifecycle (s.handleResumeResponse runtime env response).lifecycle := by
  refine .of_base fun h => ?_
  unfold handleResumeResponse
  split
  · rename_i query manifest control hasked hmanifest hcontrol
    split
    · exact Moves.refl.holds
    · rename_i hquery
      have hquery : s.resumeQueryPending = true := by simpa using hquery
      have hoffered : ¬ s.lifecycle.Unoffered := fun h => nomatch h.2.2.symm.trans hquery
      have hstarted := h.started_of_offered hoffered
      have hprepared : s.preparing = false := h.prepared (.inr (.inr (.inr hoffered)))
      split
      · exact (moves_failOutgoing (by decide)).holds
      · rename_i plan hplan
        have hbusy (hclosed : s.lifecycle.Closed) : s.terminalPending = true :=
          hquiet hclosed ⟨hquery, query, manifest, plan, hasked, hmanifest, hplan⟩
        have hopen (hclosed : s.lifecycle.Closed) : runtime.hasRecoveryStore = false ∨
            s.recoveryRemovePending = true ∨ s.recoveryRemoveRunning = true :=
          .inr (h.pending (hbusy hclosed)).2.1
        dsimp only
        split
        · exact Moves.holds (.of_eq (moves_continueResumed hstarted hprepared hopen) rfl)
        · split
          · exact Moves.holds (.of_eq (moves_failOutgoing (by decide)) rfl)
          · rename_i restored hrestored
            obtain ⟨hinit, hresuming⟩ := interruptedControl_resuming hrestored
            have hpublished := @holds_restored runtime s control restored hcontrol hinit hresuming
              hbusy
            refine hpublished.trans
              (Moves.holds (.of_eq (moves_continueResumed ?_ hprepared fun hclosed => ?_) rfl))
            · intro other hother
              obtain rfl := Option.some.inj hother
              exact hinit
            · exact hopen (closed_of_restored hresuming hclosed)
  · exact Moves.refl.holds

theorem holds_step (hquiet : ¬ s.Revives event.2)
    (hstep : s.step runtime sources event.1 event.2 = some s') :
    Holds runtime s.lifecycle s'.lifecycle := by
  by_cases hallowed : s.Undisturbed runtime sources event
  · exact (moves_step hallowed hstep).holds
  · obtain ⟨env, event⟩ := event
    obtain ⟨hclosed, hdisturbs⟩ := Classical.not_imp.mp hallowed
    have hdisturbs := not_not.mp hdisturbs
    dsimp only at hdisturbs hquiet hstep
    unfold Disturbs at hdisturbs
    unfold step at hstep
    split at hdisturbs
    · obtain rfl := Option.some.inj hstep
      rw [if_pos (by exact hdisturbs.1)]
      exact holds_remotePause
    · obtain rfl := Option.some.inj hstep
      rw [if_pos (by exact hdisturbs.1)]
      exact holds_remoteResume
    · obtain rfl := Option.some.inj hstep
      rw [if_pos hdisturbs.1]
      exact holds_handleTransferAccept
    · obtain rfl := Option.some.inj hstep
      rw [if_pos hdisturbs.1]
      refine holds_handleResumeResponse fun hclosed haccepts => ?_
      by_contra hidle
      exact hquiet ⟨hdisturbs.1, hclosed, by simpa using hidle, haccepts⟩
    · exact hdisturbs.elim

theorem remotePause_of_settled (hsettled : s.lifecycle.Settled) :
    s.applyRemoteCommand runtime env (.pause transferId) = s := by
  unfold applyRemoteCommand
  split
  · rfl
  · rename_i control hcontrol
    dsimp only
    split
    · rfl
    · split
      · rfl
      · rename_i hok
        have hok := not_not.mp hok
        have hterminal := hsettled.2 control hcontrol (initialized_of_pause_ok hok)
        rcases control.pause_cases env.now with ⟨-, hpaused⟩ | ⟨-, htransferring, -⟩
        · rw [hpaused hok] at hterminal
          exact nomatch hterminal
        · rw [htransferring] at hterminal
          exact nomatch hterminal

theorem remoteResume_of_settled (hsettled : s.lifecycle.Settled) :
    (s.applyRemoteCommand runtime env (.resume transferId)).lifecycle = s.lifecycle := by
  unfold applyRemoteCommand
  split
  · rfl
  · rename_i control hcontrol
    dsimp only
    split
    · rfl
    · rcases @resumeControl_cases env control with
        ⟨diagnostic, herror⟩ | ⟨control', hok, -, hinit, -, hfrom⟩
      · rw [herror]
        dsimp only
        rw [← hcontrol]
      · have hterminal := hsettled.2 control hcontrol hinit
        rcases hfrom with hstate | hstate | hstate <;> rw [hstate] at hterminal <;>
          exact nomatch hterminal

theorem final_step (hbase : Base runtime s.lifecycle) (hsynced : s.lifecycle.Synced)
    (hclosed : s.lifecycle.Closed) (hidle : s.terminalPending = false)
    (hquiet : ¬ s.Revives event.2) (hstep : s.step runtime sources event.1 event.2 = some s') :
    Final s.lifecycle s'.lifecycle := by
  by_cases hallowed : s.Undisturbed runtime sources event
  · exact (moves_step hallowed hstep).final hbase hsynced hclosed
  · have hsettled : s.lifecycle.Settled := by
      have hended : s.lifecycle.cancelled = true ∨ isTerminal s.lifecycle.published = true :=
        hclosed.imp_right Ended.terminal
      exact (hbase.ended hended).resolve_right fun hpending => nomatch hidle.symm.trans hpending
    obtain ⟨env, event⟩ := event
    have hdisturbs := not_not.mp (Classical.not_imp.mp hallowed).2
    dsimp only at hdisturbs hquiet hstep
    unfold Disturbs at hdisturbs
    unfold step at hstep
    split at hdisturbs
    · obtain rfl := Option.some.inj hstep
      rw [if_pos (by exact hdisturbs.1), remotePause_of_settled hsettled]
      exact .refl hclosed
    · obtain rfl := Option.some.inj hstep
      rw [if_pos (by exact hdisturbs.1), remoteResume_of_settled hsettled]
      exact .refl hclosed
    · obtain ⟨-, offerState, control, hoffer, hcontrol, -, hwaiting⟩ := hdisturbs
      have hoffered : ¬ s.lifecycle.Unoffered := fun h => nomatch h.2.1.symm.trans hoffer
      have hterminal := hsettled.2 control hcontrol
        (hbase.started_of_offered hoffered control hcontrol)
      rw [hwaiting] at hterminal
      exact nomatch hterminal
    · exact absurd ⟨hdisturbs.1, hclosed, hidle, hdisturbs.2.1⟩ hquiet
    · exact hdisturbs.elim

theorem closed_recoveryRemovalFinished (hcompletion : s.recoveryRemoveCompletion = some completion)
    (hruns : s.lifecycle.Runs completion) :
    (s.recoveryRemovalFinished env result).lifecycle.Closed := by
  unfold recoveryRemovalFinished
  rw [hcompletion]
  have hfinishes := @runRemoveCompletion_finishes env
    { s with recoveryRemoval := none, recoveryRemoveCompletion := none } completion result hruns
  exact hfinishes.isClosed

/-- No cancellation meets the removal of a complete transfer, and no resume response is taken once
the removal is over. -/
def Separate (s : OutgoingState) (event : Surroundings × OutgoingEvent) : Prop :=
  ¬ s.Overlaps event.2 ∧ ¬ s.Revives event.2

/-- What holds in every run of separate events. -/
structure Sound (runtime : FileTransferRuntime) (s : OutgoingState) : Prop where
  serialised : Serialised runtime s.recoveryQueue
  orderly : Orderly s.recoveryQueue
  base : Base runtime s.lifecycle
  synced : s.lifecycle.Synced

theorem sound_start (hstart : (outgoingMachine runtime sources).start s) : Sound runtime s :=
  ⟨(recoveryQueue_start hstart).1, (recoveryQueue_start hstart).2, (base_start hstart).1,
    (base_start hstart).2⟩

theorem sound_step (h : Sound runtime s) (hallowed : s.Separate event)
    (hstep : s.step runtime sources event.1 event.2 = some s') : Sound runtime s' where
  serialised := serialised_step hstep h.serialised
  orderly := orderly_step hallowed.1 hstep h.serialised h.orderly
  base := (holds_step hallowed.2 hstep).base h.base
  synced := (holds_step hallowed.2 hstep).synced h.base h.synced

/-- Nothing is stored, and nothing is going to be. -/
def Removed (s : OutgoingState) : Prop :=
  s.stored = none ∧ s.recoverySave = none ∧
    (s.recoveryRemoval.isSome = true ∨ s.lifecycle.Closed)

theorem removed_step (h : Sound runtime s) (hremoved : s.Removed) (hallowed : s.Separate event)
    (hstep : s.step runtime sources event.1 event.2 = some s') : s'.Removed := by
  obtain ⟨hstored, hsave, hover⟩ := hremoved
  have hsound := sound_step h hallowed hstep
  rcases hremoval : s.recoveryRemoval.isSome
  · have hclosed : s.lifecycle.Closed :=
      hover.resolve_left fun hsome => nomatch hremoval.symm.trans hsome
    have hidle : s.terminalPending = false := by
      by_contra hpending
      have hpending : s.terminalPending = true := by simpa using hpending
      rcases (h.orderly.busy hpending).2 with ⟨-, -, hsome⟩ | ⟨-, hsome⟩
      · exact nomatch (congrArg Option.isSome hsave).symm.trans hsome
      · exact nomatch hremoval.symm.trans hsome
    have hfinal := final_step h.base h.synced hclosed hidle hallowed.2 hstep
    refine ⟨?_, ?_, .inr hfinal.closed⟩
    · rcases hfinal.stored with hsame | hnone | ⟨save, saved, hsome, -⟩
      · exact hsame.trans hstored
      · exact hnone
      · exact nomatch hsave.symm.trans hsome
    · rcases hnext : s'.recoverySave with _ | save
      · rfl
      · obtain ⟨before, hbefore, -⟩ := hfinal.saves save hnext
        exact nomatch hsave.symm.trans hbefore
  · rcases recoveryQueue_step hallowed.1 hstep with
      hkeeps | ⟨fault, -, herases⟩ | ⟨-, result, rfl⟩
    · obtain ⟨hsame, hsameStored⟩ := hkeeps.steady h.serialised hremoval
      have hsome : s'.recoveryRemoval.isSome = true :=
        (congrArg Option.isSome hsame).trans hremoval
      exact ⟨hsameStored.trans hstored, hsound.serialised.exclusive hsome, .inl hsome⟩
    · obtain ⟨-, result, stored, hstored', hqueue⟩ := recoveryQueue_recoveryRemovalErases herases
      refine ⟨(congrArg RecoveryQueue.stored hqueue).trans ?_,
        (congrArg RecoveryQueue.save hqueue).trans hsave,
        .inl (congrArg Option.isSome (congrArg RecoveryQueue.removal hqueue))⟩
      rcases hstored' with ⟨hsame, -⟩ | hnone
      · exact hsame.trans hstored
      · exact hnone
    · have hpending : s.terminalPending = true := by
        by_contra hidle
        have hidle : s.terminalPending = false := by simpa using hidle
        have hnone := (h.orderly.idle hidle).2.1
        exact nomatch (congrArg Option.isSome hnone).symm.trans hremoval
      obtain ⟨completion, hcompletion⟩ := Option.isSome_iff_exists.mp (h.orderly.busy hpending).1
      have hqueue := @recoveryQueue_recoveryRemovalFinished event.1 s result completion hcompletion
      exact ⟨(congrArg RecoveryQueue.stored hqueue).trans hstored,
        (congrArg RecoveryQueue.save hqueue).trans hsave,
        .inr (closed_recoveryRemovalFinished hcompletion (h.base.completable completion hcompletion))⟩

theorem sound_of_reachable
    (hreach : (outgoingMachine runtime sources).Reachable Separate s) : Sound runtime s :=
  hreach.invariant (fun _ => sound_start) fun _ _ _ h hallowed hstep => sound_step h hallowed hstep

theorem removed_of_run {t : OutgoingState}
    (hreach : (outgoingMachine runtime sources).Reachable Separate s) (hremoved : s.Removed)
    (hrun : (outgoingMachine runtime sources).Run Separate s t) : t.Removed := by
  induction hrun with
  | refl => exact hremoved
  | tail hrun hallowed hstep ih =>
    exact removed_step (sound_of_reachable (hreach.run hrun)) ih hallowed hstep

end OutgoingState

/-- **Recovery persistence is serialised** in every run of separate events: a save and a removal are
never in flight together, the removals requested are gone on from in order and once each, but for
the one outstanding, nothing is left behind once neither is in flight, and from a successful removal
on nothing is stored. -/
theorem outgoing_recovery_serialised {runtime : FileTransferRuntime} {sources : OutgoingSources}
    {s : OutgoingState}
    (hreach : (outgoingMachine runtime sources).Reachable OutgoingState.Separate s) :
    (s.recoveryRemoval.isSome = true → s.recoverySave = none) ∧
      s.removeRequests = s.removeRuns ++ s.recoveryRemoveCompletion.toList ∧
      (s.recoverySave = none → s.recoveryRemoval = none →
        s.recoverySavePending = false ∧ s.recoveryRemovePending = false ∧
          s.terminalPending = false ∧ s.recoveryRemoveCompletion = none) ∧
      ∀ env erased t,
        (outgoingMachine runtime sources).step s (env, .recoveryRemovalErases none) = some erased →
        (outgoingMachine runtime sources).Run OutgoingState.Separate erased t → t.stored = none := by
  have hsound := OutgoingState.sound_of_reachable hreach
  refine ⟨hsound.serialised.exclusive, hsound.orderly.history, fun hsave hremoval => ?_,
    fun env erased t herases hrun => ?_⟩
  · have hidle : s.terminalPending = false := by
      by_contra hpending
      have hpending : s.terminalPending = true := by simpa using hpending
      rcases (hsound.orderly.busy hpending).2 with ⟨-, -, hsome⟩ | ⟨-, hsome⟩
      · exact nomatch (congrArg Option.isSome hsave).symm.trans hsome
      · exact nomatch (congrArg Option.isSome hremoval).symm.trans hsome
    obtain ⟨hremove, -, hcompletion⟩ := hsound.orderly.idle hidle
    refine ⟨?_, hremove, hidle, hcompletion⟩
    by_contra hdue
    have hdue : s.recoverySavePending = true := by simpa using hdue
    obtain ⟨-, save, hsome, -⟩ := hsound.serialised.waiting hdue
    exact nomatch hsave.symm.trans hsome
  · have hseparate : s.Separate (env, .recoveryRemovalErases none) := ⟨id, id⟩
    have herased : s.recoveryRemovalErases none = some erased := herases
    obtain ⟨hremoval, result, stored, hstored, hqueue⟩ :=
      OutgoingState.recoveryQueue_recoveryRemovalErases herased
    have hnone : stored = none := hstored.resolve_left fun h => h.2 rfl
    refine (OutgoingState.removed_of_run (hreach.run (.tail .refl hseparate herases))
      ⟨(congrArg RecoveryQueue.stored hqueue).trans hnone,
        (congrArg RecoveryQueue.save hqueue).trans (hsound.serialised.exclusive hremoval),
        .inl (congrArg Option.isSome (congrArg RecoveryQueue.removal hqueue))⟩ hrun).1

theorem outgoing_recovery_serialised_cancelledDone :
    (OutgoingAbc.cancelledDone.recoveryRemoval.isSome = true →
        OutgoingAbc.cancelledDone.recoverySave = none) ∧
      OutgoingAbc.cancelledDone.removeRequests = OutgoingAbc.cancelledDone.removeRuns ++
        OutgoingAbc.cancelledDone.recoveryRemoveCompletion.toList ∧
      (OutgoingAbc.cancelledDone.recoverySave = none →
        OutgoingAbc.cancelledDone.recoveryRemoval = none →
        OutgoingAbc.cancelledDone.recoverySavePending = false ∧
          OutgoingAbc.cancelledDone.recoveryRemovePending = false ∧
          OutgoingAbc.cancelledDone.terminalPending = false ∧
          OutgoingAbc.cancelledDone.recoveryRemoveCompletion = none) ∧
      ∀ env erased t,
        (outgoingMachine OutgoingAbc.runtime OutgoingAbc.sources).step OutgoingAbc.cancelledDone
          (env, .recoveryRemovalErases none) = some erased →
        (outgoingMachine OutgoingAbc.runtime OutgoingAbc.sources).Run OutgoingState.Separate
          erased t → t.stored = none := by
  have hcancel : OutgoingAbc.started.Separate (OutgoingAbc.ready, .cancel {}) :=
    ⟨(fun hoverlaps => nomatch hoverlaps.1), id⟩
  have hcancelled : (outgoingMachine OutgoingAbc.runtime OutgoingAbc.sources).Reachable
      OutgoingState.Separate OutgoingAbc.cancelledEarly :=
    ⟨OutgoingAbc.started, .inl ⟨_, _, _, _, _, _, _, rfl⟩, .tail .refl hcancel rfl⟩
  refine outgoing_recovery_serialised
    (hcancelled.run (Machine.run_of_exec_of_allowed ?_ (Option.some_get _).symm))
  intro state event hevent
  simp only [List.mem_cons, List.not_mem_nil, or_false] at hevent
  rcases hevent with rfl | rfl <;> exact ⟨id, id⟩

namespace OutgoingAbc

open Transfer.FileStreaming

def committing : OutgoingState :=
  ((outgoingMachine runtime sources).exec started
    (opening ++ frameSent ++ frameSent ++ frameSent ++ frameSent ++ frameSent ++
      [(ready, .fileResult peer {
        transferId := abcRequest.transferId, fileId := abcRequest.source.entry.id
        code := .ok, diagnostic := [] })])).get (by decide +kernel)

def cancelledCommitting : OutgoingState :=
  ((outgoingMachine runtime sources).exec committing
    [(ready, .cancel {}), (ready, .recoveryRemovalErases none),
      (ready, .recoveryRemovalFinished)]).get (by decide +kernel)

end OutgoingAbc

/-- A cancellation takes over the removal of a complete transfer: the completion that was stored for
it never runs, and the removal asked for again stays pending with nothing in flight. -/
theorem cancelled_completion_never_runs :
    (outgoingMachine OutgoingAbc.runtime OutgoingAbc.sources).Reachable (fun _ _ => True)
        OutgoingAbc.cancelledCommitting ∧
      OutgoingAbc.cancelledCommitting.recoverySave.isNone = true ∧
      OutgoingAbc.cancelledCommitting.recoveryRemoval.isNone = true ∧
      OutgoingAbc.cancelledCommitting.recoveryRemovePending = true ∧
      OutgoingAbc.cancelledCommitting.removeRequests = [.complete, .localCancel {}] ∧
      OutgoingAbc.cancelledCommitting.removeRuns = [.localCancel {}] := by
  have hcommitting : (outgoingMachine OutgoingAbc.runtime OutgoingAbc.sources).Reachable
      (fun _ _ => True) OutgoingAbc.committing :=
    ⟨OutgoingAbc.started, .inl ⟨_, _, _, _, _, _, _, rfl⟩,
      Machine.run_of_exec (Option.some_get _).symm⟩
  refine ⟨hcommitting.run (Machine.run_of_exec (Option.some_get _).symm), ?_, ?_, ?_, ?_, ?_⟩
  all_goals decide +kernel

end DeskflowPlus.App
