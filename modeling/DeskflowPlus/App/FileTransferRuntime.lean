import DeskflowPlus.App.OutgoingSession
import DeskflowPlus.Lib.Run
import DeskflowPlus.Transfer.FileStreaming

/-!
# The outgoing half of the file transfer runtime

Every event that reaches one outgoing session: the local caller's commands, the frames its peer
sends, the peer's connection coming and going, the runtime's own timers, and the worker pool
finishing what was handed to it. Events come in any order; a timer or a task only when one is due.
-/

namespace DeskflowPlus.App

open Transfer FileTransport

namespace OutgoingState

variable (runtime : FileTransferRuntime) (env : Surroundings)

/-! ### Local commands -/

def pause (s : OutgoingState) : OutgoingState :=
  let reject (diagnostic : String) := s.publishOperation .pause .rejected .invalidState diagnostic
  if s.paused ∧ ¬ s.cancelled then s.publishOperation .pause .idempotent .none ""
  else
    match s.control with
    | none => reject "Transfer cannot be paused in its current state"
    | some control =>
      if s.cancelled then reject "Transfer cannot be paused in its current state"
      else
        let (result, control) := control.pause env.now
        if ¬ result.ok then reject result.diagnostic
        else
          let s := { s with paused := true }.publishControl control
          match env.sendPeerFrame with
          | .error diagnostic => s.failOutgoing runtime env .connectionLost diagnostic
          | .ok () => s.publishOperation .pause .applied .none ""

/-- Out of the pause, straight on to sending; or the diagnostic, and the machine as it is left. -/
def resumeControl (control : TransferControlStateMachine) :
    Except (String × TransferControlStateMachine) TransferControlStateMachine :=
  let (resumed, control) := control.resume env.now
  if ¬ resumed.ok then .error (resumed.diagnostic, control)
  else
    let (advanced, control) := control.advance env.now .transferring
    if ¬ advanced.ok then .error (resumed.diagnostic, control) else .ok control

def resume (s : OutgoingState) : OutgoingState :=
  let reject (diagnostic : String) := s.publishOperation .resume .rejected .invalidState diagnostic
  if ¬ s.paused ∧ ¬ s.cancelled ∧ s.snapshot.state = .transferring then
    s.publishOperation .resume .idempotent .none ""
  else
    match s.control with
    | none => reject "Transfer cannot be resumed in its current state"
    | some control =>
      if ¬ s.paused ∨ s.cancelled then reject "Transfer cannot be resumed in its current state"
      else
        match resumeControl env control with
        | .error (diagnostic, control) =>
          { s with control := some control }.publishOperation .resume .rejected .invalidState
            diagnostic
        | .ok control =>
          let s := { s with paused := false }.publishControl control
          match env.sendPeerFrame with
          | .error diagnostic => s.failOutgoing runtime env .connectionLost diagnostic
          | .ok () =>
            (s.scheduleSenderPump runtime env).publishOperation .resume .applied .none ""

def cancel (options : TransferCancelOptions) (s : OutgoingState) : OutgoingState :=
  if s.cancelled ∨ s.snapshot.state = .cancelled then
    s.publishOperation .cancel .idempotent .none ""
  else if TransferControlStateMachine.isTerminal s.snapshot.state then
    s.publishOperation .cancel .rejected .invalidState "Terminal transfer cannot be cancelled"
  else
    { s with cancelled := true, terminalPending := true }.removeOutgoingRecovery runtime env
      (.localCancel options)

/-! ### Commands of the peer -/

def applyRemoteCommand (command : TransferCommandMessage) (s : OutgoingState) : OutgoingState :=
  match s.control with
  | none => s
  | some control =>
    match command with
    | .pause _ =>
      if s.paused then s
      else
        let (result, control) := control.pause env.now
        if ¬ result.ok then s
        else { s with paused := true }.publishControl control
    | .resume _ =>
      if ¬ s.paused then s
      else
        match resumeControl env control with
        | .error (_, control) => { s with control := some control }
        | .ok control =>
          -- The pump runs before the snapshot is published from whatever it leaves.
          let s := { s with paused := false, control := some control }.scheduleSenderPump
            runtime env
          match s.control with
          | some control => s.publishControl control
          | none => s
    | .cancel _ _ _ =>
      if s.cancelled ∨ s.snapshot.state = .cancelled then s
      else
        let (cancelled, control) := control.cancel env.now
        if ¬ cancelled.ok then s
        else
          { s.publishControl control with
            cancelled := true, terminalPending := true }.removeOutgoingRecovery runtime env
              .remoteCancel

/-! ### From the manifest to the offer -/

def sendOffer (s : OutgoingState) : OutgoingState :=
  match env.negotiatedCapabilities, s.manifest, s.pagePlan, s.control with
  | some negotiated, some manifest, some plan, some control =>
    if ¬ negotiated.peerCanReceiveFiles then
      s.failOutgoing runtime env .offerFailed "Peer did not advertise file.receive.v1 capability"
    else
      let offer : TransferOffer := {
        transferId := s.id, displayName := manifest.summary.displayName
        totalBytes := manifest.summary.totalBytes, fileCount := manifest.summary.fileCount
        directoryCount := manifest.summary.directoryCount
        manifestSha256 := manifest.summary.canonicalSha256, manifestPageCount := plan.pageCount
        requestedConflictPolicy := s.options.conflictPolicy
        createdAtMs := env.now.toMSecsSinceEpoch.toNat }
      let (begun, offerState) := TransferOfferStateMachine.beginOutgoing
        { capabilities := negotiated } offer
      if ¬ begun.ok then s.failOutgoing runtime env .offerFailed begun.diagnostic
      else
        match env.sendPeerFrame with
        | .error diagnostic => s.failOutgoing runtime env .offerFailed diagnostic
        | .ok () =>
          let (waiting, control) := advanceThrough env control .offered .waitingForAcceptance
          let s := { s with offerState := some offerState }
          if ¬ waiting then
            { s with control := some control }.failOutgoing runtime env .offerFailed
              "Outgoing transfer state could not enter acceptance wait"
          else s.publishControl control
  | _, _, _, _ => s

def finishManifestPreparation (manifest : Except String TransferManifest)
    (plan : Except String ManifestPagePlan) (s : OutgoingState) : OutgoingState :=
  if s.cancelled then s
  else
    match manifest with
    | .error diagnostic => s.failOutgoing runtime env .manifestBuildFailed diagnostic
    | .ok manifest =>
      let s := { s with manifest := some manifest }
      match plan with
      | .error diagnostic => s.failOutgoing runtime env .manifestBuildFailed diagnostic
      | .ok plan =>
        let snapshot := { s.snapshot with
          displayName := manifest.summary.displayName
          progress := { s.snapshot.progress with
            totalBytes := manifest.summary.totalBytes
            totalFiles := manifest.summary.fileCount } }
        let (initialized, control) :=
          TransferControlStateMachine.initializeSnapshot { snapshot }
        let s := { s with pagePlan := some plan, snapshot, control := some control }
        if ¬ initialized.ok then
          s.failOutgoing runtime env .manifestBuildFailed initialized.diagnostic
        else
          let s := s.publishControl control
          match env.connectFault with
          | some diagnostic => s.failOutgoing runtime env .connectionLost diagnostic
          | none => if env.isPeerReady then s.sendOffer runtime env else s

/-! ### Resuming after a drop -/

def sendResumeQuery (s : OutgoingState) : OutgoingState :=
  match s.manifest, s.control with
  | some manifest, some control =>
    if ¬ s.interrupted ∨ s.resumeQueryPending then s
    else if ¬ env.negotiatedCapabilities.any (resumeFeature ∈ ·.features) then
      s.failOutgoing runtime env .connectionLost
        "Peer did not negotiate resume.v1 after transfer interruption"
    else
      let query : ResumeQueryMessage := {
        transferId := s.id, manifestSha256 := manifest.summary.canonicalSha256 }
      match ResumeMessageCodec.encode (.query query), env.sendPeerFrame with
      | .ok _, .ok () =>
        let (resumed, control) := control.resume env.now
        if ¬ resumed.ok then s.failOutgoing runtime env .connectionLost resumed.diagnostic
        else
          { s with resumeQuery := some query, resumeQueryPending := true }.publishControl control
      | _, _ => s
  | _, _ => s

def offerPreparedTransfers (s : OutgoingState) : OutgoingState :=
  if s.interrupted ∧ ¬ s.cancelled then
    if s.senderTaskRunning then { s with offerTimers := s.offerTimers + 1 }
    else s.sendResumeQuery runtime env
  else if s.manifest.isSome ∧ s.pagePlan.isSome ∧ s.offerState.isNone ∧ ¬ s.cancelled then
    s.sendOffer runtime env
  else s

def interruptedControl (initial : TransferSnapshot) (resuming : Bool) :
    Option TransferControlStateMachine := do
  let step (result : TransferControlResult × TransferControlStateMachine) :
      Option TransferControlStateMachine :=
    if result.1.ok then some result.2 else none
  let control ← step (TransferControlStateMachine.initializeSnapshot { snapshot := initial })
  let control ← step (control.advance env.now .offered)
  let control ← step (control.advance env.now .waitingForAcceptance)
  let control ← step (control.advance env.now .queued)
  let control ← step (control.advance env.now .transferring)
  let control ← step (control.interrupt env.now)
  if resuming then step (control.resume env.now) else some control

/-- How far the files a response reports take the session. -/
structure ResumePosition where
  completedBytes : Nat := 0
  completedFiles : Nat := 0
  currentEntry : Nat := 0

/-- A file counts as committed when it is reported at its full size, an empty one when it is not
reported; the scan stops at the first file that is not committed. -/
def resumePosition (offsets : List (FileId × Nat)) :
    List PreparedManifestEntry → Nat → ResumePosition → ResumePosition
  | [], _, position => position
  | source :: rest, index, position =>
    let entry := source.entry
    if entry.type = .directory then
      resumePosition offsets rest (index + 1) { position with currentEntry := index + 1 }
    else
      let reported := offsets.lookup entry.id
      let offset := reported.getD 0
      let position := { position with completedBytes := position.completedBytes + offset }
      if (entry.size = 0 ∧ reported.isNone) ∨
          (entry.size ≠ 0 ∧ reported.isSome ∧ offset = entry.size) then
        resumePosition offsets rest (index + 1) { position with
          completedFiles := position.completedFiles + 1, currentEntry := index + 1 }
      else { position with currentEntry := index }

/-- What is left of the snapshot when a hydrated session learns its real progress. -/
def authoritativeSnapshot (s : OutgoingState) : TransferSnapshot :=
  { s.snapshot with
    state := .preparing
    progress := { s.snapshot.progress with
      completedBytes := s.completedBytes, completedFiles := s.completedFiles
      bytesPerSecond := .finite 0, estimatedRemaining := none }
    currentRelativeDisplayPath := []
    errorCode := .none
    canPause := false, canResume := false, canCancel := false, canRetry := false
    finishedUtc := {} }

/-- The session takes its place after the scan and starts on the manifest again. -/
def continueResumed (s : OutgoingState) : OutgoingState :=
  let s := { s with
    nextManifestPage := 0, sender := none, awaitingFileResult := false
    pendingStatus := .progressed, resumeQueryPending := false, interrupted := false }
  let s := s.updateOutgoingProgress.persistOutgoing runtime env
  { s with pageTimers := s.pageTimers + 1 }

def handleResumeResponse (response : ResumeResponseMessage) (s : OutgoingState) :
    OutgoingState :=
  match s.resumeQuery, s.manifest, s.control with
  | some query, some manifest, some _ =>
    if ¬ s.resumeQueryPending then s
    else
      match ResumeNegotiator.validateResponse query response
          (manifest.entries.map PreparedManifestEntry.entry) with
      | .error (_, diagnostic) => s.failOutgoing runtime env .connectionLost diagnostic
      | .ok plan =>
        let resumeOffsets := plan.files.map fun file => (file.fileId, file.durableOffset)
        let position := resumePosition resumeOffsets manifest.entries 0 {}
        let s := { s with
          resumeOffsets
          completedBytes := position.completedBytes
          completedFiles := position.completedFiles
          currentEntry := position.currentEntry }
        if ¬ s.hydratedFromRecovery then s.continueResumed runtime env
        else
          match interruptedControl env s.authoritativeSnapshot true with
          | none =>
            s.failOutgoing runtime env .connectionLost
              "Receiver durable progress could not restore the sender state"
          | some control =>
            { s.publishControl control with hydratedFromRecovery := false }.continueResumed
              runtime env
  | _, _, _ => s

/-! ### The answer to the offer, and the manifest's pages -/

variable (qt : QtText)

def handleTransferAccept (acceptance : TransferAccept) (s : OutgoingState) : OutgoingState :=
  match s.offerState, s.control with
  | some offerState, some control =>
    let (accepted, offerState) := offerState.receiveAccept qt acceptance
    let s := { s with offerState := some offerState }
    if ¬ accepted.ok then s.failOutgoing runtime env .offerFailed accepted.diagnostic
    else
      let (queued, control) := control.advance env.now .queued
      if ¬ queued.ok then
        { s with control := some control }.failOutgoing runtime env .offerFailed accepted.diagnostic
      else
        let s := { s with
          effectiveConflictPolicy := acceptance.effectiveConflictPolicy }.publishControl control
        if ¬ runtime.hasRecoveryStore then { s with pageTimers := s.pageTimers + 1 }
        else { s with waitingForInitialRecovery := true }.persistOutgoing runtime env
  | _, _ => s

def handleTransferReject (rejection : TransferReject) (s : OutgoingState) : OutgoingState :=
  match s.offerState, s.control with
  | some offerState, some control =>
    { s with offerState := some (offerState.receiveReject rejection).2 }.publishControl
      (control.advance env.now .rejected).2
  | _, _ => s

def sendNextManifestPage (s : OutgoingState) : OutgoingState :=
  match s.manifest, s.pagePlan with
  | some _, some plan =>
    if s.cancelled then s
    else
      match env.sendPeerFrame with
      | .error diagnostic => s.failOutgoing runtime env .offerFailed diagnostic
      | .ok () =>
        if s.nextManifestPage < plan.pageCount then
          { s with nextManifestPage := s.nextManifestPage + 1, pageTimers := s.pageTimers + 1 }
        else s.startNextOutgoingFile runtime env
  | _, _ => s

/-! ### The sender's results and the peer's -/

def dispatchSenderPumpResult (generation : Nat) (result : SenderPumpResult) (s : OutgoingState) :
    OutgoingState :=
  if generation ≠ s.senderGeneration then
    if s.interrupted ∧ env.isPeerReady then s.offerPreparedTransfers runtime env else s
  else if s.cancelled ∨ s.interrupted then s
  else if result.status = .failed then
    s.failOutgoing runtime env .senderFailed result.diagnostic
  else
    let s := { s with pendingStatus := result.status }
    if result.status = .finished ∧ s.pendingFrame.isNone then
      { s with awaitingFileResult := true }
    else s.scheduleSenderPump runtime env

def targetSkipped : QString := QString.literal "TARGET_SKIPPED"

def fileAnswered (result : FileResultMessage) : Bool :=
  result.code = .ok || (result.code = .targetExists && result.diagnostic = targetSkipped)

def handleFileResult (result : FileResultMessage) (s : OutgoingState) : OutgoingState :=
  match s.entries[s.currentEntry]? with
  | none => s
  | some source =>
    if ¬ s.awaitingFileResult ∨ source.entry.id ≠ result.fileId then s
    else if ¬ fileAnswered result then s.failOutgoing runtime env .peerFileFailed ""
    else
      let s := { s with
        completedFiles := s.completedFiles + 1, currentEntry := s.currentEntry + 1
        sender := none, awaitingFileResult := false }
      s.updateOutgoingProgress.startNextOutgoingFile runtime env

/-! ### The recovery state's save and removal -/

def recoverySaveFinished (save : RecoverySave) (result : Except String Unit) (s : OutgoingState) :
    OutgoingState :=
  let s := { s with recoverySave := none }
  if s.recoveryRemovePending then s.startOutgoingRecoveryRemoval runtime
  else if save.generation ≠ s.recoveryGeneration ∧ s.recoverySavePending then
    s.startOutgoingRecoverySave runtime env
  else
    match result with
    | .error diagnostic =>
      { s with waitingForInitialRecovery := false }.failOutgoing runtime env .senderFailed
        diagnostic
    | .ok () =>
      if ¬ s.waitingForInitialRecovery then s
      else
        let s := { s with waitingForInitialRecovery := false }
        if ¬ s.cancelled ∧ ¬ s.interrupted ∧ ¬ s.terminalPending then
          { s with pageTimers := s.pageTimers + 1 }
        else s

def recoveryRemovalFinished (result : Except String Unit) (s : OutgoingState) : OutgoingState :=
  let completion := s.recoveryRemoveCompletion
  let s := { s with recoveryRemoval := none, recoveryRemoveCompletion := none }
  match completion with
  | none => s
  | some completion => s.runRemoveCompletion env completion result

/-! ### Losing the connection -/

def markOutgoingConnectionLost (s : OutgoingState) : OutgoingState :=
  if s.cancelled ∨ s.terminalPending ∨
      TransferControlStateMachine.isTerminal s.snapshot.state then s
  else
    let s := { s with
      paused := false, resumeQueryPending := false, resumeQuery := none
      awaitingFileResult := false, senderGeneration := s.senderGeneration + 1, sender := none }
    match s.control with
    | none => { s with interrupted := false }.failOutgoing runtime env .connectionLost ""
    | some control =>
      let (interrupted, control) := control.interrupt env.now
      if ¬ interrupted.ok then
        { s with interrupted := false }.failOutgoing runtime env .connectionLost ""
      else ({ s with interrupted := true }.publishControl control).persistOutgoing runtime env

end OutgoingState

/-! ### Events -/

inductive OutgoingEvent where
  | manifestPrepared (manifest : Except String TransferManifest)
      (plan : Except String ManifestPagePlan)
  | pause
  | resume
  | cancel (options : TransferCancelOptions)
  | remoteCommand (peer : DeviceId) (command : TransferCommandMessage)
  | peerReady
  | offerTimer
  | transferAccept (peer : DeviceId) (acceptance : TransferAccept)
  | transferReject (peer : DeviceId) (rejection : TransferReject)
  | resumeResponse (peer : DeviceId) (response : ResumeResponseMessage)
  | fileResult (peer : DeviceId) (result : FileResultMessage)
  | manifestPageTimer
  | writeCapacityAvailable
  | senderProduces
  | senderFinished
  | recoverySaveWrites (fault : Option String)
  | recoverySaveFinished
  | recoveryRemovalErases (fault : Option String)
  | recoveryRemovalFinished
  | connectionLost

/-- What the runtime's machine is built over: the source each pull of each worker finds. -/
structure OutgoingSources where
  qt : QtText
  sha : Sha256
  views : Nat → Nat → SourceView

namespace OutgoingState

variable (runtime : FileTransferRuntime) (sources : OutgoingSources) (env : Surroundings)

/-- A frame that names this session, from the session's peer. -/
def addressed (s : OutgoingState) (peer : DeviceId) (transferId : TransferId) : Bool :=
  s.id = transferId && s.peer = peer

def senderProduces (s : OutgoingState) : Option OutgoingState :=
  match s.senderTask with
  | some { worker := id, generation, result := none } =>
    (s.workers[id]?).map fun worker =>
      let (result, worker) := worker.produce sources.qt sources.sha (sources.views id)
      { s with
        workers := s.workers.set id worker
        senderTask := some { worker := id, generation, result := some result } }
  | _ => none

def recoverySaveWrites (fault : Option String) (s : OutgoingState) : Option OutgoingState :=
  match s.recoverySave with
  | some { generation, state, result := none } =>
    match state, fault with
    | .error diagnostic, _ | .ok _, some diagnostic =>
      some { s with recoverySave := some { generation, state, result := some (.error diagnostic) } }
    | .ok saved, none =>
      some { s with
        recoverySave := some { generation, state, result := some (.ok ()) }, stored := some saved }
  | _ => none

def recoveryRemovalErases (fault : Option String) (s : OutgoingState) : Option OutgoingState :=
  match s.recoveryRemoval with
  | some { result := none } =>
    match fault with
    | some diagnostic =>
      some { s with recoveryRemoval := some { result := some (.error diagnostic) } }
    | none =>
      some { s with recoveryRemoval := some { result := some (.ok ()) }, stored := none }
  | _ => none

/-- One event, or `none` where it is not due. -/
def step (s : OutgoingState) : OutgoingEvent → Option OutgoingState
  | .manifestPrepared manifest plan =>
    if s.preparing then
      some ({ s with preparing := false }.finishManifestPreparation runtime env manifest plan)
    else none
  | .pause => some (s.pause runtime env)
  | .resume => some (s.resume runtime env)
  | .cancel options => some (s.cancel runtime env options)
  | .remoteCommand peer command =>
    some (if s.addressed peer command.transferId then s.applyRemoteCommand runtime env command
      else s)
  | .peerReady => some (s.offerPreparedTransfers runtime env)
  | .offerTimer =>
    if 0 < s.offerTimers then
      some ({ s with offerTimers := s.offerTimers - 1 }.offerPreparedTransfers runtime env)
    else none
  | .transferAccept peer acceptance =>
    some (if s.addressed peer acceptance.transferId then
        s.handleTransferAccept runtime env sources.qt acceptance
      else s)
  | .transferReject peer rejection =>
    some (if s.addressed peer rejection.transferId then s.handleTransferReject env rejection else s)
  | .resumeResponse peer response =>
    some (if s.addressed peer response.transferId then
        s.handleResumeResponse runtime env response
      else s)
  | .fileResult peer result =>
    some (if s.addressed peer result.transferId then s.handleFileResult runtime env result else s)
  | .manifestPageTimer =>
    if 0 < s.pageTimers then
      some ({ s with pageTimers := s.pageTimers - 1 }.sendNextManifestPage runtime env)
    else none
  | .writeCapacityAvailable =>
    some (if s.cancelled then s else s.scheduleSenderPump runtime env)
  | .senderProduces => s.senderProduces sources
  | .senderFinished =>
    match s.senderTask with
    | some { worker := _, generation, result := some result } =>
      some ({ s with senderTask := none }.dispatchSenderPumpResult runtime env generation result)
    | _ => none
  | .recoverySaveWrites fault => s.recoverySaveWrites fault
  | .recoverySaveFinished =>
    match s.recoverySave with
    | some save => save.result.map fun result => s.recoverySaveFinished runtime env save result
    | none => none
  | .recoveryRemovalErases fault => s.recoveryRemovalErases fault
  | .recoveryRemovalFinished =>
    match s.recoveryRemoval with
    | some removal => removal.result.map fun result => s.recoveryRemovalFinished env result
    | none => none
  | .connectionLost => some (s.markOutgoingConnectionLost runtime env)

/-! ### Sessions as they start -/

/-- The session `send` makes, with its manifest in preparation. -/
def create (id : TransferId) (target : DeviceId) (localItems : List QString)
    (options : SendOptions) (peerDisplayName displayName : QString) (now : QDateTime) :
    OutgoingState :=
  { id, peer := target, localItems, options
    snapshot := {
      id, peerId := target, peerDisplayName, displayName, canCancel := true, createdUtc := now }
    preparing := true }

def hydrate (state : OutgoingRecoveryState) (manifest : TransferManifest)
    (plan : ManifestPagePlan) (peerDisplayName : QString) : Option OutgoingState :=
  if ¬ runtime.hasRecoveryStore ∨ state.localDeviceId ≠ runtime.localDeviceId ∨
      env.trustedFingerprint ≠ some state.peerFingerprintSha256 ∨
      manifest.entries ≠ state.entries ∨ manifest.summary ≠ state.summary ∨
      plan.binding ≠ state.pagePlan then none
  else
    let currentPath :=
      match manifest.entries[state.progress.currentEntry]? with
      | some source => source.entry.relativeProtocolPath
      | none => []
    let initial : TransferSnapshot := {
      id := state.transferId, peerId := state.peerDeviceId, peerDisplayName
      displayName := state.summary.displayName
      progress := {
        completedBytes := state.progress.completedBytes, totalBytes := state.summary.totalBytes
        completedFiles := state.progress.completedFiles, totalFiles := state.summary.fileCount }
      currentRelativeDisplayPath := currentPath
      createdUtc := state.createdUtc }
    (interruptedControl env initial false).map fun control =>
      { id := state.transferId, peer := state.peerDeviceId
        localItems := state.sourceRoots.map RecoverySource.canonicalPath
        options := state.sendOptions, snapshot := control.snapshot
        manifest := some manifest, pagePlan := some plan, control := some control
        currentEntry := state.progress.currentEntry
        completedBytes := state.progress.completedBytes
        completedFiles := state.progress.completedFiles
        effectiveConflictPolicy := state.effectiveConflictPolicy
        interrupted := true, hydratedFromRecovery := true
        offerTimers := if env.isPeerReady then 1 else 0
        stored := some state }

end OutgoingState

def outgoingMachine (runtime : FileTransferRuntime) (sources : OutgoingSources) :
    Machine OutgoingState (Surroundings × OutgoingEvent) where
  start s :=
    (∃ id target localItems options peerDisplayName displayName now,
        s = .create id target localItems options peerDisplayName displayName now) ∨
      ∃ env state manifest plan peerDisplayName,
        OutgoingState.hydrate runtime env state manifest plan peerDisplayName = some s
  step s event := s.step runtime sources event.1 event.2

/-! A session that sends one three-byte file in chunks of one byte. -/

namespace OutgoingAbc

open Transfer.FileStreaming

def runtime : FileTransferRuntime where
  localDeviceId := ⟨10, by decide⟩

def peer : DeviceId := ⟨3, three_nonNull⟩

def sources : OutgoingSources where
  qt := .ascii
  sha := abcSha256
  views _ _ := abcView

def manifest : TransferManifest where
  entries := [abcRequest.source]
  summary :=
    { id := abcRequest.transferId
      displayName := QString.literal "a.txt"
      totalBytes := 3
      fileCount := 1
      canonicalSha256 := List.replicate 32 9 }

def plan : ManifestPagePlan where
  transferId := abcRequest.transferId
  ranges := [{ firstEntry := 0, entryCount := 1 }]
  entryCount := 1
  totalMetadataBytes := 100

def ready : Surroundings where
  connection := some {}
  negotiated := some {
    features := [resumeFeature], chunkBytes := 1, maxManifestEntries := 10
    conflictPolicies := [.autoRename], peerCanReceiveFiles := true }
  trustedFingerprint := some (List.replicate 32 5)
  now := ⟨some 3000⟩

/-- The peer's socket has no room left. -/
def full : Surroundings :=
  { ready with connection := some { queuedWriteBytes := 16 * 1024 * 1024 } }

def started : OutgoingState :=
  .create abcRequest.transferId peer [abcRequest.source.canonicalSourcePath] {}
    (QString.literal "Peer") (QString.literal "a.txt") ⟨some 2000⟩

def acceptance : TransferAccept where
  transferId := abcRequest.transferId
  logicalDestination := QString.literal "Inbox"

def opening : List (Surroundings × OutgoingEvent) :=
  [(ready, .manifestPrepared (.ok manifest) (.ok plan)), (ready, .transferAccept peer acceptance),
    (ready, .recoverySaveWrites none), (ready, .recoverySaveFinished),
    (ready, .manifestPageTimer), (ready, .manifestPageTimer)]

/-- The sender's next frame, over the bridge to the connection. -/
def frameSent : List (Surroundings × OutgoingEvent) :=
  [(ready, .senderProduces), (ready, .senderFinished)]

end OutgoingAbc

end DeskflowPlus.App
