import DeskflowPlus.App.SenderFrameBridge
import DeskflowPlus.Transfer.ResumeNegotiator
import DeskflowPlus.Transfer.TransferOfferStateMachine
import DeskflowPlus.Transfer.TransferRecoveryStore

/-!
# One outgoing session: its recovery state, its failure and its sender

The session's fields with the work the runtime has outstanding for it: the sender's task on the
worker pool, the save or removal of the recovery state, and the zero timers. A flag of the source
that says whether such a work is running is here whether there is one. What the surroundings answer
while one event is handled (the peer's connection, the clock, the trust store) is a `Surroundings`.
-/

namespace DeskflowPlus.App

open Transfer FileTransport
open TransferControlStateMachine (isTerminal)

structure FileTransferRuntime where
  localDeviceId : DeviceId
  hasRecoveryStore : Bool := true

/-- The answers one event meets: the peer's connection and what was negotiated on it, the fault of a
control frame's encoding or write, whether a connection attempt starts, the fingerprint of a peer
that is trusted and not revoked, and the time. -/
structure Surroundings where
  connection : Option FileTlsConnection := none
  negotiated : Option NegotiatedCapabilities := none
  sendFault : Option String := none
  connectFault : Option String := none
  trustedFingerprint : Option QByteArray := none
  now : QDateTime := {}

namespace Surroundings

def negotiatedCapabilities (env : Surroundings) : Option NegotiatedCapabilities :=
  if env.connection.isSome then env.negotiated else none

def isPeerReady (env : Surroundings) : Bool := env.negotiatedCapabilities.isSome

def sendPeerFrame (env : Surroundings) : Except String Unit :=
  if ¬ env.isPeerReady then .error "Peer file channel is not ready"
  else
    match env.sendFault with
    | some diagnostic => .error diagnostic
    | none => .ok ()

end Surroundings

/-- What a removal of the recovery state goes on with. -/
inductive RecoveryRemoveCompletion where
  | localCancel (options : TransferCancelOptions)
  | remoteCancel
  | failure (errorCode : TransferErrorCode) (diagnostic : String)
  | complete
  deriving DecidableEq

/-- A call of a sender's `produce` on the worker pool, with its result once it ran. -/
structure SenderTask where
  worker : Nat
  generation : Nat
  result : Option SenderPumpResult := none

/-- A save on the worker pool: what it saves, unless the manifest does not match the selected roots,
and its result once it ran. -/
structure RecoverySave where
  generation : Nat
  state : Except String OutgoingRecoveryState
  result : Option (Except String Unit) := none

structure RecoveryRemoval where
  result : Option (Except String Unit) := none

structure OutgoingSession where
  id : TransferId
  peer : DeviceId
  localItems : List QString
  options : SendOptions
  snapshot : TransferSnapshot
  manifest : Option TransferManifest := none
  pagePlan : Option ManifestPagePlan := none
  offerState : Option TransferOfferStateMachine := none
  control : Option TransferControlStateMachine := none
  /-- Which of the workers the session's sender is. -/
  sender : Option Nat := none
  pendingStatus : SenderPumpStatus := .progressed
  nextManifestPage : Nat := 0
  currentEntry : Nat := 0
  completedBytes : Nat := 0
  completedFiles : Nat := 0
  effectiveConflictPolicy : ConflictPolicy := .autoRename
  resumeOffsets : List (FileId × Nat) := []
  resumeQuery : Option ResumeQueryMessage := none
  senderGeneration : Nat := 0
  awaitingFileResult : Bool := false
  paused : Bool := false
  interrupted : Bool := false
  resumeQueryPending : Bool := false
  cancelled : Bool := false
  recoveryGeneration : Nat := 0
  recoverySavePending : Bool := false
  waitingForInitialRecovery : Bool := false
  recoveryRemovePending : Bool := false
  terminalPending : Bool := false
  hydratedFromRecovery : Bool := false
  recoveryRemoveCompletion : Option RecoveryRemoveCompletion := none

/-- The session with everything outstanding for it: every sender made so far, the tasks and timers,
what the recovery store holds, and the history of the session: the frames the connection took with
the worker each came from, the results reported to the callers, and the removals of the recovery
state requested and gone on from. -/
structure OutgoingState extends OutgoingSession where
  workers : List SenderWorkerState := []
  senderTask : Option SenderTask := none
  recoverySave : Option RecoverySave := none
  recoveryRemoval : Option RecoveryRemoval := none
  preparing : Bool := false
  offerTimers : Nat := 0
  pageTimers : Nat := 0
  stored : Option OutgoingRecoveryState := none
  accepted : List (Nat × Frame) := []
  operations : List TransferOperationResult := []
  removeRequests : List RecoveryRemoveCompletion := []
  removeRuns : List RecoveryRemoveCompletion := []

namespace OutgoingState

def senderTaskRunning (s : OutgoingState) : Bool := s.senderTask.isSome
def recoverySaveRunning (s : OutgoingState) : Bool := s.recoverySave.isSome
def recoveryRemoveRunning (s : OutgoingState) : Bool := s.recoveryRemoval.isSome

def entries (s : OutgoingState) : List PreparedManifestEntry :=
  match s.manifest with
  | some manifest => manifest.entries
  | none => []

def publishOperation (s : OutgoingState) (operation : TransferOperation)
    (outcome : TransferOperationOutcome) (error : TransferOperationError) (diagnostic : String) :
    OutgoingState :=
  { s with operations :=
      s.operations ++ [{ transferId := s.id, operation, outcome, error, diagnostic }] }

def publishControl (s : OutgoingState) (control : TransferControlStateMachine) : OutgoingState :=
  { s with control := some control, snapshot := control.snapshot }

variable (runtime : FileTransferRuntime) (env : Surroundings)

def updateOutgoingProgress (s : OutgoingState) : OutgoingState :=
  match s.control, s.manifest with
  | some control, some manifest =>
    let currentPath :=
      match manifest.entries[s.currentEntry]? with
      | some source => source.entry.relativeProtocolPath
      | none => []
    s.publishControl
      (control.updateProgress s.completedBytes s.completedFiles (.finite 0) none currentPath).2
  | _, _ => s

def failedControl (errorCode : TransferErrorCode) (s : OutgoingState) :
    Option TransferControlStateMachine :=
  match s.control with
  | none => none
  | some control =>
    if isTerminal control.snapshot.state then none
    else
      let (result, control) := control.fail env.now errorCode
      if result.ok then some control else none

def finishOutgoingFailure (errorCode : TransferErrorCode) (s : OutgoingState) : OutgoingState :=
  match s.failedControl env errorCode with
  | some control => { s.publishControl control with cancelled := true }
  | none =>
    if isTerminal s.snapshot.state then { s with cancelled := true }
    else
      { s with
        cancelled := true
        snapshot := { s.snapshot with
          state := .failed, errorCode, canCancel := false, canRetry := true
          finishedUtc := env.now } }

def cancelledSnapshot (s : OutgoingState) : TransferSnapshot :=
  { s.snapshot with state := .cancelled, canCancel := false, finishedUtc := env.now }

def finishLocalCancel (s : OutgoingState) : OutgoingState :=
  let announce (s : OutgoingState) := s.publishOperation .cancel .applied .none ""
  let reject (control : TransferControlStateMachine) (diagnostic : String) :=
    ({ s with control := some control }.finishOutgoingFailure env .senderFailed).publishOperation
      .cancel .rejected .invalidState diagnostic
  match s.control with
  | none => announce { s with snapshot := s.cancelledSnapshot env }
  | some control =>
    if isTerminal control.snapshot.state then
      announce { s with snapshot := s.cancelledSnapshot env }
    else
      let (cancelling, control) := control.cancel env.now
      if ¬ cancelling.ok then reject control cancelling.diagnostic
      else
        let (cancelled, control) := control.confirmCancelled env.now
        if ¬ cancelled.ok then reject control cancelled.diagnostic
        else announce (s.publishControl control)

def finishRemoteCancel (s : OutgoingState) : OutgoingState :=
  match s.control with
  | none => s
  | some control =>
    let (confirmed, control) := control.confirmCancelled env.now
    if ¬ confirmed.ok then
      { s with control := some control }.finishOutgoingFailure env .senderFailed
    else s.publishControl control

def finishCompletion (s : OutgoingState) : OutgoingState :=
  match s.control with
  | none => s
  | some control =>
    let (completed, control) := control.advance env.now .completed
    if ¬ completed.ok then
      { s with control := some control }.finishOutgoingFailure env .senderFailed
    else s.publishControl control

/-- What a removal goes on with, given its result. -/
def runRemoveCompletion (completion : RecoveryRemoveCompletion) (removed : Except String Unit)
    (s : OutgoingState) : OutgoingState :=
  let s := { s with terminalPending := false, removeRuns := s.removeRuns ++ [completion] }
  match completion, removed with
  | .failure errorCode _, _ => s.finishOutgoingFailure env errorCode
  | .localCancel _, .error diagnostic =>
    (s.finishOutgoingFailure env .senderFailed).publishOperation .cancel .rejected .transportFailed
      diagnostic
  | .remoteCancel, .error _ | .complete, .error _ => s.finishOutgoingFailure env .senderFailed
  | .localCancel _, .ok () => s.finishLocalCancel env
  | .remoteCancel, .ok () => s.finishRemoteCancel env
  | .complete, .ok () => s.finishCompletion env

def startOutgoingRecoveryRemoval (s : OutgoingState) : OutgoingState :=
  if ¬ s.recoveryRemovePending ∨ s.recoveryRemoveRunning ∨ ¬ runtime.hasRecoveryStore then s
  else { s with recoveryRemovePending := false, recoveryRemoval := some {} }

def removeOutgoingRecovery (completion : RecoveryRemoveCompletion) (s : OutgoingState) :
    OutgoingState :=
  let s := { s with removeRequests := s.removeRequests ++ [completion] }
  if ¬ runtime.hasRecoveryStore then s.runRemoveCompletion env completion (.ok ())
  else
    let s := { s with
      recoveryGeneration := s.recoveryGeneration + 1
      recoverySavePending := false
      recoveryRemovePending := true
      recoveryRemoveCompletion := some completion }
    if ¬ s.recoverySaveRunning ∧ ¬ s.recoveryRemoveRunning then
      s.startOutgoingRecoveryRemoval runtime
    else s

def failOutgoing (errorCode : TransferErrorCode) (diagnostic : String) (s : OutgoingState) :
    OutgoingState :=
  if s.terminalPending then s
  else
    { s with cancelled := true, terminalPending := true }.removeOutgoingRecovery runtime env
      (.failure errorCode diagnostic)

def sourceRoots (manifest : TransferManifest) : List RecoverySource :=
  (manifest.entries.filter fun source => 0x2f ∉ source.entry.relativeProtocolPath).map
    fun source =>
      { canonicalPath := source.canonicalSourcePath
        relativeProtocolPath := source.entry.relativeProtocolPath
        type := source.entry.type }

def recoveryState (s : OutgoingState) (manifest : TransferManifest) (plan : ManifestPagePlan)
    (fingerprint : QByteArray) : Except String OutgoingRecoveryState :=
  if (sourceRoots manifest).length ≠ s.localItems.length then
    .error "prepared manifest does not match selected recovery roots"
  else
    .ok {
      transferId := s.id, localDeviceId := runtime.localDeviceId, peerDeviceId := s.peer
      peerFingerprintSha256 := fingerprint, createdUtc := s.snapshot.createdUtc
      sendOptions := s.options, sourceRoots := sourceRoots manifest, entries := manifest.entries
      summary := manifest.summary, pagePlan := plan.binding
      effectiveConflictPolicy := s.effectiveConflictPolicy
      progress := {
        completedBytes := s.completedBytes, completedFiles := s.completedFiles
        currentEntry := s.currentEntry } }

def startOutgoingRecoverySave (s : OutgoingState) : OutgoingState :=
  match s.manifest, s.pagePlan with
  | some manifest, some plan =>
    if ¬ s.recoverySavePending ∨ s.recoverySaveRunning ∨ ¬ runtime.hasRecoveryStore then s
    else
      match env.trustedFingerprint with
      | none =>
        { s with recoverySavePending := false }.failOutgoing runtime env .senderFailed
          "Outgoing recovery state requires a trusted peer"
      | some fingerprint =>
        { s with
          recoverySavePending := false
          recoverySave := some {
            generation := s.recoveryGeneration
            state := s.recoveryState runtime manifest plan fingerprint } }
  | _, _ => s

def persistOutgoing (s : OutgoingState) : OutgoingState :=
  if ¬ runtime.hasRecoveryStore ∨ s.manifest.isNone ∨ s.pagePlan.isNone ∨
      s.recoveryRemovePending ∨ s.recoveryRemoveRunning then s
  else
    let s := { s with
      recoveryGeneration := s.recoveryGeneration + 1, recoverySavePending := true }
    if ¬ s.recoverySaveRunning then s.startOutgoingRecoverySave runtime env else s

def modifyWorker (s : OutgoingState) (id : Nat)
    (change : SenderWorkerState → SenderWorkerState) : OutgoingState :=
  { s with workers := s.workers.modify id change }

def pendingFrame (s : OutgoingState) : Option Frame :=
  s.sender.bind fun id => (s.workers[id]?).bind SenderWorkerState.pendingFrame

/-- A produce call is handed to the worker pool, unless the sender waits for capacity. -/
def startSenderTask (connection : FileTlsConnection) (id : Nat) (s : OutgoingState) :
    OutgoingState :=
  let s := s.modifyWorker id (·.updateTransportQueuedBytes connection.queuedWriteBytes)
  if (s.workers[id]?).all SenderWorkerState.readyToPump then
    { s with senderTask := some { worker := id, generation := s.senderGeneration } }
  else s

/-- The connection took the frame: the bridge lets it go, and a chunk counts as sent. -/
def frameAccepted (id : Nat) (frame : Frame) (s : OutgoingState) : OutgoingState :=
  let s := s.modifyWorker id SenderWorkerState.consumePendingFrame
  let s := { s with accepted := s.accepted ++ [(id, frame)] }
  if frame.type = .fileChunk then
    { s with completedBytes := s.completedBytes + frame.payload.length }.updateOutgoingProgress
  else s

def scheduleSenderPump (s : OutgoingState) : OutgoingState :=
  match s.sender with
  | none => s
  | some id =>
    if s.cancelled ∨ s.paused ∨ s.awaitingFileResult ∨ s.interrupted ∨ s.senderTaskRunning then
      s
    else
      match env.connection, env.isPeerReady with
      | some connection, true =>
        let s := s.modifyWorker id (·.updateTransportQueuedBytes connection.queuedWriteBytes)
        match s.pendingFrame with
        | none => s.startSenderTask connection id
        | some frame =>
          let queuedBeforeSubmit := connection.queuedWriteBytes
          let (submitted, connection) := fileTlsFrameSink.submit connection frame
          match submitted.status with
          | .backpressured =>
            if queuedBeforeSubmit = 0 then
              s.failOutgoing runtime env .senderFailed submitted.diagnostic
            else s
          | .failed => s.failOutgoing runtime env .senderFailed submitted.diagnostic
          | .accepted =>
            let s := s.frameAccepted id frame
            if s.pendingStatus = .finished then { s with awaitingFileResult := true }
            else s.startSenderTask connection id
      | _, _ =>
        s.failOutgoing runtime env .connectionLost "Peer file channel disconnected while sending"

def advanceThrough (control : TransferControlStateMachine) (first second : TransferState) :
    Bool × TransferControlStateMachine :=
  let (result, control) := control.advance env.now first
  if ¬ result.ok then (false, control)
  else
    let (result, control) := control.advance env.now second
    (result.ok, control)

def advanceFrom (control : TransferControlStateMachine) (states : List TransferState)
    (next : TransferState) : Bool × TransferControlStateMachine :=
  if control.snapshot.state ∈ states then
    let (result, control) := control.advance env.now next
    (result.ok, control)
  else (true, control)

def commitOutgoing (s : OutgoingState) : OutgoingState :=
  match s.control with
  | none => s
  | some control =>
    let (advanced, control) := advanceThrough env control .verifying .committing
    if ¬ advanced then
      { s with control := some control }.failOutgoing runtime env .senderFailed
        "Outgoing transfer could not complete its state sequence"
    else
      { s.publishControl control with terminalPending := true }.removeOutgoingRecovery
        runtime env .complete

def completeOutgoing (s : OutgoingState) : OutgoingState :=
  if s.terminalPending ∨ s.control.isNone then s
  else s.updateOutgoingProgress.commitOutgoing runtime env

def skipDirectories : List PreparedManifestEntry → Nat → Nat
  | [], index => index
  | source :: rest, index =>
    if source.entry.type = .directory then skipDirectories rest (index + 1) else index

def openSender (request : TransferSenderRequest) (connection : FileTlsConnection)
    (s : OutgoingState) : OutgoingState :=
  { s with
    workers := s.workers ++ [.create request (senderBackpressureLimits connection)]
    sender := some s.workers.length
    senderGeneration := s.senderGeneration + 1
    awaitingFileResult := false
    pendingStatus := .progressed }

def startNextOutgoingFile (s : OutgoingState) : OutgoingState :=
  match s.manifest, s.control with
  | some manifest, some control =>
    if s.cancelled then s
    else
      let currentEntry := skipDirectories (manifest.entries.drop s.currentEntry) s.currentEntry
      let s := { s with currentEntry }
      match manifest.entries[currentEntry]? with
      | none =>
        let (_, control) := advanceFrom env control [.queued] .transferring
        { s with control := some control }.completeOutgoing runtime env
      | some source =>
        match env.negotiatedCapabilities, env.connection with
        | some capabilities, some connection =>
          let request : TransferSenderRequest := {
            transferId := s.id, source, streamId := UInt64.ofNat (currentEntry + 1)
            chunkBytes := capabilities.chunkBytes
            startOffset := (s.resumeOffsets.lookup source.entry.id).getD 0 }
          let s := s.openSender request connection
          let (advanced, control) := advanceFrom env control [.queued, .resuming] .transferring
          let s := { s with control := some control }
          if ¬ advanced then
            s.failOutgoing runtime env .senderFailed
              "Outgoing transfer could not enter the transferring state"
          else s.updateOutgoingProgress.scheduleSenderPump runtime env
        | _, _ =>
          s.failOutgoing runtime env .connectionLost "Peer file channel is no longer ready"
  | _, _ => s

end OutgoingState

end DeskflowPlus.App
