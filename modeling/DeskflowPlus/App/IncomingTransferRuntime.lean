import DeskflowPlus.Lib.Run
import DeskflowPlus.Transfer.ResumeNegotiator
import DeskflowPlus.Transfer.TransferCommandCodec
import DeskflowPlus.Transfer.TransferOfferStateMachine
import DeskflowPlus.Transfer.TransferRecoveryStore
import Mathlib.Logic.Function.Basic

/-!
# The incoming half of the file transfer runtime

Every event that reaches an incoming session on the runtime's own thread: offers and the local answers
to them, commands of both sides, resume queries, a peer's connection going, sessions rebuilt from the
recovery store, and what the worker pool reports back. A receive pipeline runs on the pool; its
callbacks carry the generation it was started with, and what they report, and when, is left open.
-/

namespace DeskflowPlus.App

open Transfer
open TransferControlStateMachine (isTerminal)

structure IncomingSettings where
  qt : QtText
  localDeviceId : Option DeviceId := none
  hasRecoveryStore : Bool := true

/-- The answers one event meets: the trust store's, the clock's, and the resume store's of a receive
root with what its readings meet. -/
structure IncomingSurroundings where
  isTrusted : DeviceId → Bool := fun _ => true
  peerFingerprint : DeviceId → Option QByteArray := fun _ => none
  now : QDateTime := {}
  verifyNoLinkTraversal : Except String Unit := .ok ()
  resumeStore : QString → ResumeStore := fun _ => { states := fun _ => none }
  loadFault : StoreFault := none
  buildFault : StoreFault := none

structure ReceivePipeline where
  generation : UInt64
  resumeState : Option ResumeState := none
  recoveryDescriptor : Option IncomingRecoveryState := none
  paused : Bool := false

structure IncomingSession where
  peer : DeviceId
  peerDisplayName : QString
  peerTrusted : Bool
  peerAllowsAutoAccept : Bool
  offer : TransferOffer
  capabilities : NegotiatedCapabilities
  stateMachine : TransferOfferStateMachine
  /-- While a preflight is pending, the options it goes on with. -/
  acceptPreflight : Option ReceiveOptions := none
  receiveOptions : ReceiveOptions := { destinationRoot := [] }
  pipeline : Option ReceivePipeline := none
  resumeNegotiated : Bool := false
  lastResumeResponse : Option ResumeResponseMessage := none
  pipelineGeneration : UInt64 := 0
  /-- The identifier of the prompt. -/
  pendingConflict : Option QUuid := none
  pipelineSnapshot : TransferSnapshot

/-- The sessions, the recovery states that wait to be rebuilt with the one under validation, the
snapshots published of each transfer, newest first, and the results reported to the callers. -/
structure IncomingTransferRuntime where
  sessions : TransferId → Option IncomingSession := fun _ => none
  pending : List IncomingRecoveryState := []
  validating : Option IncomingRecoveryState := none
  published : TransferId → List TransferSnapshot := fun _ => []
  operations : List TransferOperationResult := []

def isReceivePipelineActive (state : TransferState) : Bool :=
  state = .queued || state = .transferring || state = .paused || state = .resuming

def logicalDestination (qt : QtText) (receiveRoot : QString) : QString :=
  let name := ((qt.cleanPath receiveRoot).reverse.takeWhile (· ≠ 0x2f)).reverse
  if qt.trimmed name = [] then QString.literal "RelayDesk" else name

namespace IncomingSession

def create (peer : DeviceId) (peerDisplayName : QString) (peerTrusted peerAllowsAutoAccept : Bool)
    (offer : TransferOffer) (capabilities : NegotiatedCapabilities) : IncomingSession where
  peer
  peerDisplayName
  peerTrusted
  peerAllowsAutoAccept
  offer
  capabilities
  stateMachine := { capabilities }
  resumeNegotiated := resumeFeature ∈ capabilities.features
  pipelineSnapshot :=
    { id := offer.transferId, peerId := peer, peerDisplayName, displayName := offer.displayName
      direction := .receiving, state := .waitingForAcceptance
      progress := { totalBytes := offer.totalBytes, totalFiles := offer.fileCount }
      canCancel := true, createdUtc := { msecs := some offer.createdAtMs } }

def setState (state : TransferState) (canPause canResume canCancel : Bool)
    (session : IncomingSession) : IncomingSession :=
  { session with pipelineSnapshot :=
      { session.pipelineSnapshot with state, canPause, canResume, canCancel } }

/-- The pipeline is let go of; what it still reports is of an older generation. -/
def dropPipeline (session : IncomingSession) : IncomingSession :=
  { session with
    pipeline := none
    pendingConflict := none
    pipelineGeneration := session.pipelineGeneration + 1 }

def setPaused (paused : Bool) (session : IncomingSession) : IncomingSession :=
  { session with pipeline := session.pipeline.map fun pipeline => { pipeline with paused } }

def restore (qt : QtText) (state : IncomingRecoveryState) (completedBytes completedFiles : Nat) :
    Option IncomingSession :=
  let session := create state.peerDeviceId state.peerDisplayName true false state.offer
    state.negotiatedCapabilities
  let (received, stateMachine) := session.stateMachine.receiveIncoming state.offer
  let (accepted, stateMachine) := stateMachine.acceptIncoming qt state.receiveOptions.conflictPolicy
    (logicalDestination qt state.receiveOptions.destinationRoot) quint64Max
    state.receiveOptions.acceptanceOrigin
  if ¬ received.ok ∨ ¬ accepted.ok then none
  else
    let session := { session with
      stateMachine
      receiveOptions := state.receiveOptions
      pipelineSnapshot := { session.pipelineSnapshot with
        progress := { session.pipelineSnapshot.progress with completedBytes, completedFiles } } }
    some (session.setState .interrupted false true true)

end IncomingSession

namespace IncomingTransferRuntime

def publishOperation (id : TransferId) (operation : TransferOperation)
    (outcome : TransferOperationOutcome) (error : TransferOperationError) (diagnostic : String)
    (r : IncomingTransferRuntime) : IncomingTransferRuntime :=
  { r with operations := r.operations ++ [{ transferId := id, operation, outcome, error, diagnostic }] }

def keep (id : TransferId) (session : IncomingSession) (r : IncomingTransferRuntime) :
    IncomingTransferRuntime :=
  { r with sessions := Function.update r.sessions id (some session) }

/-- `transferAdded` or `transferChanged`. -/
def publish (id : TransferId) (session : IncomingSession) (r : IncomingTransferRuntime) :
    IncomingTransferRuntime :=
  { r.keep id session with
    published := Function.update r.published id (session.pipelineSnapshot :: r.published id) }

variable (settings : IncomingSettings) (env : IncomingSurroundings)

def receiveOffer (peer : DeviceId) (peerDisplayName : QString)
    (peerTrusted peerAllowsAutoAccept : Bool) (capabilities : NegotiatedCapabilities)
    (offer : TransferOffer) (r : IncomingTransferRuntime) : Except String IncomingTransferRuntime :=
  if ¬ capabilities.localCanReceiveFiles then
    .error "incoming offer requires negotiated file.receive.v1"
  else if (r.sessions offer.transferId).isSome then .error "incoming transfer ID is already known"
  else
    let session := IncomingSession.create peer peerDisplayName peerTrusted peerAllowsAutoAccept offer
      capabilities
    let (received, stateMachine) := session.stateMachine.receiveIncoming offer
    if ¬ received.ok then .error received.diagnostic
    else .ok (r.keep offer.transferId { session with stateMachine })

def accept (id : TransferId) (options : ReceiveOptions) (r : IncomingTransferRuntime) :
    IncomingTransferRuntime :=
  match r.sessions id with
  | none =>
    r.publishOperation id .accept .rejected .unknownTransfer "Incoming transfer ID is unknown"
  | some session =>
    let state := session.stateMachine.snapshot.map (·.state)
    if state = some .accepted then r.publishOperation id .accept .idempotent .none ""
    else
      let invalidDestination : Bool :=
        options.destinationRoot ≠ [] && !settings.qt.isAbsolutePath options.destinationRoot
      let invalidAutomaticAcceptance : Bool :=
        options.acceptanceOrigin = .trustedDevicePolicy && !session.peerTrusted
      let trustRevoked : Bool := session.peerTrusted && !env.isTrusted session.peer
      if session.acceptPreflight.isSome ∨ state ≠ some .awaitingLocalDecision ∨
          invalidDestination ∨ invalidAutomaticAcceptance ∨ trustRevoked then
        r.publishOperation id .accept .rejected .invalidState
          (if session.acceptPreflight.isSome then "Receive-root preflight is already pending"
          else if trustRevoked then "Incoming transfer peer is no longer trusted"
          else "Incoming transfer cannot be accepted with the supplied state and options")
      else if options.destinationRoot = [] then
        r.publishOperation id .accept .rejected .invalidState "Receive root is empty"
      else r.keep id { session with acceptPreflight := some options }

def finishAcceptPreflight (id : TransferId) (safety : Except String Unit) (freeBytes : Nat)
    (r : IncomingTransferRuntime) : IncomingTransferRuntime :=
  match r.sessions id with
  | none => r
  | some session =>
    match session.acceptPreflight with
    | none => r
    | some options =>
      let session := { session with acceptPreflight := none }
      let reject (diagnostic : String) :=
        (r.keep id session).publishOperation id .accept .rejected .invalidState diagnostic
      if session.peerTrusted ∧ ¬ env.isTrusted session.peer then
        reject "Incoming transfer peer is no longer trusted"
      else
        match safety with
        | .error diagnostic => reject diagnostic
        | .ok () =>
          let (accepted, stateMachine) := session.stateMachine.acceptIncoming settings.qt
            options.conflictPolicy (logicalDestination settings.qt options.destinationRoot) freeBytes
            options.acceptanceOrigin
          if ¬ accepted.ok then reject accepted.diagnostic
          else
            let recoveryDescriptor : Option IncomingRecoveryState :=
              match settings.hasRecoveryStore, settings.localDeviceId,
                env.peerFingerprint session.peer with
              | true, some localDeviceId, some peerFingerprintSha256 =>
                some {
                  transferId := session.offer.transferId, localDeviceId
                  peerDeviceId := session.peer, peerFingerprintSha256
                  peerDisplayName := session.peerDisplayName, offer := session.offer
                  receiveOptions := options, negotiatedCapabilities := session.capabilities
                  offer_transferId := rfl }
              | _, _, _ => none
            let session := { session with
              stateMachine
              receiveOptions := options
              pipeline := some { generation := session.pipelineGeneration, recoveryDescriptor }
              pipelineSnapshot := { session.pipelineSnapshot with state := .queued } }
            (r.publish id session).publishOperation id .accept .applied .none ""

def reject (id : TransferId) (reason : RejectReason) (r : IncomingTransferRuntime) :
    IncomingTransferRuntime :=
  match r.sessions id with
  | none =>
    r.publishOperation id .reject .rejected .unknownTransfer "Incoming transfer ID is unknown"
  | some session =>
    let state := session.stateMachine.snapshot.map (·.state)
    if state = some .rejected then r.publishOperation id .reject .idempotent .none ""
    else if session.acceptPreflight.isSome ∨ state ≠ some .awaitingLocalDecision then
      r.publishOperation id .reject .rejected .invalidState
        "Incoming transfer cannot be rejected now"
    else
      let (rejected, stateMachine) := session.stateMachine.rejectIncoming reason []
      if ¬ rejected.ok then
        r.publishOperation id .reject .rejected .invalidState rejected.diagnostic
      else
        (r.keep id { session with stateMachine }).publishOperation id .reject .applied .none ""

def applyCommand (command : TransferCommandMessage) (session : IncomingSession)
    (r : IncomingTransferRuntime) : Except String IncomingTransferRuntime :=
  let id := command.transferId
  let state := session.pipelineSnapshot.state
  match command with
  | .pause _ =>
    if session.pipeline.isNone ∨ state ≠ .transferring ∧ state ≠ .queued then
      .error "incoming transfer cannot be paused in its current state"
    else
      .ok (r.publish id
        ((session.setPaused true).setState .paused false true session.pipelineSnapshot.canCancel))
  | .resume _ =>
    if session.pipeline.isNone ∨ state ≠ .paused then
      .error "incoming transfer cannot be resumed in its current state"
    else
      .ok (r.publish id ((session.setPaused false).setState .transferring true false
        session.pipelineSnapshot.canCancel))
  | .cancel _ _ _ =>
    if state = .cancelling ∨ state = .cancelled then .ok r
    else if session.pipeline.isNone then
      .error "incoming transfer cannot be cancelled in its current state"
    else .ok (r.publish id (session.dropPipeline.setState .cancelling false false false))

def receiveCommand (peer : DeviceId) (frame : Frame) (r : IncomingTransferRuntime) :
    Except String IncomingTransferRuntime :=
  if frame.streamId ≠ 0 ∨ frame.payload ≠ [] then
    .error "transfer command must use stream zero without payload"
  else
    match TransferCommandCodec.decode frame.version frame.type frame.metadata with
    | .error (_, diagnostic) => .error diagnostic
    | .ok command =>
      match r.sessions command.transferId with
      | none => .error "transfer command does not match an active incoming transfer"
      | some session =>
        if session.peer ≠ peer then
          .error "transfer command does not match an active incoming transfer"
        else r.applyCommand command session

/-- A cancelled pipeline has ended, and its partial files are gone unless they are kept. -/
def finishCancelCleanup (id : TransferId) (generation : UInt64) (result : Except String Unit)
    (r : IncomingTransferRuntime) : IncomingTransferRuntime :=
  match r.sessions id with
  | none => r
  | some current =>
    if current.pipelineGeneration ≠ generation ∨ current.pipelineSnapshot.state ≠ .cancelling then r
    else
      match result with
      | .error _ =>
        r.publish id { current with pipelineSnapshot := { current.pipelineSnapshot with
          state := .failed, errorCode := .internalError, canRetry := false
          finishedUtc := env.now } }
      | .ok () =>
        r.publish id { current with pipelineSnapshot := { current.pipelineSnapshot with
          state := .cancelled, finishedUtc := env.now } }

def validateLocalCommand (command : TransferCommandMessage) (r : IncomingTransferRuntime) :
    Except String DeviceId :=
  match r.sessions command.transferId with
  | none => .error "incoming transfer is unavailable"
  | some session =>
    let state := session.pipelineSnapshot.state
    if command.cancels ∧ (state = .cancelling ∨ state = .cancelled) then .ok session.peer
    else if session.pipeline.isNone then .error "incoming transfer is unavailable"
    else
      let valid : Bool := match command with
        | .pause _ => state = .queued || state = .transferring
        | .resume _ => state = .paused
        | .cancel _ _ _ => state ≠ .cancelling && !isTerminal state
      if ¬ valid then .error "incoming transfer cannot apply this control in its current state"
      else .ok session.peer

def applyLocalCommand (command : TransferCommandMessage) (r : IncomingTransferRuntime) :
    Except String (TransferOperationOutcome × IncomingTransferRuntime) :=
  match r.sessions command.transferId with
  | none => .error "incoming transfer is unknown"
  | some session =>
    let state := session.pipelineSnapshot.state
    let outcome : TransferOperationOutcome :=
      if command.cancels ∧ (state = .cancelling ∨ state = .cancelled) then .idempotent else .applied
    match TransferCommandCodec.encode command with
    | .error diagnostic => .error diagnostic
    | .ok metadata =>
      match r.receiveCommand session.peer
          { type := TransferCommandCodec.messageType command, flags := FrameFlag.ackRequired
            metadata } with
      | .error diagnostic => .error diagnostic
      | .ok r => .ok (outcome, r)

def peerDisconnected (peer : DeviceId) (r : IncomingTransferRuntime) : IncomingTransferRuntime :=
  let interrupts (session : IncomingSession) : Bool :=
    session.peer = peer && session.pipeline.isSome &&
      isReceivePipelineActive session.pipelineSnapshot.state
  let leave (session : IncomingSession) : IncomingSession :=
    if interrupts session then
      { session.dropPipeline with lastResumeResponse := none }.setState .interrupted false true true
    else if session.peer = peer then { session with pendingConflict := none }
    else session
  { r with
    sessions := fun id => (r.sessions id).map leave
    published := fun id =>
      match r.sessions id with
      | some session =>
        if interrupts session then (leave session).pipelineSnapshot :: r.published id
        else r.published id
      | none => r.published id }

def buildResumeResponse (peer : DeviceId) (query : ResumeQueryMessage) (session : IncomingSession) :
    Except String (ResumeState × ResumeResponseMessage) :=
  match env.verifyNoLinkTraversal with
  | .error diagnostic => .error diagnostic
  | .ok () =>
    let store := env.resumeStore session.receiveOptions.destinationRoot
    match store.load query.transferId env.loadFault with
    | .error (_, diagnostic) => .error diagnostic
    | .ok state =>
      if state.peerDeviceId ≠ peer then .error "resume state belongs to a different peer"
      else
        match ResumeNegotiator.buildResponse store query env.buildFault with
        | .error (_, diagnostic) => .error diagnostic
        | .ok response =>
          match ResumeMessageCodec.encode (.response response) with
          | .error diagnostic => .error diagnostic
          | .ok _ => .ok (state, response)

def receiveResumeQuery (peer : DeviceId) (decoded : Except String ResumeQueryMessage)
    (r : IncomingTransferRuntime) : Except String IncomingTransferRuntime :=
  match decoded with
  | .error diagnostic => .error diagnostic
  | .ok query =>
    match r.sessions query.transferId with
    | none => .error "resume query is not bound to an interrupted negotiated transfer"
    | some session =>
      if session.peer ≠ peer ∨ ¬ session.resumeNegotiated ∨
          query.manifestSha256 ≠ session.offer.manifestSha256 then
        .error "resume query is not bound to an interrupted negotiated transfer"
      else
        match session.pipelineSnapshot.state, session.lastResumeResponse with
        | .resuming, some response =>
          match ResumeMessageCodec.encode (.response response) with
          | .error diagnostic => .error diagnostic
          | .ok _ => .ok r
        | state, _ =>
          if state ≠ .interrupted ∨ session.pipeline.isSome then
            .error "resume query requires an interrupted receive pipeline"
          else
            match buildResumeResponse env peer query session with
            | .error diagnostic => .error diagnostic
            | .ok (state, response) =>
              let session := { session with
                lastResumeResponse := some response
                pipeline :=
                  some { generation := session.pipelineGeneration, resumeState := some state } }
              .ok (r.publish query.transferId (session.setState .resuming false false true))

end IncomingTransferRuntime

/-- Queued by a pipeline's worker for the runtime's thread. -/
inductive PipelineCallback where
  | progress (bytes files : Nat) (path : QString)
  | conflict (conflictId : QUuid)
  | completed (completedRelativePath : QString)
  | failed (code : TransferErrorCode)

namespace IncomingTransferRuntime

variable (settings : IncomingSettings) (env : IncomingSurroundings)

def runCallback (id : TransferId) (generation : UInt64) (callback : PipelineCallback)
    (r : IncomingTransferRuntime) : IncomingTransferRuntime :=
  match r.sessions id with
  | none => r
  | some session =>
    let snapshot := session.pipelineSnapshot
    if session.pipelineGeneration ≠ generation ∨ ¬ isReceivePipelineActive snapshot.state then r
    else
      match callback with
      | .progress completedBytes completedFiles path =>
        if snapshot.state = .paused then r
        else
          let session := { session with pipelineSnapshot := { snapshot with
            progress := { snapshot.progress with completedBytes, completedFiles }
            currentRelativeDisplayPath := path } }
          r.publish id (session.setState .transferring true false true)
      | .conflict conflictId => r.keep id { session with pendingConflict := some conflictId }
      | .completed completedRelativePath =>
        let session := { session with pipelineSnapshot := { snapshot with
          progress := { snapshot.progress with
            completedBytes := snapshot.progress.totalBytes
            completedFiles := snapshot.progress.totalFiles }
          currentRelativeDisplayPath := completedRelativePath, finishedUtc := env.now } }
        r.publish id (session.setState .completed false false false)
      | .failed errorCode =>
        let session := { session with pipelineSnapshot := { snapshot with
          errorCode, canRetry := false, finishedUtc := env.now } }
        r.publish id (session.setState .failed false false false)

def resolveIncomingConflict (id : TransferId) (conflictId : QUuid) (r : IncomingTransferRuntime) :
    IncomingTransferRuntime :=
  match r.sessions id with
  | none => r
  | some session =>
    if session.pipeline.isNone ∨ session.pendingConflict ≠ some conflictId then r
    else r.keep id { session with pendingConflict := none }

/-- The first state that waits goes into validation, unless it is known or not from here. -/
def hydrateNextRecoveryState (r : IncomingTransferRuntime) : IncomingTransferRuntime :=
  if r.validating.isSome then r
  else
    match r.pending with
    | [] => r
    | state :: pending =>
      let r := { r with pending }
      if (r.sessions state.transferId).isSome then r
      else if settings.localDeviceId ≠ some state.localDeviceId ∨ ¬ env.isTrusted state.peerDeviceId ∨
          env.peerFingerprint state.peerDeviceId ≠ some state.peerFingerprintSha256 then r
      else { r with validating := some state }

/-- The session that a state under validation becomes, once the pool has validated it against the disk
and found so many bytes and files complete. -/
def restoredSession (result : Except String (Nat × Nat)) (state : IncomingRecoveryState) :
    Option IncomingSession :=
  match result with
  | .error _ => none
  | .ok (completedBytes, completedFiles) =>
    if env.peerFingerprint state.peerDeviceId ≠ some state.peerFingerprintSha256 ∨
        ¬ env.isTrusted state.peerDeviceId then none
    else IncomingSession.restore settings.qt state completedBytes completedFiles

def finishRecoveryValidation (result : Except String (Nat × Nat)) (r : IncomingTransferRuntime) :
    IncomingTransferRuntime :=
  match r.validating with
  | none => r
  | some state =>
    let r := { r with validating := none }
    match restoredSession settings env result state with
    | none => r
    | some session => r.publish state.transferId session

end IncomingTransferRuntime

inductive IncomingEvent where
  | receiveOffer (peer : DeviceId) (peerDisplayName : QString)
      (peerTrusted peerAllowsAutoAccept : Bool) (capabilities : NegotiatedCapabilities)
      (offer : TransferOffer)
  | accept (id : TransferId) (options : ReceiveOptions)
  | acceptPreflightFinished (id : TransferId) (safety : Except String Unit) (freeBytes : Nat)
  | reject (id : TransferId) (reason : RejectReason)
  | receiveCommand (peer : DeviceId) (frame : Frame)
  /-- A command of the local user, whose frame the peer's connection takes. -/
  | localCommand (command : TransferCommandMessage)
  | cancelCleanupFinished (id : TransferId) (generation : UInt64) (result : Except String Unit)
  | peerDisconnected (peer : DeviceId)
  | receiveResumeQuery (peer : DeviceId) (decoded : Except String ResumeQueryMessage)
  | callback (id : TransferId) (generation : UInt64) (callback : PipelineCallback)
  | resolveIncomingConflict (id : TransferId) (conflictId : QUuid)
  | recoveryScanned (states : List IncomingRecoveryState)
  | stopRecoveryScan
  | hydrateNextRecoveryState
  | recoveryValidated (result : Except String (Nat × Nat))

namespace IncomingTransferRuntime

variable (settings : IncomingSettings)

/-- A refused event leaves the runtime as it is. -/
def orSame (r : IncomingTransferRuntime) (result : Except String IncomingTransferRuntime) :
    IncomingTransferRuntime :=
  match result with
  | .ok next => next
  | .error _ => r

def handle (env : IncomingSurroundings) (event : IncomingEvent) (r : IncomingTransferRuntime) :
    IncomingTransferRuntime :=
  match event with
  | .receiveOffer peer peerDisplayName peerTrusted peerAllowsAutoAccept capabilities offer =>
    r.orSame
      (r.receiveOffer peer peerDisplayName peerTrusted peerAllowsAutoAccept capabilities offer)
  | .accept id options => r.accept settings env id options
  | .acceptPreflightFinished id safety freeBytes =>
    r.finishAcceptPreflight settings env id safety freeBytes
  | .reject id reason => r.reject id reason
  | .receiveCommand peer frame => r.orSame (r.receiveCommand peer frame)
  | .localCommand command =>
    match r.validateLocalCommand command with
    | .error _ => r
    | .ok _ => r.orSame ((r.applyLocalCommand command).map (·.2))
  | .cancelCleanupFinished id generation result => r.finishCancelCleanup env id generation result
  | .peerDisconnected peer => r.peerDisconnected peer
  | .receiveResumeQuery peer decoded => r.orSame (r.receiveResumeQuery env peer decoded)
  | .callback id generation callback => r.runCallback env id generation callback
  | .resolveIncomingConflict id conflictId => r.resolveIncomingConflict id conflictId
  | .recoveryScanned states =>
    { r with pending := states }.hydrateNextRecoveryState settings env
  | .stopRecoveryScan => { r with pending := [], validating := none }
  | .hydrateNextRecoveryState => r.hydrateNextRecoveryState settings env
  | .recoveryValidated result => r.finishRecoveryValidation settings env result

def machine : Machine IncomingTransferRuntime (IncomingSurroundings × IncomingEvent) where
  start r := r = {}
  step r call := some (r.handle settings call.1 call.2)

end IncomingTransferRuntime

end DeskflowPlus.App
