import DeskflowPlus.Pairing.PairingTrustCommitter

/-!
# The pairing manager

The side that asks for a pairing shows a code; the side that was asked types it in and sends it
back. The asking side compares, takes its own user's confirmation too, commits its trust, and only
then sends the result on which the other side commits. Until the code is typed in, the asked side
keeps its snapshot by hand; from then on both sides keep it in the state machine, and whatever the
machine publishes drops the snapshot kept by hand.

A datagram is modelled as what the codec reads from it.
-/

namespace DeskflowPlus.Pairing

open Transfer Trust

/-- Of the sender's own description, what pairing reads. -/
structure DeviceInfo where
  deviceId : DeviceId
  displayName : QString := []
  platform : QString := []
  certificateFingerprintSha256 : QByteArray := []
  deriving DecidableEq

structure PairingRequest where
  pairingSessionId : QUuid
  sender : DeviceInfo
  expiresAtUtc : QDateTime
  deriving DecidableEq

structure PairingCodeSubmission where
  pairingSessionId : QUuid
  sender : DeviceInfo
  sixDigitSas : QString
  deriving DecidableEq

structure PairingResultMessage where
  pairingSessionId : QUuid
  accepted : Bool := false
  failureReason : PairingFailureReason := .none
  diagnostic : QString := []
  deriving DecidableEq

inductive PairingMessage where
  | request (message : PairingRequest)
  | codeSubmission (message : PairingCodeSubmission)
  | result (message : PairingResultMessage)
  deriving DecidableEq

inductive PairingMessageError where
  | none
  | tooLarge
  | malformedCbor
  | invalidEnvelope
  | unsupportedProtocol
  | unsupportedVersion
  | unsupportedMessageType
  | invalidPayload
  | invalidSessionId
  | invalidDeviceInfo
  | invalidFingerprint
  | invalidExpiry
  | invalidSas
  | invalidResult

/-- What the codec reads from a datagram. -/
abbrev PairingMessageDecodeResult := Except (PairingMessageError × QString) PairingMessage

inductive PairingOperationError where
  | none
  | invalidLocalDevice
  | invalidPeer
  | invalidEndpoint
  | activeSessionExists
  | sessionNotFound
  | sessionMismatch
  | peerMismatch
  | endpointMismatch
  | expired
  | invalidCode
  | unexpectedMessage
  | duplicateMessage
  | decodeFailed
  | invalidState
  | sendFailed
  | persistenceFailed
  | revokeFailed
  deriving DecidableEq

structure PairingOperationResult where
  error : PairingOperationError := .none
  messageError : PairingMessageError := .none
  stateError : PairingError := .none
  trustError : PairingTrustCommitError := .none
  diagnostic : QString := []

def PairingOperationResult.ok (result : PairingOperationResult) : Bool := result.error = .none

def operationErrorFor : PairingFailureReason → PairingOperationError
  | .none | .cancelled => .invalidState
  | .codeMismatch | .tooManyAttempts => .invalidCode
  | .expired => .expired
  | .transportFailed => .sendFailed
  | .trustStoreWriteFailed => .persistenceFailed
  | .certificateChanged => .invalidPeer
  | .directConnectionRequired => .invalidEndpoint

def resultFromState (result : PairingActionResult) : PairingOperationResult :=
  if result.ok then {}
  else
    { error := if result.error = .expired then .expired else .invalidState
      stateError := result.error
      diagnostic := result.diagnostic }

def resultFromTrust (result : PairingTrustCommitResult) : PairingOperationResult :=
  if result.ok then {}
  else
    { error := if result.error = .persistenceFailed then .persistenceFailed else .invalidState
      trustError := result.error
      diagnostic := result.diagnostic }

structure PairingEndpoint where
  address : QHostAddress
  port : UInt16
  deriving DecidableEq

structure PairingPlatform where
  text : QtText
  hostAddress : QString → Option QString
  /-- The address is no null, multicast, broadcast or wildcard address, and of a known protocol. -/
  isUsableAddress : QHostAddress → Bool

inductive ClockSite where
  | datagram
  | expiry
  | request
  | start
  | beginExpiry
  | beginSession
  | transportReady
  | transcriptExchanged
  | comparison
  | finish
  | completion

/-- How a message does not leave. -/
inductive SendFault where
  | unavailable
  | encode (diagnostic : QString)
  | send (diagnostic : QString)

/-- What an operation reads and how its writes end. -/
structure PairingIo where
  now : ClockSite → QDateTime
  uuid : QUuid := 0
  generatedSas : UInt32 := 0
  sendFault : Option SendFault := none
  saveFaults : SaveFaults := {}
  rollbackFaults : SaveFaults := {}

inductive Role where
  | outgoing
  | incoming
  deriving DecidableEq

structure ActiveSession where
  role : Role
  wireSessionId : QUuid
  peerId : DeviceId
  peerFingerprintSha256 : QByteArray
  endpoint : PairingEndpoint
  localConfirmed : Bool := false
  remoteCodeMatched : Bool := false
  deriving DecidableEq

structure SentMessage where
  message : PairingMessage
  endpoint : PairingEndpoint
  deriving DecidableEq

structure PairingManager where
  localDevice : DeviceInfo
  stateMachine : PairingStateMachine := {}
  active : Option ActiveSession := none
  manualSnapshot : Option PairingSnapshot := none
  store : DeviceStore := {}
  files : StoreFiles := {}
  sent : List SentMessage := []

namespace PairingManager

def failure (error : PairingOperationError) (diagnostic : String) : PairingOperationResult where
  error := error
  diagnostic := QString.literal diagnostic

def options (manager : PairingManager) : PairingOptions := manager.stateMachine.options

def snapshot (manager : PairingManager) : Option PairingSnapshot :=
  manager.manualSnapshot.or manager.stateMachine.snapshot

def hasNonTerminalSession (manager : PairingManager) : Bool :=
  manager.snapshot.any (!·.state.isTerminal)

def afterMachine (step : MachineStep) (manager : PairingManager) : PairingManager :=
  { manager with
    stateMachine := step.machine
    manualSnapshot := if step.published then none else manager.manualSnapshot }

/-- `expireIfNeeded`, and whether it expired the session. -/
def expireIfNeeded (now : QDateTime) (manager : PairingManager) : Bool × PairingManager :=
  match manager.manualSnapshot with
  | some snapshot =>
    if ¬ snapshot.state.isTerminal ∧ notAfter snapshot.expiresAtUtc now then
      (true, { manager with
        manualSnapshot := some { snapshot with state := .expired, failureReason := .expired } })
    else (false, manager)
  | none =>
    let (expired, stateMachine) := manager.stateMachine.expireIfNeeded now
    (expired, { manager with stateMachine })

def validateBoundMessage (sessionId : QUuid) (source : PairingEndpoint) (requiredRole : Role)
    (manager : PairingManager) : Except PairingOperationResult ActiveSession :=
  match manager.active with
  | none => .error (failure .sessionNotFound "pairing session was not found")
  | some active =>
    if active.wireSessionId ≠ sessionId then
      .error (failure .sessionMismatch "pairing session ID does not match")
    else if active.endpoint ≠ source then
      .error (failure .endpointMismatch "pairing source endpoint changed")
    else if active.role ≠ requiredRole then
      .error (failure .unexpectedMessage "pairing message is out of order")
    else .ok active

/-- `validateBoundMessage` for the user's own calls, which come from no endpoint. -/
def validateLocal (sessionId : QUuid) (requiredRole : Role) (manager : PairingManager) :
    Except PairingOperationResult ActiveSession :=
  manager.validateBoundMessage sessionId
    ((manager.active.map ActiveSession.endpoint).getD ⟨[], 0⟩) requiredRole

def sendMessage (message : PairingMessage) (io : PairingIo) (manager : PairingManager) :
    PairingOperationResult × PairingManager :=
  match manager.active with
  | none => (failure .sendFailed "pairing transport is unavailable", manager)
  | some active =>
    match io.sendFault with
    | some .unavailable => (failure .sendFailed "pairing transport is unavailable", manager)
    | some (.encode diagnostic) => ({ error := .invalidState, diagnostic }, manager)
    | some (.send diagnostic) => ({ error := .sendFailed, diagnostic }, manager)
    | none => ({}, { manager with sent := manager.sent ++ [⟨message, active.endpoint⟩] })

def failState (error : PairingOperationError) (diagnostic : QString)
    (reason : PairingFailureReason) (io : PairingIo) (manager : PairingManager) :
    PairingOperationResult × PairingManager :=
  let result : PairingOperationResult := { error, diagnostic }
  match manager.snapshot, manager.stateMachine.snapshot with
  | some current, some _ =>
    (result, manager.afterMachine
      (manager.stateMachine.fail current.pairingSessionId reason (io.now .finish)))
  | _, _ => (result, manager)

section Operations

variable (platform : PairingPlatform)

def isUsableEndpoint (endpoint : PairingEndpoint) : Bool :=
  endpoint.port ≠ 0 && platform.isUsableAddress endpoint.address

/-- The peer's trust is committed without a selection of the user's. -/
def commitTrust (sessionId : QUuid) (io : PairingIo) (manager : PairingManager) :
    PairingTrustCommitResult × PairingManager :=
  let step := PairingTrustCommitter.commit platform.text platform.hostAddress sessionId {}
    io.saveFaults io.rollbackFaults (io.now .finish) (io.now .completion) manager.store
    manager.files manager.stateMachine
  (step.result, { manager with
    stateMachine := step.machine
    manualSnapshot := if step.published then none else manager.manualSnapshot
    store := step.store
    files := step.files })

def finalizeOutgoing (io : PairingIo) (manager : PairingManager) :
    PairingOperationResult × PairingManager :=
  match manager.stateMachine.snapshot, manager.active with
  | some current, some active =>
    if current.state ≠ .confirming ∨ ¬ active.localConfirmed ∨ ¬ active.remoteCodeMatched then
      (failure .invalidState "both pairing confirmations are required", manager)
    else
      let (committed, manager) := manager.commitTrust platform current.pairingSessionId io
      let reply (accepted : Bool) (failureReason : PairingFailureReason) : PairingMessage :=
        .result { pairingSessionId := current.pairingSessionId, accepted, failureReason }
      if committed.ok then manager.sendMessage (reply true .none) io
      else
        (resultFromTrust committed,
          (manager.sendMessage (reply false .trustStoreWriteFailed) io).2)
  | _, _ => (failure .invalidState "both pairing confirmations are required", manager)

def startPairing (peer : DeviceSnapshot) (peerFingerprintSha256 : QByteArray)
    (endpoint : PairingEndpoint) (io : PairingIo) (manager : PairingManager) :
    PairingOperationResult × PairingManager :=
  if manager.localDevice.certificateFingerprintSha256.length ≠ kFingerprintBytes then
    (failure .invalidLocalDevice "local pairing identity is incomplete", manager)
  else if peer.id = manager.localDevice.deviceId ∨
      peerFingerprintSha256.length ≠ kFingerprintBytes then
    (failure .invalidPeer "pairing peer identity or fingerprint is invalid", manager)
  else if ¬ isUsableEndpoint platform endpoint then
    (failure .invalidEndpoint "pairing endpoint is invalid", manager)
  else if manager.hasNonTerminalSession then
    (failure .activeSessionExists "a pairing session is already active", manager)
  else
    let peer := if endpoint.address ∈ peer.addresses then peer
      else { peer with addresses := endpoint.address :: peer.addresses }
    let begun := manager.stateMachine.start peer peerFingerprintSha256 io.uuid io.generatedSas
      (io.now .start) (io.now .beginExpiry) (io.now .beginSession)
    let manager := manager.afterMachine begun
    match begun.result.ok, begun.machine.snapshot with
    | true, some current =>
      let manager := { manager with
        active := some
          { role := .outgoing
            wireSessionId := current.pairingSessionId
            peerId := current.peer.id
            peerFingerprintSha256
            endpoint } }
      let (sent, manager) := manager.sendMessage
        (.request ⟨current.pairingSessionId, manager.localDevice, current.expiresAtUtc⟩) io
      if ¬ sent.ok then manager.failState sent.error sent.diagnostic .transportFailed io
      else
        let ready := manager.stateMachine.markTransportReady current.pairingSessionId
          (io.now .transportReady)
        let manager := manager.afterMachine ready
        if ¬ ready.result.ok then (resultFromState ready.result, manager)
        else
          let exchanged := manager.stateMachine.markTranscriptExchanged current.pairingSessionId
            (io.now .transcriptExchanged)
          (resultFromState exchanged.result, manager.afterMachine exchanged)
    | _, _ => (resultFromState begun.result, manager)

def confirmMatchingSas (sessionId : QUuid) (io : PairingIo) (manager : PairingManager) :
    PairingOperationResult × PairingManager :=
  match manager.validateLocal sessionId .outgoing with
  | .error result => (result, manager)
  | .ok active =>
    if manager.snapshot.any (·.state = .expired) then
      (failure .expired "pairing session expired", manager)
    else
      match manager.expireIfNeeded (io.now .expiry) with
      | (true, manager) => (failure .expired "pairing session expired", manager)
      | (false, manager) =>
        match manager.stateMachine.snapshot with
        | none => (failure .invalidState "pairing is not awaiting local confirmation", manager)
        | some current =>
          if current.state ≠ .awaitingUserComparison ∧ current.state ≠ .confirming then
            (failure .invalidState "pairing is not awaiting local confirmation", manager)
          else if active.localConfirmed then
            (failure .duplicateMessage "pairing was already locally confirmed", manager)
          else
            let manager := { manager with active := some { active with localConfirmed := true } }
            if active.remoteCodeMatched then manager.finalizeOutgoing platform io
            else ({}, manager)

/-- `submitDisplayedSas` once the snapshot kept by hand awaits the code. -/
def beginBound (sessionId : QUuid) (sixDigits : QString) (manual : PairingSnapshot)
    (active : ActiveSession) (io : PairingIo) (manager : PairingManager) :
    PairingOperationResult × PairingManager :=
  let begun := manager.stateMachine.beginSession manual.peer active.peerFingerprintSha256 sessionId
    manual.expiresAtUtc (some sixDigits) io.generatedSas (io.now .beginExpiry)
    (io.now .beginSession)
  let manager := manager.afterMachine begun
  if ¬ begun.result.ok then (resultFromState begun.result, manager)
  else
    let ready := manager.stateMachine.markTransportReady sessionId (io.now .transportReady)
    let manager := manager.afterMachine ready
    if ¬ ready.result.ok then (resultFromState ready.result, manager)
    else
      let exchanged := manager.stateMachine.markTranscriptExchanged sessionId
        (io.now .transcriptExchanged)
      let manager := manager.afterMachine exchanged
      if ¬ exchanged.result.ok then (resultFromState exchanged.result, manager)
      else
        -- The other side compares; here the machine only records that a code was typed in.
        let submitted := manager.stateMachine.submitDisplayedSas sessionId sixDigits
          (io.now .comparison)
        let manager := manager.afterMachine submitted
        if ¬ submitted.result.ok then (resultFromState submitted.result, manager)
        else
          let (sent, manager) := manager.sendMessage
            (.codeSubmission ⟨sessionId, manager.localDevice, sixDigits⟩) io
          if ¬ sent.ok then manager.failState sent.error sent.diagnostic .transportFailed io
          else ({}, manager)

def submitDisplayedSas (sessionId : QUuid) (sixDigits : QString) (io : PairingIo)
    (manager : PairingManager) : PairingOperationResult × PairingManager :=
  match manager.validateLocal sessionId .incoming with
  | .error result => (result, manager)
  | .ok active =>
    if manager.snapshot.any (·.state = .expired) then
      (failure .expired "pairing session expired", manager)
    else
      match manager.expireIfNeeded (io.now .expiry) with
      | (true, manager) => (failure .expired "pairing session expired", manager)
      | (false, manager) =>
        match manager.manualSnapshot with
        | none => (failure .invalidState "pairing is not awaiting a displayed code", manager)
        | some manual =>
          if manual.state ≠ .awaitingUserComparison then
            (failure .invalidState "pairing is not awaiting a displayed code", manager)
          else if ¬ isSixDigits sixDigits then
            (failure .invalidCode "pairing code must contain six digits", manager)
          else manager.beginBound sessionId sixDigits manual active io

def cancel (sessionId : QUuid) (io : PairingIo) (manager : PairingManager) :
    PairingOperationResult × PairingManager :=
  match manager.active with
  | none => (failure .sessionNotFound "pairing session was not found", manager)
  | some active =>
    if active.wireSessionId ≠ sessionId then
      (failure .sessionNotFound "pairing session was not found", manager)
    else
      match manager.expireIfNeeded (io.now .expiry) with
      | (true, manager) => (failure .expired "pairing session expired", manager)
      | (false, manager) =>
        let (sent, manager) := manager.sendMessage
          (.result { pairingSessionId := sessionId, failureReason := .cancelled }) io
        match manager.manualSnapshot with
        | some manual =>
          (sent, { manager with
            manualSnapshot := some { manual with state := .rejected, failureReason := .cancelled } })
        | none =>
          let cancelled := manager.stateMachine.cancel sessionId (io.now .finish)
          let manager := manager.afterMachine cancelled
          if ¬ cancelled.result.ok then (resultFromState cancelled.result, manager)
          else (sent, manager)

def revoke (deviceId : DeviceId) (io : PairingIo) (manager : PairingManager) :
    PairingOperationResult × PairingManager :=
  let (found, staged) := manager.store.revoke deviceId
  if ¬ found then (failure .revokeFailed "trusted device was not found", manager)
  else
    let (saved, files) := staged.save io.saveFaults.primary io.saveFaults.backup manager.files
    if ¬ saved.ok then
      ({ error := .persistenceFailed, diagnostic := saved.diagnostic }, { manager with files })
    else ({}, { manager with store := staged, files })

def snapshotFromDeviceInfo (device : DeviceInfo) (source : PairingEndpoint) : DeviceSnapshot where
  id := device.deviceId
  displayName := device.displayName
  platform := device.platform
  addresses := [source.address]

def handleRequest (request : PairingRequest) (source : PairingEndpoint) (io : PairingIo)
    (manager : PairingManager) : PairingOperationResult × PairingManager :=
  if request.sender.deviceId = manager.localDevice.deviceId ∨
      request.sender.certificateFingerprintSha256.length ≠ kFingerprintBytes then
    (failure .invalidPeer "incoming pairing peer is invalid", manager)
  else if manager.hasNonTerminalSession then
    if manager.active.any fun active =>
        active.role = .incoming && active.wireSessionId = request.pairingSessionId &&
          active.peerId = request.sender.deviceId && active.endpoint = source then
      (failure .duplicateMessage "pairing request was already received", manager)
    else (failure .activeSessionExists "a pairing session is already active", manager)
  else if ¬ (io.now .request).isValid ∨ notAfter request.expiresAtUtc (io.now .request) ∨
      before (addSecs (io.now .request) manager.options.validity) request.expiresAtUtc then
    (failure .expired "incoming pairing request expiry is invalid", manager)
  else
    ({}, { manager with
      active := some
        { role := .incoming
          wireSessionId := request.pairingSessionId
          peerId := request.sender.deviceId
          peerFingerprintSha256 := request.sender.certificateFingerprintSha256
          endpoint := source }
      manualSnapshot := some
        { pairingSessionId := request.pairingSessionId
          peer := snapshotFromDeviceInfo request.sender source
          state := .awaitingUserComparison
          expiresAtUtc := request.expiresAtUtc
          attemptsRemaining := manager.options.attempts } })

def handleSubmission (submission : PairingCodeSubmission) (source : PairingEndpoint)
    (io : PairingIo) (manager : PairingManager) : PairingOperationResult × PairingManager :=
  match manager.validateBoundMessage submission.pairingSessionId source .outgoing with
  | .error result => (result, manager)
  | .ok active =>
    if submission.sender.deviceId ≠ active.peerId ∨
        submission.sender.certificateFingerprintSha256 ≠ active.peerFingerprintSha256 then
      (failure .peerMismatch "pairing submission peer identity changed", manager)
    else
      match manager.expireIfNeeded (io.now .expiry) with
      | (true, manager) => (failure .expired "pairing session expired", manager)
      | (false, manager) =>
        if ¬ manager.stateMachine.snapshot.any (·.state = .awaitingUserComparison) then
          (failure .duplicateMessage "pairing code was already submitted", manager)
        else
          let compared := manager.stateMachine.submitDisplayedSas submission.pairingSessionId
            submission.sixDigitSas (io.now .comparison)
          let manager := manager.afterMachine compared
          if ¬ compared.result.ok then
            let exhausted := compared.result.error = .attemptsExhausted
            let reason : PairingFailureReason :=
              if exhausted then .tooManyAttempts else .codeMismatch
            let manager := if exhausted then manager
              else manager.afterMachine (manager.stateMachine.reject submission.pairingSessionId
                reason (io.now .finish))
            let (sent, manager) := manager.sendMessage
              (.result { pairingSessionId := submission.pairingSessionId, failureReason := reason })
              io
            if ¬ sent.ok then (sent, manager)
            else
              ({ error := .invalidCode
                 stateError := compared.result.error
                 diagnostic := compared.result.diagnostic }, manager)
          else
            let manager := { manager with
              active := some { active with remoteCodeMatched := true } }
            if active.localConfirmed then manager.finalizeOutgoing platform io else ({}, manager)

def handleResult (message : PairingResultMessage) (source : PairingEndpoint) (io : PairingIo)
    (manager : PairingManager) : PairingOperationResult × PairingManager :=
  match manager.validateBoundMessage message.pairingSessionId source .incoming with
  | .error result => (result, manager)
  | .ok _ =>
    match manager.expireIfNeeded (io.now .expiry) with
    | (true, manager) => (failure .expired "pairing session expired", manager)
    | (false, manager) =>
      match message.accepted, manager.manualSnapshot with
      | false, some manual =>
        ({}, { manager with
          manualSnapshot := some
            { manual with state := .rejected, failureReason := message.failureReason } })
      | _, _ =>
        if ¬ manager.stateMachine.snapshot.any (·.state = .confirming) then
          (failure .duplicateMessage "pairing result is out of order", manager)
        else if ¬ message.accepted then
          manager.failState (operationErrorFor message.failureReason)
            (QString.literal "remote peer rejected pairing") message.failureReason io
        else
          let (committed, manager) := manager.commitTrust platform message.pairingSessionId io
          (resultFromTrust committed, manager)

def receiveDatagram (decoded : PairingMessageDecodeResult) (source : PairingEndpoint)
    (io : PairingIo) (manager : PairingManager) : PairingOperationResult × PairingManager :=
  if ¬ isUsableEndpoint platform source then
    (failure .invalidEndpoint "pairing datagram source is invalid", manager)
  else
    match decoded with
    | .error (messageError, diagnostic) =>
      ({ error := .decodeFailed, messageError, diagnostic }, manager)
    | .ok message =>
      let manager := (manager.expireIfNeeded (io.now .datagram)).2
      match message with
      | .request request => manager.handleRequest request source io
      | .codeSubmission submission => manager.handleSubmission platform submission source io
      | .result result => manager.handleResult platform result source io

end Operations

end PairingManager

inductive PairingEvent where
  | startPairing (peer : DeviceSnapshot) (peerFingerprintSha256 : QByteArray)
      (endpoint : PairingEndpoint)
  | receiveDatagram (decoded : PairingMessageDecodeResult) (source : PairingEndpoint)
  | confirmMatchingSas (sessionId : QUuid)
  | submitDisplayedSas (sessionId : QUuid) (sixDigits : QString)
  | cancel (sessionId : QUuid)
  | revoke (deviceId : DeviceId)
  | expireIfNeeded

structure PairingCall where
  event : PairingEvent
  io : PairingIo

namespace PairingManager

variable (platform : PairingPlatform)

def step (manager : PairingManager) (call : PairingCall) : PairingManager :=
  match call.event with
  | .startPairing peer peerFingerprintSha256 endpoint =>
    (manager.startPairing platform peer peerFingerprintSha256 endpoint call.io).2
  | .receiveDatagram decoded source => (manager.receiveDatagram platform decoded source call.io).2
  | .confirmMatchingSas sessionId => (manager.confirmMatchingSas platform sessionId call.io).2
  | .submitDisplayedSas sessionId sixDigits =>
    (manager.submitDisplayedSas sessionId sixDigits call.io).2
  | .cancel sessionId => (manager.cancel sessionId call.io).2
  | .revoke deviceId => (manager.revoke deviceId call.io).2
  | .expireIfNeeded => (manager.expireIfNeeded (call.io.now .expiry)).2

def Fresh (manager : PairingManager) : Prop :=
  manager.stateMachine.snapshot = none ∧ manager.active = none ∧ manager.manualSnapshot = none ∧
    manager.sent = []

def run (calls : List PairingCall) (manager : PairingManager) : PairingManager :=
  calls.foldl (step platform) manager

end PairingManager

end DeskflowPlus.Pairing
