import DeskflowPlus.Transfer.TransferControlStateMachine
import DeskflowPlus.Transfer.TransferTypes

/-!
# The offer state machine

One offer at a time, outgoing or incoming, gets one answer: the sender waits for the peer's, the
receiver for the local one. Every operation checks its message against the negotiated capabilities.
-/

namespace DeskflowPlus.Transfer

inductive OfferDirection where
  | outgoing
  | incoming
  deriving DecidableEq

inductive OfferState where
  | idle
  | awaitingPeerDecision
  | awaitingLocalDecision
  | accepted
  | rejected
  | failed
  deriving DecidableEq

inductive OfferStateError where
  | none
  | invalidOffer
  | activeOfferExists
  | invalidState
  | transferIdMismatch
  | capabilityUnavailable
  | conflictPolicyUnavailable
  | invalidResponse
  deriving DecidableEq

structure OfferStateResult where
  error : OfferStateError := .none
  diagnostic : String := ""

def OfferStateResult.ok (result : OfferStateResult) : Bool := result.error = .none

structure OfferSnapshot where
  transferId : TransferId
  direction : OfferDirection := .outgoing
  state : OfferState := .idle
  displayName : QString
  totalBytes : Nat := 0
  fileCount : Nat := 0
  directoryCount : Nat := 0
  requestedConflictPolicy : ConflictPolicy := .ask
  acceptance : Option TransferAccept := none
  rejection : Option TransferReject := none
  errorCode : TransferErrorCode := .none

structure TransferOfferStateMachine where
  capabilities : NegotiatedCapabilities
  snapshot : Option OfferSnapshot := none

namespace TransferOfferStateMachine

def failure (error : OfferStateError) (diagnostic : String) : OfferStateResult :=
  { error, diagnostic }

def isTerminal (state : OfferState) : Bool :=
  state = .accepted || state = .rejected || state = .failed

def validRejectReason (reason : RejectReason) : Bool :=
  reason ∈ [.userDeclined, .notTrusted, .policyDenied, .insufficientSpace, .tooManyFiles,
    .pathInvalid, .unsupportedCapability, .busy, .internalError]

def supportsPolicy (machine : TransferOfferStateMachine) (policy : ConflictPolicy) : Bool :=
  policy ∈ machine.capabilities.conflictPolicies

def validateOffer (machine : TransferOfferStateMachine) (offer : TransferOffer) :
    OfferStateResult :=
  let entryCountOverflows := offer.fileCount > quint64Max - offer.directoryCount
  if offer.displayName = [] ∨ offer.displayName.toUtf8.length > kMaxControlStringUtf8Bytes ∨
      offer.manifestSha256.length ≠ kSha256Bytes ∨ offer.manifestPageCount = 0 ∨
      entryCountOverflows ∨
      offer.fileCount + offer.directoryCount > machine.capabilities.maxManifestEntries then
    failure .invalidOffer "transfer offer fields exceed negotiated bounds"
  else if offer.directoryCount > 0 ∧ folderFeature ∉ machine.capabilities.features then
    failure .capabilityUnavailable "folder offer requires negotiated folder.v1"
  else if ¬ machine.supportsPolicy offer.requestedConflictPolicy then
    failure .conflictPolicyUnavailable "requested conflict policy was not negotiated"
  else {}

def openOffer (direction : OfferDirection) (state : OfferState) (machine : TransferOfferStateMachine)
    (offer : TransferOffer) : OfferStateResult × TransferOfferStateMachine :=
  if machine.snapshot.any fun snapshot => !isTerminal snapshot.state then
    (failure .activeOfferExists "a transfer offer is already active", machine)
  else
    let valid := machine.validateOffer offer
    if ¬ valid.ok then (valid, machine)
    else
      ({}, { machine with snapshot := some {
        transferId := offer.transferId, direction, state
        displayName := offer.displayName, totalBytes := offer.totalBytes
        fileCount := offer.fileCount, directoryCount := offer.directoryCount
        requestedConflictPolicy := offer.requestedConflictPolicy } })

def beginOutgoing : TransferOfferStateMachine → TransferOffer →
    OfferStateResult × TransferOfferStateMachine :=
  openOffer .outgoing .awaitingPeerDecision

def receiveIncoming : TransferOfferStateMachine → TransferOffer →
    OfferStateResult × TransferOfferStateMachine :=
  openOffer .incoming .awaitingLocalDecision

def waiting (machine : TransferOfferStateMachine) (direction : OfferDirection)
    (state : OfferState) : Option OfferSnapshot :=
  machine.snapshot.filter fun snapshot => snapshot.direction = direction && snapshot.state = state

variable (qt : QtText)

def receiveAccept (machine : TransferOfferStateMachine) (acceptance : TransferAccept) :
    OfferStateResult × TransferOfferStateMachine :=
  match machine.waiting .outgoing .awaitingPeerDecision with
  | none => (failure .invalidState "no outgoing offer is waiting for acceptance", machine)
  | some snapshot =>
    if acceptance.transferId ≠ snapshot.transferId then
      (failure .transferIdMismatch "acceptance belongs to another transfer", machine)
    else if ¬ machine.supportsPolicy acceptance.effectiveConflictPolicy then
      (failure .conflictPolicyUnavailable "acceptance selected an unnegotiated conflict policy",
        machine)
    else if qt.trimmed acceptance.logicalDestination = [] ∨
        acceptance.logicalDestination.toUtf8.length > kMaxControlStringUtf8Bytes then
      (failure .invalidResponse "acceptance destination label is invalid", machine)
    else
      ({}, { machine with
        snapshot := some { snapshot with acceptance := some acceptance, state := .accepted } })

def receiveReject (machine : TransferOfferStateMachine) (rejection : TransferReject) :
    OfferStateResult × TransferOfferStateMachine :=
  match machine.waiting .outgoing .awaitingPeerDecision with
  | none => (failure .invalidState "no outgoing offer is waiting for rejection", machine)
  | some snapshot =>
    if rejection.transferId ≠ snapshot.transferId then
      (failure .transferIdMismatch "rejection belongs to another transfer", machine)
    else if ¬ validRejectReason rejection.reason ∨
        rejection.diagnostic.toUtf8.length > kMaxControlStringUtf8Bytes then
      (failure .invalidResponse "rejection reason or diagnostic is invalid", machine)
    else
      ({}, { machine with
        snapshot := some { snapshot with rejection := some rejection, state := .rejected } })

def acceptIncoming (machine : TransferOfferStateMachine) (effectivePolicy : ConflictPolicy)
    (logicalDestination : QString) (freeBytes : Nat) (origin : AcceptanceOrigin) :
    OfferStateResult × TransferOfferStateMachine :=
  match machine.waiting .incoming .awaitingLocalDecision with
  | none => (failure .invalidState "no incoming offer is waiting for a local decision", machine)
  | some snapshot =>
    let logicalDestination := qt.trimmed logicalDestination
    if ¬ machine.supportsPolicy effectivePolicy then
      (failure .conflictPolicyUnavailable "selected conflict policy was not negotiated", machine)
    else if logicalDestination = [] ∨
        logicalDestination.toUtf8.length > kMaxControlStringUtf8Bytes then
      (failure .invalidResponse "destination label is empty or too long", machine)
    else if freeBytes < snapshot.totalBytes then
      (failure .invalidResponse "reported free space is smaller than the offer", machine)
    else
      ({}, { machine with snapshot := some { snapshot with
        acceptance := some {
          transferId := snapshot.transferId, effectiveConflictPolicy := effectivePolicy
          logicalDestination, freeBytes, autoAccepted := origin = .trustedDevicePolicy }
        state := .accepted } })

def rejectIncoming (machine : TransferOfferStateMachine) (reason : RejectReason)
    (diagnostic : QString) : OfferStateResult × TransferOfferStateMachine :=
  match machine.waiting .incoming .awaitingLocalDecision with
  | none => (failure .invalidState "no incoming offer is waiting for a local decision", machine)
  | some snapshot =>
    if ¬ validRejectReason reason ∨
        diagnostic.toUtf8.length > kMaxControlStringUtf8Bytes then
      (failure .invalidResponse "rejection reason or diagnostic is invalid", machine)
    else
      ({}, { machine with snapshot := some { snapshot with
        rejection := some { transferId := snapshot.transferId, reason, diagnostic }
        state := .rejected } })

def fail (machine : TransferOfferStateMachine) (errorCode : TransferErrorCode) :
    OfferStateResult × TransferOfferStateMachine :=
  match machine.snapshot.filter fun snapshot => !isTerminal snapshot.state with
  | none => (failure .invalidState "offer cannot transition to failed", machine)
  | some snapshot =>
    if ¬ isKnownTransferErrorCode errorCode then
      (failure .invalidState "offer cannot transition to failed", machine)
    else
      ({}, { machine with snapshot := some { snapshot with state := .failed, errorCode } })

end TransferOfferStateMachine

end DeskflowPlus.Transfer
