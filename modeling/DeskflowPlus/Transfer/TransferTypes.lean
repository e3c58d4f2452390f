import DeskflowPlus.Transfer.TransferSender

/-!
# What the two ends of a transfer tell each other and their callers

Offers and their answers, commands, prepared manifests with their page plan, negotiated
capabilities and the options of the service's callers.
-/

namespace DeskflowPlus.Transfer

def kMaxControlStringUtf8Bytes : Nat := 4096

/-- The enumeration has a fixed 32-bit underlying type; only nine values are listed. -/
structure RejectReason where
  value : UInt32
  deriving DecidableEq

namespace RejectReason

def userDeclined : RejectReason := ⟨1⟩
def notTrusted : RejectReason := ⟨2⟩
def policyDenied : RejectReason := ⟨3⟩
def insufficientSpace : RejectReason := ⟨4⟩
def tooManyFiles : RejectReason := ⟨5⟩
def pathInvalid : RejectReason := ⟨6⟩
def unsupportedCapability : RejectReason := ⟨7⟩
def busy : RejectReason := ⟨8⟩
def internalError : RejectReason := ⟨9⟩

end RejectReason

inductive TransferCancelReason where
  | userRequested
  | applicationShutdown
  deriving DecidableEq

structure TransferOffer where
  transferId : TransferId
  displayName : QString
  totalBytes : Nat := 0
  fileCount : Nat := 0
  directoryCount : Nat := 0
  manifestSha256 : QByteArray
  manifestPageCount : Nat := 0
  requestedConflictPolicy : ConflictPolicy := .ask
  createdAtMs : Nat := 0

structure TransferAccept where
  transferId : TransferId
  effectiveConflictPolicy : ConflictPolicy := .autoRename
  logicalDestination : QString
  freeBytes : Nat := 0
  autoAccepted : Bool := false

structure TransferReject where
  transferId : TransferId
  reason : RejectReason := .userDeclined
  diagnostic : QString

inductive TransferCommandMessage where
  | pause (transferId : TransferId)
  | resume (transferId : TransferId)
  | cancel (transferId : TransferId) (reason : TransferCancelReason) (keepPartial : Bool)

def TransferCommandMessage.transferId : TransferCommandMessage → TransferId
  | .pause transferId => transferId
  | .resume transferId => transferId
  | .cancel transferId _ _ => transferId

def TransferCommandMessage.cancels : TransferCommandMessage → Bool
  | .cancel _ _ _ => true
  | _ => false

structure NegotiatedCapabilities where
  protocolMajorVersion : UInt16 := 0
  features : List QString := []
  chunkBytes : Nat := 0
  maxPayloadBytes : Nat := 0
  maxConcurrentTransfers : Nat := 0
  maxConcurrentFiles : Nat := 0
  maxManifestEntries : Nat := 0
  conflictPolicies : List ConflictPolicy := []
  localCanReceiveFiles : Bool := false
  peerCanReceiveFiles : Bool := false
  deriving DecidableEq

def folderFeature : QString := QString.literal "folder.v1"
def resumeFeature : QString := QString.literal "resume.v1"

structure TransferManifestSummary where
  id : TransferId
  displayName : QString
  totalBytes : Nat := 0
  fileCount : Nat := 0
  directoryCount : Nat := 0
  canonicalSha256 : QByteArray
  deriving DecidableEq

structure TransferManifest where
  entries : List PreparedManifestEntry
  summary : TransferManifestSummary

structure ManifestPageRange where
  firstEntry : Nat := 0
  entryCount : Nat := 0
  deriving DecidableEq

structure ManifestPagePlan where
  transferId : TransferId
  ranges : List ManifestPageRange
  entryCount : Nat := 0
  totalMetadataBytes : Nat := 0
  deriving DecidableEq

def ManifestPagePlan.pageCount (plan : ManifestPagePlan) : Nat := plan.ranges.length

inductive TransferOperation where
  | accept
  | reject
  | pause
  | resume
  | cancel
  | retry

inductive TransferOperationOutcome where
  | applied
  | idempotent
  | rejected

inductive TransferOperationError where
  | none
  | unknownTransfer
  | unsupportedOperation
  | invalidState
  | startFailed
  | transportFailed

structure TransferOperationResult where
  transferId : TransferId
  operation : TransferOperation := .pause
  outcome : TransferOperationOutcome := .rejected
  error : TransferOperationError := .invalidState
  diagnostic : String := ""

structure SendOptions where
  conflictPolicy : ConflictPolicy := .autoRename

inductive AcceptanceOrigin where
  | userDecision
  | trustedDevicePolicy
  deriving DecidableEq

structure ReceiveOptions where
  destinationRoot : QString
  conflictPolicy : ConflictPolicy := .autoRename
  failurePartialDisposition : PartialDisposition := .keep
  acceptanceOrigin : AcceptanceOrigin := .userDecision

structure TransferCancelOptions where
  reason : TransferCancelReason := .userRequested
  partialDisposition : PartialDisposition := .keep
  deriving DecidableEq

end DeskflowPlus.Transfer
