import DeskflowPlus.Transfer.TransferTypes

/-!
# What the recovery store keeps of a transfer

Enough to rebuild the session after a restart. Of an outgoing transfer these are the selected sources,
the prepared manifest with the shape of its page plan, and how far the transfer had come; of an
incoming one, the offer as it was accepted.
-/

namespace DeskflowPlus.Transfer

structure RecoverySource where
  canonicalPath : QString
  relativeProtocolPath : QString
  type : ManifestEntryType := .file

structure ManifestPagePlanBinding where
  entryCount : Nat := 0
  pageCount : Nat := 0
  totalMetadataBytes : Nat := 0
  deriving DecidableEq

structure RecoveryProgress where
  completedBytes : Nat := 0
  completedFiles : Nat := 0
  currentEntry : Nat := 0

structure OutgoingRecoveryState where
  transferId : TransferId
  localDeviceId : DeviceId
  peerDeviceId : DeviceId
  peerFingerprintSha256 : QByteArray
  createdUtc : QDateTime
  sendOptions : SendOptions
  sourceRoots : List RecoverySource
  entries : List PreparedManifestEntry
  summary : TransferManifestSummary
  pagePlan : ManifestPagePlanBinding
  effectiveConflictPolicy : ConflictPolicy := .autoRename
  progress : RecoveryProgress

structure IncomingRecoveryState where
  transferId : TransferId
  localDeviceId : DeviceId
  peerDeviceId : DeviceId
  peerFingerprintSha256 : QByteArray
  peerDisplayName : QString
  offer : TransferOffer
  receiveOptions : ReceiveOptions
  negotiatedCapabilities : NegotiatedCapabilities
  offer_transferId : offer.transferId = transferId

def ManifestPagePlan.binding (plan : ManifestPagePlan) : ManifestPagePlanBinding :=
  { entryCount := plan.entryCount, pageCount := plan.pageCount
    totalMetadataBytes := plan.totalMetadataBytes }

end DeskflowPlus.Transfer
