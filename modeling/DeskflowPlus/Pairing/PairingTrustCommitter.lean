import DeskflowPlus.Pairing.PairingStateMachine
import DeskflowPlus.Trust.TrustedDeviceStore

/-!
# Trust is committed before a pairing completes

The peer of a session that is being confirmed is entered into a copy of the store, and the copy is
saved. The copy replaces the store only after that, and the session is then completed; should it
have expired meanwhile, the store and its files are put back.
-/

namespace DeskflowPlus.Pairing

open Transfer Trust

structure PairingTrustSelection where
  deviceAlias : QString := []
  autoAcceptFiles : Bool := false

inductive PairingTrustCommitError where
  | none
  | sessionNotConfirming
  | invalidPeer
  | invalidTrustRecord
  | persistenceFailed
  | transitionFailed
  deriving DecidableEq

structure PairingTrustCommitResult where
  error : PairingTrustCommitError := .none
  diagnostic : QString := []

def PairingTrustCommitResult.ok (result : PairingTrustCommitResult) : Bool := result.error = .none

structure CommitStep where
  result : PairingTrustCommitResult := {}
  machine : PairingStateMachine
  published : Bool := false
  store : DeviceStore
  files : StoreFiles

structure SaveFaults where
  primary : Option WriteFault := none
  backup : Option WriteFault := none

namespace PairingTrustCommitter

def addressStrings (addresses : List QHostAddress) : List QString := addresses.filter (· ≠ [])

variable (qt : QtText) (hostAddress : QString → Option QString)

def selectAlias (selection : PairingTrustSelection) (existing : Option StoredDevice)
    (peer : DeviceSnapshot) : QString :=
  let selected := qt.trimmed selection.deviceAlias
  if selected ≠ [] then selected
  else
    match existing with
    | some device =>
      if device.deviceAlias ≠ [] then device.deviceAlias
      else if qt.trimmed peer.deviceAlias ≠ [] then qt.trimmed peer.deviceAlias
      else qt.trimmed peer.displayName
    | none =>
      if qt.trimmed peer.deviceAlias ≠ [] then qt.trimmed peer.deviceAlias
      else qt.trimmed peer.displayName

def record (selection : PairingTrustSelection) (store : DeviceStore) (peer : DeviceSnapshot)
    (fingerprintSha256 : QByteArray) : StoredDevice where
  deviceId := peer.id
  deviceAlias := selectAlias qt selection (store.find peer.id) peer
  platform := peer.platform
  fingerprintSha256 := fingerprintSha256
  lastAddresses := addressStrings peer.addresses
  autoAcceptFiles := selection.autoAcceptFiles
  revoked := false

def rollbackText (diagnostic : QString) (rollback : TrustedDeviceStoreResult) : QString :=
  if rollback.ok then diagnostic
  else diagnostic ++ QString.literal "; rollback failed: " ++ rollback.diagnostic

/-- `commit` once the record is staged. -/
def commitStaged (sessionId : QUuid) (saveFaults rollbackFaults : SaveFaults)
    (failNow completeNow : QDateTime) (staged store : DeviceStore) (files : StoreFiles)
    (machine : PairingStateMachine) : CommitStep :=
  let (saved, files) := staged.save saveFaults.primary saveFaults.backup files
  if ¬ saved.ok then
    let (rollback, files) := store.save rollbackFaults.primary rollbackFaults.backup files
    let failed := machine.fail sessionId .trustStoreWriteFailed failNow
    let combined := rollbackText saved.diagnostic rollback
    let diagnostic :=
      if failed.result.ok then combined
      else combined ++ QString.literal "; state transition failed: " ++ failed.result.diagnostic
    { result := ⟨.persistenceFailed, diagnostic⟩
      machine := failed.machine
      published := failed.published
      store
      files }
  else
    let completed := machine.complete sessionId completeNow
    if ¬ completed.result.ok then
      let (rollback, files) := store.save rollbackFaults.primary rollbackFaults.backup files
      { result := ⟨.transitionFailed, rollbackText completed.result.diagnostic rollback⟩
        machine := completed.machine
        published := completed.published
        store
        files }
    else
      { machine := completed.machine, published := completed.published, store := staged, files }

def commit (sessionId : QUuid) (selection : PairingTrustSelection)
    (saveFaults rollbackFaults : SaveFaults) (failNow completeNow : QDateTime)
    (store : DeviceStore) (files : StoreFiles) (machine : PairingStateMachine) : CommitStep :=
  let refuse (error : PairingTrustCommitError) (diagnostic : QString) : CommitStep :=
    { result := ⟨error, diagnostic⟩, machine, store, files }
  let notReady :=
    refuse .sessionNotConfirming (QString.literal "pairing session is not ready to persist trust")
  match machine.snapshot, machine.pendingFingerprint sessionId with
  | some snapshot, some fingerprint =>
    if snapshot.pairingSessionId ≠ sessionId ∨ snapshot.state ≠ .confirming then notReady
    else if qt.trimmed snapshot.peer.platform = [] then
      refuse .invalidPeer (QString.literal "pairing peer identity is incomplete")
    else
      match store.upsert qt hostAddress (record qt selection store snapshot.peer fingerprint) with
      | .error diagnostic => refuse .invalidTrustRecord diagnostic
      | .ok staged =>
        commitStaged sessionId saveFaults rollbackFaults failNow completeNow staged store files
          machine
  | _, _ => notReady

end PairingTrustCommitter

end DeskflowPlus.Pairing
