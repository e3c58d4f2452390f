import DeskflowPlus.Transfer.PathPolicy

/-!
# Manifest entries and the resume store

A resume state says, for one transfer, how many bytes of each unfinished file are durable and which
files have found their target. The store keeps the last state saved for each transfer; a save that
fails validation or meets an I/O fault leaves what it kept.
-/

namespace DeskflowPlus.Transfer

inductive ConflictPolicy where
  | autoRename
  | overwrite
  | skip
  | ask
  deriving DecidableEq

inductive IncomingConflictDecision where
  | overwrite
  | autoRename
  | skip
  | cancelTransfer
  deriving DecidableEq

inductive PartialDisposition where
  | keep
  | remove
  deriving DecidableEq

inductive ManifestEntryType where
  | file
  | directory
  deriving DecidableEq

structure ManifestEntry where
  id : FileId
  relativeProtocolPath : QString
  type : ManifestEntryType := .file
  size : Nat := 0
  modifiedUtc : QDateTime
  sha256 : QByteArray
  flags : UInt32 := 0
  deriving DecidableEq

inductive ResumeDirection where
  | sending
  | receiving
  deriving DecidableEq

structure ResumeFileState where
  fileId : FileId
  relativeProtocolPath : QString
  durableOffset : Nat := 0
  totalBytes : Nat := 0
  partRelativePath : QString

structure ResolvedTargetState where
  fileId : FileId
  relativeTargetPath : QString
  size : Nat := 0
  sha256 : QByteArray
  decision : IncomingConflictDecision := .overwrite

structure ResumeState where
  transferId : TransferId
  peerDeviceId : DeviceId
  manifestSha256 : QByteArray
  direction : ResumeDirection := .receiving
  files : List ResumeFileState
  resolvedTargets : List ResolvedTargetState
  updatedUtc : QDateTime

structure ResumeStoreLimits where
  maximumEncodedBytes : Nat := 64 * 1024 * 1024
  maximumFiles : Nat := 100000
  pathLimits : PathLimits := {}

inductive ResumeStoreError where
  | invalidStoreDirectory
  | directoryCreateFailed
  | invalidState
  | invalidPath
  | tooManyFiles
  | stateTooLarge
  | openFailed
  | readFailed
  | writeFailed
  | commitFailed
  | notFound
  | malformedCbor
  | unsupportedSchema
  | invalidFields
  | transferIdMismatch
  | removeFailed

abbrev ResumeStoreResult (α : Type) := Except (ResumeStoreError × String) α

namespace ResumeStore

def qint64Max : Nat := 2 ^ 63 - 1

def isSupportedUnsignedInteger (value : Nat) : Bool := value ≤ qint64Max

def isResolvedDecision (decision : IncomingConflictDecision) : Bool :=
  decision = .autoRename || decision = .overwrite || decision = .skip

/-- The identities and collision keys met so far while a state is validated. -/
structure Seen where
  fileIds : List FileId := []
  protocolPaths : List QString := []
  partPaths : List QString := []
  resolvedPaths : List QString := []

variable (qt : QtText)

def validateFile (limits : ResumeStoreLimits) (seen : Seen) (file : ResumeFileState) :
    ResumeStoreResult Seen :=
  if file.fileId ∈ seen.fileIds then .error (.invalidState, "resume contains a duplicate file ID")
  else
    let protocolPath := PathPolicy.validateRelative qt file.relativeProtocolPath limits.pathLimits
    if ¬ protocolPath.ok ∨ protocolPath.normalized ≠ file.relativeProtocolPath then
      .error (.invalidPath, if protocolPath.ok then "resume protocol path is not NFC-normalized"
        else protocolPath.diagnostic)
    else if protocolPath.collisionKey ∈ seen.protocolPaths then
      .error (.invalidPath, "resume contains colliding protocol paths")
    else
      let partPath := PathPolicy.validateRelative qt file.partRelativePath limits.pathLimits
      if ¬ partPath.ok ∨ partPath.normalized ≠ file.partRelativePath then
        .error (.invalidPath, if partPath.ok then "resume partial path is not NFC-normalized"
          else partPath.diagnostic)
      else if partPath.collisionKey ∈ seen.partPaths then
        .error (.invalidPath, "resume contains colliding partial paths")
      else if file.durableOffset > file.totalBytes ∨
          ¬ isSupportedUnsignedInteger file.durableOffset ∨
          ¬ isSupportedUnsignedInteger file.totalBytes then
        .error (.invalidState, "resume durable offset or file size is invalid")
      else
        .ok { seen with
          fileIds := file.fileId :: seen.fileIds
          protocolPaths := protocolPath.collisionKey :: seen.protocolPaths
          partPaths := partPath.collisionKey :: seen.partPaths }

def validateTarget (limits : ResumeStoreLimits) (seen : Seen) (target : ResolvedTargetState) :
    ResumeStoreResult Seen :=
  if target.fileId ∈ seen.fileIds ∨ ¬ isSupportedUnsignedInteger target.size ∨
      target.sha256.length ≠ kSha256Bytes ∨ ¬ isResolvedDecision target.decision then
    .error (.invalidState, "resolved target identity or content binding is invalid")
  else
    let seen := { seen with fileIds := target.fileId :: seen.fileIds }
    if target.decision = .skip then
      if target.relativeTargetPath ≠ [] then
        .error (.invalidPath, "skipped target must not contain a path")
      else .ok seen
    else
      let targetPath := PathPolicy.validateRelative qt target.relativeTargetPath limits.pathLimits
      if ¬ targetPath.ok ∨ targetPath.normalized ≠ target.relativeTargetPath then
        .error (.invalidPath, if targetPath.ok then "resolved target path is not NFC-normalized"
          else targetPath.diagnostic)
      else if targetPath.collisionKey ∈ seen.resolvedPaths then
        .error (.invalidPath, "resume contains colliding resolved target paths")
      else .ok { seen with resolvedPaths := targetPath.collisionKey :: seen.resolvedPaths }

def validateState (state : ResumeState) (limits : ResumeStoreLimits) : ResumeStoreResult Unit :=
  if state.peerDeviceId.value = 0 then .error (.invalidState, "resume peer device ID is null")
  else if state.manifestSha256.length ≠ kSha256Bytes then
    .error (.invalidState, "resume manifest hash must be SHA-256")
  else if ¬ state.updatedUtc.isValid ∨ state.updatedUtc.toMSecsSinceEpoch ≤ 0 then
    .error (.invalidState, "resume update timestamp is invalid")
  else if limits.maximumFiles = 0 ∨
      state.files.length + state.resolvedTargets.length > limits.maximumFiles then
    .error (.tooManyFiles, "resume file count exceeds the limit")
  else do
    let seen ← state.files.foldlM (validateFile qt limits) {}
    let _ ← state.resolvedTargets.foldlM (validateTarget qt limits) seen
    pure ()

end ResumeStore

/-- What a save or a removal meets on the disk: no fault, or the step that fails. -/
abbrev StoreFault := Option (ResumeStoreError × String)

structure ResumeStore where
  directoryIsAbsolute : Bool := true
  limits : ResumeStoreLimits := {}
  states : TransferId → Option ResumeState

namespace ResumeStore

variable (qt : QtText)

def save (store : ResumeStore) (state : ResumeState) (fault : StoreFault) :
    ResumeStoreResult Unit × ResumeStore :=
  if ¬ store.directoryIsAbsolute then
    (.error (.invalidStoreDirectory, "resume store directory must be absolute"), store)
  else
    match validateState qt state store.limits with
    | .error failure => (.error failure, store)
    | .ok () =>
      match fault with
      | some failure => (.error failure, store)
      | none =>
        (.ok (), { store with
          states := fun id => if id = state.transferId then some state else store.states id })

def load (store : ResumeStore) (transferId : TransferId) (fault : StoreFault) :
    ResumeStoreResult ResumeState :=
  if ¬ store.directoryIsAbsolute then
    .error (.invalidStoreDirectory, "resume store path or transfer ID is invalid")
  else
    match fault with
    | some failure => .error failure
    | none =>
      match store.states transferId with
      | none => .error (.notFound, "could not open resume state")
      | some state => .ok state

end ResumeStore

end DeskflowPlus.Transfer
