import DeskflowPlus.Transfer.FileMessageCodec
import DeskflowPlus.Transfer.ResumeStore

/-!
# The file receiver

One receiver stages one file: it opens a staging part, appends the chunks that continue it, and on
FILE_END compares size and hash before the part may be committed. A checkpoint makes the bytes
received so far durable and records their number in the resume store. Every disk operation takes
its outcome from a `FileIo`; the disk itself maps absolute paths to what stands there.
-/

namespace DeskflowPlus.Transfer

inductive DiskNode where
  | file (content : QByteArray)
  | directory
  | symLink (resolves : Bool)

/-- What stands at each absolute path. -/
abbrev Disk := QString → Option DiskNode

namespace Disk

/-- `QFileInfo::exists`, which follows links. -/
def pathExists (disk : Disk) (path : QString) : Bool :=
  match disk path with
  | none => false
  | some (.symLink resolves) => resolves
  | some _ => true

def write (disk : Disk) (path : QString) (content : QByteArray) : Disk :=
  fun other => if other = path then some (.file content) else disk other

def remove (disk : Disk) (path : QString) : Disk :=
  fun other => if other = path then none else disk other

def content (disk : Disk) (path : QString) : QByteArray :=
  match disk path with
  | some (.file content) => content
  | _ => []

end Disk

/-- The outcomes of the disk operations of one call. A write that is cut short puts the bytes it
counts on the disk. -/
structure FileIo where
  mkpath : Bool := true
  openFile : Bool := true
  readPrefix : Bool := true
  seek : Bool := true
  written : Option Nat := none
  resourceError : Bool := false
  flush : Bool := true
  sync : Bool := true
  removeFile : Bool := true
  save : StoreFault := none

inductive FileReceiverState where
  | idle
  | receiving
  | completed
  | failed
  | cancelled
  deriving DecidableEq

inductive FileReceiverError where
  | none
  | invalidState
  | invalidRequest
  | unsafePath
  | unsupportedConflictPolicy
  | stagingExists
  | directoryCreateFailed
  | stagingOpenFailed
  | transferIdMismatch
  | fileIdMismatch
  | offsetMismatch
  | sequenceMismatch
  | emptyChunk
  | chunkTooLarge
  | sizeOverflow
  | writeFailed
  | sizeMismatch
  | hashMismatch
  | targetExists
  | commitFailed
  | resumeStateMismatch
  | stagingSizeMismatch
  | stagingReadFailed
  deriving DecidableEq

structure FileReceiveRequest where
  receiveRoot : QString
  entry : ManifestEntry
  begin : FileBeginMessage
  manifestSha256 : QByteArray
  conflictPolicy : ConflictPolicy := .autoRename
  pathLimits : PathLimits := {}

structure FileReceiverResult where
  error : FileReceiverError := .none
  pathError : PathError := .none
  diagnostic : String := ""
  fileResult : Option FileResultMessage := none

def FileReceiverResult.ok (result : FileReceiverResult) : Bool := result.error = .none

structure FileReceiverSnapshot where
  state : FileReceiverState := .idle
  transferId : Option TransferId := none
  fileId : Option FileId := none
  expectedSize : Nat := 0
  receivedBytes : Nat := 0
  nextSequence : Nat := 0
  relativeProtocolPath : QString := []
  partPath : QString := []
  partRelativePath : QString := []
  committedPath : QString := []
  deriving DecidableEq

inductive DurableCheckpointError where
  | invalidReceiverState
  | resumeStateMismatch
  | flushFailed
  | syncFailed
  | persistFailed

abbrev DurableCheckpointResult := Except (DurableCheckpointError × String) FileCheckpointMessage

structure FileReceiver where
  snapshot : FileReceiverSnapshot := {}
  partFileOpen : Bool := false
  expectedSha256 : QByteArray := []
  chunkBytes : Nat := 0
  requestedTarget : QString := []
  conflictPolicy : ConflictPolicy := .autoRename
  hash : QByteArray := []
  deriving DecidableEq

namespace FileReceiver

def kMaximumChunkBytes : Nat := 4 * 1024 * 1024
def qint64Max : Nat := 2 ^ 63 - 1

def failure (error : FileReceiverError) (diagnostic : String) (pathError : PathError := .none) :
    FileReceiverResult :=
  { error, pathError, diagnostic }

def result (receiver : FileReceiver) (code : FileResultCode) (diagnostic : String := "") :
    FileReceiverResult :=
  match receiver.snapshot.transferId, receiver.snapshot.fileId with
  | some transferId, some fileId =>
    { fileResult := some ⟨transferId, fileId, code, QString.literal diagnostic⟩ }
  | _, _ => {}

def fail (receiver : FileReceiver) (error : FileReceiverError) (code : FileResultCode)
    (diagnostic : String) : FileReceiverResult × FileReceiver :=
  let failed := { receiver with
    partFileOpen := false
    snapshot := { receiver.snapshot with state := .failed } }
  ({ failed.result code diagnostic with error, diagnostic }, failed)

def stagingRelative (transferId : TransferId) (fileId : FileId) : QString :=
  QString.literal ".incoming/" ++ transferId.toString ++ QString.literal "/" ++ fileId.toString
    ++ QString.literal ".part"

def matching (state : ResumeState) (fileId : FileId) : List ResumeFileState :=
  state.files.filter fun file => file.fileId = fileId

def resumeStateMatches (request : FileReceiveRequest) (state : ResumeState)
    (matching : Option ResumeFileState) (normalized stagingRelative : QString) : Bool :=
  state.transferId = request.begin.transferId && state.peerDeviceId.value ≠ 0 &&
    state.direction = .receiving && state.manifestSha256.length = kSha256Bytes &&
    request.manifestSha256.length = kSha256Bytes &&
    state.manifestSha256 = request.manifestSha256 && state.updatedUtc.isValid &&
    0 < state.updatedUtc.toMSecsSinceEpoch &&
    match matching with
    | none => false
    | some file => file.relativeProtocolPath = normalized && file.totalBytes = request.entry.size &&
        file.durableOffset = request.begin.startOffset && file.partRelativePath = stagingRelative

def requestIsValid (request : FileReceiveRequest) : Bool :=
  request.entry.type = .file && request.begin.fileId = request.entry.id &&
    request.begin.size = request.entry.size && request.begin.size ≤ qint64Max &&
    request.begin.startOffset ≤ request.begin.size && request.begin.chunkBytes ≠ 0 &&
    request.begin.chunkBytes ≤ kMaximumChunkBytes &&
    request.entry.sha256.length = kSha256Bytes &&
    request.begin.expectedSha256 = request.entry.sha256

def opened (request : FileReceiveRequest) (normalized requestedTarget partPath : QString)
    (hash : QByteArray) : FileReceiver where
  partFileOpen := true
  expectedSha256 := request.entry.sha256
  chunkBytes := request.begin.chunkBytes
  requestedTarget := requestedTarget
  conflictPolicy := request.conflictPolicy
  hash := hash
  snapshot :=
    { state := .receiving
      transferId := some request.begin.transferId
      fileId := some request.begin.fileId
      expectedSize := request.begin.size
      receivedBytes := request.begin.startOffset
      nextSequence := 0
      relativeProtocolPath := normalized
      partPath
      partRelativePath := stagingRelative request.begin.transferId request.begin.fileId }

variable (qt : QtText)

def beginInternal (request : FileReceiveRequest) (resumeState : Option ResumeState) (io : FileIo)
    (receiver : FileReceiver) (disk : Disk) : FileReceiverResult × FileReceiver × Disk :=
  if receiver.snapshot.state ≠ .idle then
    (failure .invalidState "file receiver is not idle", receiver, disk)
  else if request.conflictPolicy ≠ .autoRename then
    (failure .unsupportedConflictPolicy
      "this receiver slice supports only the default auto-rename policy", receiver, disk)
  else if ¬ requestIsValid request then
    (failure .invalidRequest "FILE_BEGIN does not match the accepted manifest entry", receiver, disk)
  else
    let (targetPath, requestedTarget) := PathPolicy.joinLexicallyUnderRoot qt request.receiveRoot
      request.entry.relativeProtocolPath request.pathLimits
    if ¬ targetPath.ok then
      (failure .unsafePath targetPath.diagnostic targetPath.error, receiver, disk)
    else
      let staging := stagingRelative request.begin.transferId request.begin.fileId
      let (stagingPath, partPath) := PathPolicy.joinLexicallyUnderRoot qt request.receiveRoot
        staging request.pathLimits
      if ¬ stagingPath.ok then
        (failure .unsafePath stagingPath.diagnostic stagingPath.error, receiver, disk)
      else if resumeState.isNone ∧ disk.pathExists partPath then
        (failure .stagingExists
          "a staging file already exists; resume state is required before it can be reused",
          receiver, disk)
      else if ¬ io.mkpath then
        (failure .directoryCreateFailed "could not create the staging directory", receiver, disk)
      else
        let receiver := { receiver with hash := [] }
        match resumeState with
        | none =>
          if ¬ io.openFile then
            (failure .stagingOpenFailed "could not exclusively create the staging file", receiver,
              disk)
          else
            ({}, opened request targetPath.normalized requestedTarget partPath [],
              disk.write partPath [])
        | some state =>
          match matching state request.begin.fileId with
          | _ :: _ :: _ =>
            (failure .resumeStateMismatch "resume state contains duplicate file IDs", receiver, disk)
          | files =>
            if ¬ resumeStateMatches request state files.head? targetPath.normalized staging then
              (failure .resumeStateMismatch
                "resume state does not match the accepted manifest and FILE_BEGIN", receiver, disk)
            else
              match disk partPath with
              | some (.file content) =>
                if content.length ≠ request.begin.startOffset then
                  (failure .stagingSizeMismatch
                    "staging file size does not match the durable resume offset", receiver, disk)
                else if ¬ io.openFile then
                  (failure .stagingOpenFailed "could not reopen the staging file", receiver, disk)
                else if ¬ io.readPrefix ∧ 0 < request.begin.startOffset then
                  (failure .stagingReadFailed "could not rehash the complete staging prefix",
                    receiver, disk)
                else if ¬ io.seek then
                  (failure .stagingReadFailed "could not seek to the resume offset", receiver, disk)
                else
                  ({}, opened request targetPath.normalized requestedTarget partPath content, disk)
              | _ =>
                (failure .stagingSizeMismatch
                  "staging file size does not match the durable resume offset", receiver, disk)

def begin (request : FileReceiveRequest) (io : FileIo) (receiver : FileReceiver) (disk : Disk) :
    FileReceiverResult × FileReceiver × Disk :=
  if request.begin.startOffset ≠ 0 then
    (failure .resumeStateMismatch
      "a non-zero FILE_BEGIN offset requires explicit validated resume state", receiver, disk)
  else beginInternal qt request none io receiver disk

def resume (request : FileReceiveRequest) (state : ResumeState) (io : FileIo)
    (receiver : FileReceiver) (disk : Disk) : FileReceiverResult × FileReceiver × Disk :=
  beginInternal qt request (some state) io receiver disk

/-- The part's handle stands at its end: a new part is empty, and a reopened one was as long as the
offset it was seeked to. -/
def append (chunk : FileChunkMessage) (payload : QByteArray) (io : FileIo)
    (receiver : FileReceiver) (disk : Disk) : FileReceiverResult × FileReceiver × Disk :=
  let failed (error : FileReceiverError) (code : FileResultCode) (diagnostic : String) :=
    let (result, receiver) := receiver.fail error code diagnostic
    (result, receiver, disk)
  if receiver.snapshot.state ≠ .receiving then
    (failure .invalidState "file receiver is not accepting chunks", receiver, disk)
  else if receiver.snapshot.transferId ≠ some chunk.transferId then
    failed .transferIdMismatch .ioError "TRANSFER_ID_MISMATCH"
  else if receiver.snapshot.fileId ≠ some chunk.fileId then
    failed .fileIdMismatch .ioError "FILE_ID_MISMATCH"
  else if chunk.offset ≠ receiver.snapshot.receivedBytes then
    failed .offsetMismatch .ioError "OFFSET_MISMATCH"
  else if chunk.sequence ≠ receiver.snapshot.nextSequence then
    failed .sequenceMismatch .ioError "SEQUENCE_MISMATCH"
  else if payload = [] then failed .emptyChunk .ioError "EMPTY_FILE_CHUNK"
  else if payload.length > receiver.chunkBytes then
    failed .chunkTooLarge .ioError "FILE_CHUNK_TOO_LARGE"
  else if payload.length > receiver.snapshot.expectedSize - receiver.snapshot.receivedBytes then
    failed .sizeOverflow .sizeMismatch "FILE_SIZE_OVERFLOW"
  else
    let partPath := receiver.snapshot.partPath
    match io.written with
    | some written =>
      let (result, receiver) := receiver.fail .writeFailed
        (if io.resourceError then .diskFull else .ioError) "STAGING_WRITE_FAILED"
      (result, receiver, disk.write partPath (disk.content partPath ++ payload.take written))
    | none =>
      ({}, { receiver with
        hash := receiver.hash ++ payload
        snapshot := { receiver.snapshot with
          receivedBytes := receiver.snapshot.receivedBytes + payload.length
          nextSequence := receiver.snapshot.nextSequence + 1 } },
        disk.write partPath (disk.content partPath ++ payload))

variable (sha : Sha256)

def finishStaging (finish : FileEndMessage) (io : FileIo) (receiver : FileReceiver) :
    FileReceiverResult × FileReceiver :=
  if receiver.snapshot.state ≠ .receiving then
    (failure .invalidState "file receiver is not awaiting FILE_END", receiver)
  else if receiver.snapshot.transferId ≠ some finish.transferId then
    receiver.fail .transferIdMismatch .ioError "TRANSFER_ID_MISMATCH"
  else if receiver.snapshot.fileId ≠ some finish.fileId then
    receiver.fail .fileIdMismatch .ioError "FILE_ID_MISMATCH"
  else if finish.size ≠ receiver.snapshot.expectedSize ∨
      receiver.snapshot.receivedBytes ≠ receiver.snapshot.expectedSize then
    receiver.fail .sizeMismatch .sizeMismatch "FILE_SIZE_MISMATCH"
  else if finish.sha256 ≠ receiver.expectedSha256 then
    receiver.fail .hashMismatch .hashMismatch "FILE_HASH_MISMATCH"
  else if ¬ io.flush then receiver.fail .writeFailed .ioError "STAGING_FLUSH_FAILED"
  else
    let receiver := { receiver with partFileOpen := false }
    if sha.hash receiver.hash ≠ receiver.expectedSha256 then
      receiver.fail .hashMismatch .hashMismatch "FILE_HASH_MISMATCH"
    else ({}, receiver)

def failCommit (receiver : FileReceiver) (error : FileReceiverError) (code : FileResultCode)
    (diagnostic : String) : FileReceiverResult × FileReceiver :=
  receiver.fail error code diagnostic

def confirmCommitted (committedPath : QString) (receiver : FileReceiver) (disk : Disk) :
    FileReceiverResult × FileReceiver :=
  if receiver.snapshot.state ≠ .receiving ∨ committedPath = [] ∨
      disk.pathExists receiver.snapshot.partPath then
    receiver.failCommit .commitFailed .ioError "ATOMIC_COMMIT_CONFIRMATION_FAILED"
  else
    let receiver := { receiver with
      snapshot := { receiver.snapshot with committedPath, state := .completed } }
    (receiver.result .ok, receiver)

def cancel (disposition : PartialDisposition) (io : FileIo) (receiver : FileReceiver)
    (disk : Disk) : FileReceiverResult × FileReceiver × Disk :=
  if receiver.snapshot.state = .completed then
    (failure .invalidState "a committed file cannot be cancelled", receiver, disk)
  else if receiver.snapshot.state = .cancelled then
    (receiver.result .cancelled "CANCELLED", receiver, disk)
  else
    let disk := if disposition = .remove ∧ receiver.snapshot.partPath ≠ [] ∧ io.removeFile then
      disk.remove receiver.snapshot.partPath else disk
    let receiver := { receiver with
      partFileOpen := false
      snapshot := { receiver.snapshot with state := .cancelled } }
    (receiver.result .cancelled "CANCELLED", receiver, disk)

def withDurableOffset (state : ResumeState) (fileId : FileId) (offset : Nat)
    (updatedUtc : QDateTime) : ResumeState :=
  { state with
    files := state.files.map fun file =>
      if file.fileId = fileId then { file with durableOffset := offset } else file
    updatedUtc }

def checkpoint (store : ResumeStore) (state : ResumeState) (updatedUtc : QDateTime) (io : FileIo)
    (receiver : FileReceiver) : DurableCheckpointResult × ResumeStore × ResumeState :=
  let refused (error : DurableCheckpointError) (diagnostic : String) :
      DurableCheckpointResult × ResumeStore × ResumeState :=
    (.error (error, diagnostic), store, state)
  match receiver.snapshot.transferId, receiver.snapshot.fileId with
  | some transferId, some fileId =>
    if receiver.snapshot.state ≠ .receiving ∨ ¬ receiver.partFileOpen then
      refused .invalidReceiverState "file receiver is not checkpointable"
    else if state.transferId ≠ transferId ∨ state.direction ≠ .receiving ∨
        state.manifestSha256.length ≠ kSha256Bytes then
      refused .resumeStateMismatch "resume state does not match the receiver"
    else
      match matching state fileId with
      | _ :: _ :: _ => refused .resumeStateMismatch "resume state contains duplicate file IDs"
      | files =>
        match files.head? with
        | none => refused .resumeStateMismatch "resume file state does not match the receiver"
        | some file =>
          if file.relativeProtocolPath ≠ receiver.snapshot.relativeProtocolPath ∨
              file.totalBytes ≠ receiver.snapshot.expectedSize ∨
              file.partRelativePath ≠ receiver.snapshot.partRelativePath ∨
              file.durableOffset > receiver.snapshot.receivedBytes then
            refused .resumeStateMismatch "resume file state does not match the receiver"
          else if ¬ updatedUtc.isValid ∨ updatedUtc.toMSecsSinceEpoch ≤ 0 then
            refused .resumeStateMismatch "checkpoint timestamp is invalid"
          else if ¬ io.flush then refused .flushFailed "could not flush the staging file"
          else if ¬ io.sync then
            refused .syncFailed "could not sync the staging file to stable storage"
          else
            let candidate :=
              withDurableOffset state fileId receiver.snapshot.receivedBytes updatedUtc
            match store.save qt candidate io.save with
            | (.error (_, diagnostic), store) =>
              (.error (.persistFailed,
                if diagnostic = "" then "could not persist durable checkpoint" else diagnostic),
                store, state)
            | (.ok (), store) =>
              (.ok ⟨transferId, fileId, receiver.snapshot.receivedBytes⟩, store, candidate)
  | _, _ => refused .invalidReceiverState "file receiver is not checkpointable"

theorem append_of_continues {chunk : FileChunkMessage} {payload : QByteArray} {io : FileIo}
    {receiver : FileReceiver} {disk : Disk} (hstate : receiver.snapshot.state = .receiving)
    (htransfer : receiver.snapshot.transferId = some chunk.transferId)
    (hfile : receiver.snapshot.fileId = some chunk.fileId)
    (hoffset : chunk.offset = receiver.snapshot.receivedBytes)
    (hsequence : chunk.sequence = receiver.snapshot.nextSequence) (hpayload : payload ≠ [])
    (hchunk : payload.length ≤ receiver.chunkBytes)
    (hsize : payload.length ≤ receiver.snapshot.expectedSize - receiver.snapshot.receivedBytes)
    (hio : io.written = none) :
    append chunk payload io receiver disk =
      ({}, { receiver with
        hash := receiver.hash ++ payload
        snapshot := { receiver.snapshot with
          receivedBytes := receiver.snapshot.receivedBytes + payload.length
          nextSequence := receiver.snapshot.nextSequence + 1 } },
        disk.write receiver.snapshot.partPath
          (disk.content receiver.snapshot.partPath ++ payload)) := by
  unfold append
  simp only [hstate, htransfer, hfile, hoffset, hsequence, hpayload, hio, Nat.not_lt.mpr hchunk,
    Nat.not_lt.mpr hsize, ne_eq, not_true_eq_false, if_false]

theorem finishStaging_of_complete {finish : FileEndMessage} {io : FileIo} {receiver : FileReceiver}
    (hstate : receiver.snapshot.state = .receiving)
    (htransfer : receiver.snapshot.transferId = some finish.transferId)
    (hfile : receiver.snapshot.fileId = some finish.fileId)
    (hsize : finish.size = receiver.snapshot.expectedSize)
    (hreceived : receiver.snapshot.receivedBytes = receiver.snapshot.expectedSize)
    (hannounced : finish.sha256 = receiver.expectedSha256)
    (hhash : sha.hash receiver.hash = receiver.expectedSha256) (hio : io.flush = true) :
    finishStaging sha finish io receiver = ({}, { receiver with partFileOpen := false }) := by
  unfold finishStaging
  simp only [hstate, htransfer, hfile, hsize, hreceived, hannounced, hhash, hio, ne_eq,
    not_true_eq_false, or_self, if_false]

section

variable {qt} {request : FileReceiveRequest} {io : FileIo} {receiver : FileReceiver} {disk : Disk}

/-- What every way of opening a part checks first. -/
structure Openable (qt : QtText) (request : FileReceiveRequest) (io : FileIo)
    (receiver : FileReceiver) : Prop where
  idle : receiver.snapshot.state = .idle
  policy : request.conflictPolicy = .autoRename
  valid : requestIsValid request = true
  target : (PathPolicy.joinLexicallyUnderRoot qt request.receiveRoot
    request.entry.relativeProtocolPath request.pathLimits).1.ok = true
  staging : (PathPolicy.joinLexicallyUnderRoot qt request.receiveRoot
    (stagingRelative request.begin.transferId request.begin.fileId) request.pathLimits).1.ok = true
  mkpath : io.mkpath = true
  openFile : io.openFile = true

def partPathOf (qt : QtText) (request : FileReceiveRequest) : QString :=
  (PathPolicy.joinLexicallyUnderRoot qt request.receiveRoot
    (stagingRelative request.begin.transferId request.begin.fileId) request.pathLimits).2

/-- The receiver that stands behind `hash`, once the part is open. -/
def openedFor (qt : QtText) (request : FileReceiveRequest) (hash : QByteArray) : FileReceiver :=
  let join := PathPolicy.joinLexicallyUnderRoot qt request.receiveRoot
    request.entry.relativeProtocolPath request.pathLimits
  opened request join.1.normalized join.2 (partPathOf qt request) hash

theorem begin_of_openable (hopen : Openable qt request io receiver)
    (hoffset : request.begin.startOffset = 0)
    (habsent : disk.pathExists (partPathOf qt request) = false) :
    begin qt request io receiver disk =
      ({}, openedFor qt request [], disk.write (partPathOf qt request) []) := by
  unfold partPathOf at habsent
  simp only [begin, beginInternal, hoffset, hopen.idle, hopen.policy, hopen.valid, hopen.target,
    hopen.staging, hopen.mkpath, hopen.openFile, habsent, ne_eq, not_true_eq_false, if_false,
    and_false, Bool.false_eq_true]
  rfl

theorem resume_of_openable {state : ResumeState} {file : ResumeFileState} {content : QByteArray}
    (hopen : Openable qt request io receiver) (hread : io.readPrefix = true)
    (hseek : io.seek = true) (hmatching : matching state request.begin.fileId = [file])
    (hstate : resumeStateMatches request state (some file)
      (PathPolicy.joinLexicallyUnderRoot qt request.receiveRoot
        request.entry.relativeProtocolPath request.pathLimits).1.normalized
      (stagingRelative request.begin.transferId request.begin.fileId) = true)
    (hpart : disk (partPathOf qt request) = some (.file content))
    (hlength : content.length = request.begin.startOffset) :
    resume qt request state io receiver disk = ({}, openedFor qt request content, disk) := by
  unfold partPathOf at hpart
  simp only [resume, beginInternal, hopen.idle, hopen.policy, hopen.valid, hopen.target,
    hopen.staging, hopen.mkpath, hopen.openFile, hmatching, hpart, hlength, hread, hseek,
    List.head?_cons, hstate, Option.isNone_some, ne_eq, not_true_eq_false, if_false, false_and,
    Bool.false_eq_true]
  rfl

end

end FileReceiver

end DeskflowPlus.Transfer
