import DeskflowPlus.Transfer.FileMessageCodec
import DeskflowPlus.Transfer.ResumeStore

/-!
# The file sender

One sender streams one prepared file: it hashes the prefix a resume skips, announces the file, cuts
the rest into chunks and ends with the hash of everything it read. Each call reads the source at
most once and produces at most one frame. What the source path shows during a call is a `SourceView`.
-/

namespace DeskflowPlus.Transfer

def kMaxSenderChunkBytes : Nat := 4 * 1024 * 1024

structure PreparedManifestEntry where
  canonicalSourcePath : QString
  protocolCollisionKey : QString
  entry : ManifestEntry
  deriving DecidableEq

structure TransferSenderRequest where
  transferId : TransferId
  source : PreparedManifestEntry
  streamId : UInt64 := 0
  chunkBytes : Nat := 1024 * 1024
  startOffset : Nat := 0

structure SourceView where
  pathExists : Bool := true
  isSymLink : Bool := false
  isFile : Bool := true
  size : Int
  lastModified : Int
  opens : Bool := true
  openError : String := ""
  content : QByteArray
  readError : Option String := none

/-- At most `wanted` bytes from `offset` on. -/
def SourceView.read (view : SourceView) (offset wanted : Nat) : Except String QByteArray :=
  match view.readError with
  | some error => .error error
  | none => .ok ((view.content.drop offset).take wanted)

inductive TransferSenderError where
  | none
  | invalidRequest
  | sourceOpenFailed
  | sourceReadFailed
  | sourceChanged
  | protocolError
  | alreadyFinished
  deriving DecidableEq

inductive SenderFrameStatus where
  | preparing
  | frameReady
  | finished
  | failed
  deriving DecidableEq

structure SenderFrameResult where
  frame : Option Frame := none
  status : SenderFrameStatus := .failed
  error : TransferSenderError := .none
  diagnostic : String := ""

def SenderFrameResult.ready (result : SenderFrameResult) : Bool :=
  result.status = .frameReady && result.frame.isSome && result.error = .none

namespace TransferSender

inductive State where
  | initial
  | prefixHashing
  | beginPending
  | chunks
  | endPending
  | finished
  | failed
  deriving DecidableEq

end TransferSender

structure TransferSender where
  request : TransferSenderRequest
  hash : QByteArray := []
  offset : Nat := 0
  sequence : Nat := 0
  state : TransferSender.State := .initial

namespace TransferSender

def failure (error : TransferSenderError) (diagnostic : String) : SenderFrameResult :=
  { frame := none, status := .failed, error, diagnostic }

def snapshotMatches (view : SourceView) (entry : ManifestEntry) : Bool :=
  view.pathExists && !view.isSymLink && view.isFile && 0 ≤ view.size && view.size = entry.size &&
    view.lastModified = entry.modifiedUtc.toMSecsSinceEpoch

def failed (sender : TransferSender) (error : TransferSenderError) (diagnostic : String) :
    SenderFrameResult × TransferSender :=
  (failure error diagnostic, { sender with state := .failed })

variable (qt : QtText)

def validate (request : TransferSenderRequest) : Option (TransferSenderError × String) :=
  let entry := request.source.entry
  let path := PathPolicy.validateRelative qt entry.relativeProtocolPath
  if request.streamId = 0 ∨ request.chunkBytes = 0 ∨ request.chunkBytes > kMaxSenderChunkBytes ∨
      request.chunkBytes > ({} : ProtocolLimits).maxDataPayloadBytes.toNat then
    some (.invalidRequest, "sender identifiers, stream, or chunk size are invalid")
  else if request.source.canonicalSourcePath = [] ∨ entry.type ≠ .file ∨
      ¬ entry.modifiedUtc.isValid ∨ entry.modifiedUtc.toMSecsSinceEpoch < 0 ∨
      entry.sha256.length ≠ kSha256Bytes then
    some (.invalidRequest, "sender requires a prepared regular-file manifest entry with SHA-256")
  else if ¬ path.ok ∨ path.normalized ≠ entry.relativeProtocolPath then
    some (.invalidRequest, "sender manifest path is not a normalized RDFT/1 path")
  else if entry.size > 2 ^ 63 - 1 then
    some (.invalidRequest, "source size exceeds QFile's supported range")
  else if request.startOffset > entry.size then
    some (.invalidRequest, "resume offset exceeds source size")
  else none

def encodeFrame (sender : TransferSender) (message : FileControlMessage) (payload : QByteArray)
    (next : TransferSender) : SenderFrameResult × TransferSender :=
  match FileMessageCodec.encode message with
  | .error diagnostic => sender.failed .protocolError diagnostic
  | .ok metadata =>
    if metadata = [] then
      next.failed .protocolError "file message metadata could not be encoded"
    else
      let type := fileMessageType message
      ({ frame := some {
          version := kProtocolMajorVersion, type
          flags := if type = .fileEnd then FrameFlag.final else 0
          streamId := sender.request.streamId, metadata, payload }
         status := .frameReady }, next)

def rehashPrefix (sender : TransferSender) (view : SourceView) :
    SenderFrameResult × TransferSender :=
  let remaining := sender.request.startOffset - sender.offset
  let wanted := min remaining sender.request.chunkBytes
  match view.read sender.offset wanted with
  | .error error =>
    sender.failed .sourceReadFailed ("source prefix could not be read: " ++ error)
  | .ok bytes =>
    if bytes.length ≠ wanted then
      sender.failed .sourceChanged "source prefix produced a short read"
    else
      let offset := sender.offset + wanted
      ({ status := .preparing }, { sender with
        hash := sender.hash ++ bytes
        offset
        state := if offset = sender.request.startOffset then .beginPending else sender.state })

def beginFile (sender : TransferSender) : SenderFrameResult × TransferSender :=
  let request := sender.request
  let entry := request.source.entry
  let message : FileBeginMessage :=
    { transferId := request.transferId, fileId := entry.id, size := entry.size,
      startOffset := request.startOffset, chunkBytes := request.chunkBytes,
      expectedSha256 := entry.sha256 }
  sender.encodeFrame (.begin message) []
    { sender with state := if request.startOffset = entry.size then .endPending else .chunks }

def initializeSource (sender : TransferSender) (view : SourceView) :
    SenderFrameResult × TransferSender :=
  match validate qt sender.request with
  | some (error, diagnostic) => sender.failed error diagnostic
  | none =>
    if ¬ snapshotMatches view sender.request.source.entry then
      sender.failed .sourceChanged "source changed after manifest creation"
    else if ¬ view.opens then
      sender.failed .sourceOpenFailed ("source file could not be opened: " ++ view.openError)
    else if sender.request.startOffset = 0 then { sender with state := .beginPending }.beginFile
    else { sender with state := .prefixHashing }.rehashPrefix view

def produceChunk (sender : TransferSender) (view : SourceView) :
    SenderFrameResult × TransferSender :=
  let entry := sender.request.source.entry
  let remaining := entry.size - sender.offset
  let wanted := min remaining sender.request.chunkBytes
  match view.read sender.offset wanted with
  | .error error =>
    sender.failed .sourceReadFailed ("source file could not be read: " ++ error)
  | .ok payload =>
    if payload.length ≠ wanted then
      sender.failed .sourceChanged "source file produced a short read"
    else
      let message : FileChunkMessage :=
        { transferId := sender.request.transferId, fileId := entry.id, offset := sender.offset,
          sequence := sender.sequence }
      let offset := sender.offset + wanted
      sender.encodeFrame (.chunk message) payload { sender with
        hash := sender.hash ++ payload
        offset
        sequence := sender.sequence + 1
        state := if offset = entry.size then .endPending else sender.state }

variable (sha : Sha256)

def finishFile (sender : TransferSender) (view : SourceView) :
    SenderFrameResult × TransferSender :=
  let entry := sender.request.source.entry
  let actualSha256 := sha.hash sender.hash
  if sender.offset ≠ entry.size ∨ ¬ snapshotMatches view entry ∨ actualSha256 ≠ entry.sha256 then
    sender.failed .sourceChanged "source size, timestamp, or SHA-256 changed while sending"
  else
    let message : FileEndMessage :=
      { transferId := sender.request.transferId, fileId := entry.id, size := sender.offset,
        sha256 := actualSha256 }
    sender.encodeFrame (.finish message) [] { sender with state := .finished }

def nextFrame (sender : TransferSender) (view : SourceView) :
    SenderFrameResult × TransferSender :=
  match sender.state with
  | .initial => sender.initializeSource qt view
  | .prefixHashing => sender.rehashPrefix view
  | .beginPending => sender.beginFile
  | .chunks => sender.produceChunk view
  | .endPending => sender.finishFile sha view
  | .finished => ({ status := .finished }, sender)
  | .failed => (failure .alreadyFinished "sender is in a terminal failed state", sender)

def finished (sender : TransferSender) : Bool := sender.state = .finished

def fileFrame (sender : TransferSender) (message : FileControlMessage) (payload : QByteArray) :
    Frame :=
  { version := kProtocolMajorVersion
    type := fileMessageType message
    flags := if fileMessageType message = .fileEnd then FrameFlag.final else 0
    streamId := sender.request.streamId
    metadata := QCborMap.toCbor (FileMessageCodec.fields message)
    payload }

theorem encodeFrame_of_validate {message : FileControlMessage}
    (hvalid : FileMessageCodec.validate message = .ok ()) (sender next : TransferSender)
    (payload : QByteArray) :
    sender.encodeFrame message payload next =
      ({ frame := some (sender.fileFrame message payload), status := .frameReady }, next) := by
  have hmetadata : QCborMap.toCbor (FileMessageCodec.fields message) ≠ [] :=
    Cbor.encode_ne_nil _
  rw [encodeFrame, FileMessageCodec.encode_eq_ok.mpr ⟨hvalid, rfl⟩]
  exact if_neg hmetadata

theorem validate_eq_none {request : TransferSenderRequest} (h : validate qt request = none) :
    request.streamId ≠ 0 ∧ 0 < request.chunkBytes ∧ request.chunkBytes ≤ kMaxSenderChunkBytes ∧
      request.source.entry.type = .file ∧ request.source.entry.sha256.length = kSha256Bytes ∧
      qt.normalizedC request.source.entry.relativeProtocolPath =
        request.source.entry.relativeProtocolPath ∧
      request.source.entry.size ≤ 2 ^ 63 - 1 ∧ request.startOffset ≤ request.source.entry.size := by
  unfold validate at h
  dsimp only at h
  split_ifs at h with hchunk hentry hpath hsize hoffset
  simp only [not_or, not_not, not_lt] at hchunk hentry hpath
  have hnormalized := PathPolicy.validateRelative_normalized hpath.1
  rw [hpath.2] at hnormalized
  exact ⟨hchunk.1, by omega, hchunk.2.2.1, hentry.2.1, hentry.2.2.2.2, hnormalized.symm,
    by omega, by omega⟩

variable {sender : TransferSender}

theorem encodeFrame_request {next : TransferSender} {message : FileControlMessage}
    {payload : QByteArray} (hnext : next.request = sender.request) :
    (sender.encodeFrame message payload next).2.request = sender.request := by
  unfold encodeFrame
  split
  · rfl
  · split_ifs <;> exact hnext

theorem rehashPrefix_request {view : SourceView} :
    (sender.rehashPrefix view).2.request = sender.request := by
  unfold rehashPrefix
  dsimp only
  split
  · rfl
  · split_ifs <;> rfl

theorem beginFile_request :
    sender.beginFile.2.request = sender.request :=
  encodeFrame_request rfl

theorem nextFrame_request {view : SourceView} :
    (sender.nextFrame qt sha view).2.request = sender.request := by
  unfold nextFrame
  cases sender.state with
  | initial =>
    dsimp only
    unfold initializeSource
    split
    · rfl
    · split_ifs
      · exact beginFile_request
      · exact rehashPrefix_request
      · rfl
      · rfl
  | prefixHashing => exact rehashPrefix_request
  | beginPending => exact beginFile_request
  | chunks =>
    dsimp only
    unfold produceChunk
    dsimp only
    split
    · rfl
    · split
      · rfl
      · exact encodeFrame_request rfl
  | endPending =>
    dsimp only
    unfold finishFile
    dsimp only
    split_ifs
    · rfl
    · exact encodeFrame_request rfl
  | finished => rfl
  | failed => rfl

end TransferSender

end DeskflowPlus.Transfer
