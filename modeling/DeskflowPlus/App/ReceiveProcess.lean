import DeskflowPlus.App.IncomingFileReceiverWorker
import DeskflowPlus.Transfer.ProtocolMessageRegistry
import DeskflowPlus.Transfer.TransferControlStateMachine
import DeskflowPlus.Transfer.TransferTypes

/-!
# The file frames of a receive pipeline

Once the manifest is complete, the pipeline's thread takes FILE_BEGIN, FILE_CHUNK and FILE_END
frames one by one. A file is received by a worker of its own, or, where its target is to be skipped,
only counted. What the peer is told, a checkpoint behind every chunk but the last and one result,
and what the user sees go to the runtime as reports.
-/

namespace DeskflowPlus.App

open Transfer

/-- The answers one frame meets: the worker's, once more for a file that was asked about, and the
stores'. A wait for the user's decision ends without one when the pipeline is stopped. -/
structure PipelineIo where
  worker : WorkerIo
  answered : WorkerIo
  partExists : Bool := false
  conflictDecision : Option IncomingConflictDecision := none
  now : QDateTime := {}
  save : StoreFault := none
  removeStates : Except String Unit := .ok ()

/-- What a pipeline hands to the runtime. -/
inductive PipelineReport where
  | response (frame : Frame)
  | progress (bytes files : Nat) (path : QString)
  | conflictDecisionRequired (prompt : IncomingConflictPrompt)
  | conflictCancelRequested (transferId : TransferId)
  | completed (path : QString)
  | failed (code : TransferErrorCode) (diagnostic : String)

structure ReceiveProcess where
  offer : TransferOffer
  options : ReceiveOptions
  entries : List ManifestEntry
  resumeStore : ResumeStore
  resumeState : ResumeState
  receiver : Option IncomingFileReceiverWorker := none
  skippedBegin : Option FileBeginMessage := none
  skippedEntry : Option ManifestEntry := none
  activeDecision : Option IncomingConflictDecision := none
  skippedBytes : Nat := 0
  skippedNextSequence : Nat := 0
  completedBytes : Nat := 0
  completedFiles : Nat := 0
  completedRelativePath : QString := []
  completedAtReceiveRoot : Bool := false
  activeStreamId : UInt32 := 0

abbrev PipelineStep := Bool × ReceiveProcess × List PipelineReport

def receiverErrorCode (error : FileReceiverError) : TransferErrorCode :=
  match error with
  | .unsafePath => .unsafePath
  | .hashMismatch => .hashMismatch
  | .writeFailed => .diskFull
  | _ => .internalError

def defaultConflictDecision (policy : ConflictPolicy) : IncomingConflictDecision :=
  match policy with
  | .autoRename => .autoRename
  | .skip => .skip
  | .overwrite | .ask => .overwrite

namespace ReceiveProcess

def encoded (message : FileControlMessage) : QByteArray :=
  match FileMessageCodec.encode message with
  | .ok metadata => metadata
  | .error _ => []

def checkpointFrame (p : ReceiveProcess) (checkpoint : FileCheckpointMessage) : Frame where
  type := .fileCheckpoint
  flags := FrameFlag.response
  streamId := p.activeStreamId.toUInt64
  metadata := encoded (.checkpoint checkpoint)

def resultFrame (p : ReceiveProcess) (result : FileResultMessage) : Frame where
  type := .fileResult
  flags := FrameFlag.response ||| FrameFlag.final
  streamId := p.activeStreamId.toUInt64
  metadata := encoded (.result result)

def sendFileResult (p : ReceiveProcess) (result : FileReceiverResult) : List PipelineReport :=
  match result.fileResult with
  | none => []
  | some message => [.response (p.resultFrame message)]

def fail (p : ReceiveProcess) (code : TransferErrorCode) (diagnostic : String) : PipelineStep :=
  (false, p, [.failed code diagnostic])

/-- The pipeline ends behind a receiver's failure, which the peer is told of. -/
def refuse (p : ReceiveProcess) (result : FileReceiverResult) : PipelineStep :=
  (false, p,
    p.sendFileResult result ++ [.failed (receiverErrorCode result.error) result.diagnostic])

def entryFor (p : ReceiveProcess) (fileId : FileId) : Option ManifestEntry :=
  p.entries.find? fun entry => entry.id = fileId && entry.type = .file

def resumeFileFor (p : ReceiveProcess) (fileId : FileId) : Option ResumeFileState :=
  match FileReceiver.matching p.resumeState fileId with
  | [file] => some file
  | _ => none

variable (qt : QtText) (relativeFilePath : QString → QString → QString)

def belowRoot (p : ReceiveProcess) (path : QString) : QString :=
  (if qt.isAbsolutePath path then relativeFilePath p.options.destinationRoot path else path).map
    fun unit => if unit = 0x5c then 0x2f else unit

def recordCompletedPath (path : QString) (p : ReceiveProcess) : ReceiveProcess :=
  let validated := PathPolicy.validateRelative qt (p.belowRoot qt relativeFilePath path)
  if ¬ validated.ok then p else { p with completedRelativePath := validated.normalized }

def resolvedState (fileId : FileId) (entry : ManifestEntry) (relativeTargetPath : QString)
    (decision : IncomingConflictDecision) (now : QDateTime) (state : ResumeState) : ResumeState :=
  { state with
    files := state.files.eraseP fun file => file.fileId = fileId
    resolvedTargets := state.resolvedTargets ++
      [{ fileId, relativeTargetPath, size := entry.size, sha256 := entry.sha256, decision }]
    updatedUtc := now }

def persisted (fileId : FileId) (targetPath : QString) (decision : IncomingConflictDecision)
    (io : PipelineIo) (p : ReceiveProcess) : Except String (ResumeStore × ResumeState) :=
  match p.resumeFileFor fileId, p.entryFor fileId with
  | some _, some entry =>
    if decision = .cancelTransfer then .error "completed file is absent from resume state"
    else
      let checked := PathPolicy.validateRelative qt (p.belowRoot qt relativeFilePath targetPath)
      if decision ≠ .skip ∧ ¬ checked.ok then .error checked.diagnostic
      else if p.resumeState.resolvedTargets.any (·.fileId = fileId) then
        .error "completed file already has a resolved target"
      else
        let relativeTargetPath := if decision = .skip then [] else checked.normalized
        let state := resolvedState fileId entry relativeTargetPath decision io.now p.resumeState
        match p.resumeStore.save qt state io.save with
        | (.error (_, diagnostic), _) => .error diagnostic
        | (.ok (), resumeStore) => .ok (resumeStore, state)
  | _, _ => .error "completed file is absent from resume state"

def persistCompletedFile (fileId : FileId) (targetPath : QString)
    (decision : IncomingConflictDecision) (io : PipelineIo) (p : ReceiveProcess) :
    Except String ReceiveProcess :=
  match p.persisted qt relativeFilePath fileId targetPath decision io with
  | .error diagnostic => .error diagnostic
  | .ok (resumeStore, resumeState) => .ok { p with resumeStore, resumeState }

def publishCompleted (io : PipelineIo) (p : ReceiveProcess) : PipelineReport :=
  match io.removeStates with
  | .error diagnostic => .failed .internalError diagnostic
  | .ok () =>
    .completed (if p.completedAtReceiveRoot then QString.literal "." else p.completedRelativePath)

def completeFile (size : Nat) (path : QString) (io : PipelineIo) (p : ReceiveProcess) :
    PipelineStep :=
  let p := { p with
    completedBytes := p.completedBytes + size
    completedFiles := p.completedFiles + 1 }
  let progress := .progress p.completedBytes p.completedFiles path
  if p.completedFiles = p.offer.fileCount then (false, p, [progress, p.publishCompleted io])
  else (true, p, [progress])

def report (reports : List PipelineReport) (step : PipelineStep) : PipelineStep :=
  (step.1, step.2.1, reports ++ step.2.2)

def settleBegin (begin : FileBeginMessage) (entry : ManifestEntry) (resolved : FileReceiverResult)
    (worker : IncomingFileReceiverWorker) (p : ReceiveProcess) : PipelineStep :=
  if ¬ resolved.ok then { p with receiver := some worker }.refuse resolved
  else if worker.disposition = .skip then
    let p := { p with
      activeDecision := some .skip
      receiver := none
      skippedBegin := some begin, skippedEntry := some entry
      skippedBytes := 0, skippedNextSequence := 0 }
    (true, p, [.progress p.completedBytes p.completedFiles entry.relativeProtocolPath])
  else
    (true, { p with receiver := some worker },
      [.progress (p.completedBytes + worker.receiver.snapshot.receivedBytes) p.completedFiles
        entry.relativeProtocolPath])

variable (arg : ConflictResolver.Arg)

def beginWorker (p : ReceiveProcess) (request : FileReceiveRequest) (io : PipelineIo) :
    FileReceiverResult × IncomingFileReceiverWorker :=
  if (p.resumeFileFor request.begin.fileId).isSome ∧ io.partExists then
    ({} : IncomingFileReceiverWorker).resume qt relativeFilePath arg request p.resumeState io.worker
  else ({} : IncomingFileReceiverWorker).begin qt relativeFilePath arg request io.worker

def processBegin (streamId : UInt64) (begin : FileBeginMessage) (io : PipelineIo)
    (p : ReceiveProcess) : PipelineStep :=
  if p.receiver.isSome ∨ p.skippedBegin.isSome then
    p.fail .internalError "FILE_BEGIN arrived while a file is active"
  else
    match p.entryFor begin.fileId with
    | none => p.fail .internalError "FILE_BEGIN is absent from accepted manifest"
    | some entry =>
      let request : FileReceiveRequest :=
        { receiveRoot := p.options.destinationRoot, entry, begin
          manifestSha256 := p.offer.manifestSha256
          conflictPolicy := p.options.conflictPolicy }
      let p := { p with
        activeStreamId := streamId.toUInt32
        activeDecision := some (defaultConflictDecision p.options.conflictPolicy) }
      let (result, worker) := p.beginWorker qt relativeFilePath arg request io
      match worker.pendingConflict with
      | none => p.settleBegin begin entry result worker
      | some prompt =>
        report [.conflictDecisionRequired prompt] <|
          match io.conflictDecision with
          | none => (false, { p with receiver := some worker }, [])
          | some decision =>
            if decision = .cancelTransfer then
              (false, { p with receiver := some worker },
                [.conflictCancelRequested p.offer.transferId])
            else
              let (resolved, worker) := worker.resolveConflict qt relativeFilePath arg decision
                io.answered
              { p with activeDecision := some decision }.settleBegin begin entry resolved worker

def skipChunk (begin : FileBeginMessage) (chunk : FileChunkMessage) (payload : QByteArray)
    (p : ReceiveProcess) : PipelineStep :=
  if p.skippedEntry.isNone ∨ chunk.transferId ≠ p.offer.transferId ∨
      chunk.fileId ≠ begin.fileId ∨ chunk.offset ≠ p.skippedBytes ∨
      chunk.sequence ≠ p.skippedNextSequence ∨ payload = [] ∨
      payload.length > begin.chunkBytes ∨ payload.length > begin.size - p.skippedBytes then
    p.fail .internalError "skipped file stream is invalid"
  else
    (true, { p with
      skippedBytes := p.skippedBytes + payload.length
      skippedNextSequence := p.skippedNextSequence + 1 }, [])

def receiveChunk (chunk : FileChunkMessage) (payload : QByteArray) (io : PipelineIo)
    (worker : IncomingFileReceiverWorker) (p : ReceiveProcess) : PipelineStep :=
  let (result, worker) := worker.append chunk payload io.worker
  let p := { p with receiver := some worker }
  if ¬ result.ok then p.refuse result
  else
    let snapshot := worker.receiver.snapshot
    let progress : PipelineReport :=
      .progress (p.completedBytes + snapshot.receivedBytes) p.completedFiles
        snapshot.relativeProtocolPath
    if snapshot.receivedBytes < snapshot.expectedSize then
      match worker.checkpoint qt p.resumeStore p.resumeState io.now io.worker with
      | (.error (_, diagnostic), resumeStore, resumeState) =>
        { p with resumeStore, resumeState }.fail .internalError diagnostic
      | (.ok checkpoint, resumeStore, resumeState) =>
        let p := { p with resumeStore, resumeState }
        (true, p, [.response (p.checkpointFrame checkpoint), progress])
    else (true, p, [progress])

def processChunk (chunk : FileChunkMessage) (payload : QByteArray) (io : PipelineIo)
    (p : ReceiveProcess) : PipelineStep :=
  match p.skippedBegin with
  | some begin => p.skipChunk begin chunk payload
  | none =>
    match p.receiver with
    | none => p.fail .internalError "FILE_CHUNK arrived without FILE_BEGIN"
    | some worker => p.receiveChunk qt chunk payload io worker

def skippedResult (fileEnd : FileEndMessage) : FileResultMessage :=
  ⟨fileEnd.transferId, fileEnd.fileId, .targetExists, QString.literal "TARGET_SKIPPED"⟩

def skipEnd (begin : FileBeginMessage) (fileEnd : FileEndMessage) (io : PipelineIo)
    (p : ReceiveProcess) : PipelineStep :=
  match p.skippedEntry with
  | none => p.fail .internalError "skipped FILE_END is invalid"
  | some entry =>
    if fileEnd.transferId ≠ p.offer.transferId ∨ fileEnd.fileId ≠ begin.fileId ∨
        fileEnd.size ≠ begin.size ∨ p.skippedBytes ≠ begin.size ∨
        fileEnd.sha256 ≠ entry.sha256 then
      p.fail .internalError "skipped FILE_END is invalid"
    else
      match p.persistCompletedFile qt relativeFilePath fileEnd.fileId [] .skip io with
      | .error diagnostic => p.fail .internalError diagnostic
      | .ok p =>
        report [.response (p.resultFrame (skippedResult fileEnd))] <|
          { p with
            completedAtReceiveRoot := true
            skippedBegin := none, skippedEntry := none }.completeFile entry.size
              entry.relativeProtocolPath io

def skipsRace (p : ReceiveProcess) (result : FileReceiverResult) : Bool :=
  p.options.conflictPolicy = .skip &&
    result.fileResult.any fun message => message.code = .targetExists

def receiveEnd (sha : Sha256) (fileEnd : FileEndMessage) (io : PipelineIo)
    (worker : IncomingFileReceiverWorker) (p : ReceiveProcess) : PipelineStep :=
  let (result, worker) := worker.finish qt arg sha fileEnd io.worker
  let snapshot := worker.receiver.snapshot
  let p := { p with receiver := some worker }
  if ¬ result.ok then
    match snapshot.fileId with
    | none => p.refuse result
    | some fileId =>
      if ¬ p.skipsRace result then p.refuse result
      else
        match p.persistCompletedFile qt relativeFilePath fileId [] .skip io with
        | .error _ => p.refuse result
        | .ok p =>
          report (p.sendFileResult result) <|
            { p with completedAtReceiveRoot := true, receiver := none }.completeFile
              snapshot.expectedSize snapshot.relativeProtocolPath io
  else
    match snapshot.fileId with
    | none => p.fail .internalError ""  -- a finished file has an identifier
    | some fileId =>
      let decision := p.activeDecision.getD (defaultConflictDecision p.options.conflictPolicy)
      match p.persistCompletedFile qt relativeFilePath fileId snapshot.committedPath decision
        io with
      | .error diagnostic => p.fail .internalError diagnostic
      | .ok p =>
        report (p.sendFileResult result) <|
          ({ p with receiver := none }.recordCompletedPath qt relativeFilePath
            snapshot.committedPath).completeFile snapshot.expectedSize
              snapshot.relativeProtocolPath io

def processEnd (sha : Sha256) (fileEnd : FileEndMessage) (io : PipelineIo) (p : ReceiveProcess) :
    PipelineStep :=
  match p.skippedBegin with
  | some begin => p.skipEnd qt relativeFilePath begin fileEnd io
  | none =>
    match p.receiver with
    | none => p.fail .internalError "FILE_END arrived without FILE_BEGIN"
    | some worker => p.receiveEnd qt relativeFilePath arg sha fileEnd io worker

def processMessage (sha : Sha256) (streamId : UInt64) (message : FileControlMessage)
    (payload : QByteArray) (io : PipelineIo) (p : ReceiveProcess) : PipelineStep :=
  match message with
  | .begin begin => p.processBegin qt relativeFilePath arg streamId begin io
  | .chunk chunk => p.processChunk qt chunk payload io
  | .finish fileEnd => p.processEnd qt relativeFilePath arg sha fileEnd io
  | .checkpoint _ | .result _ =>
    p.fail .internalError "unsupported frame reached incoming file worker"

def process (sha : Sha256) (frame : Frame) (io : PipelineIo) (p : ReceiveProcess) : PipelineStep :=
  match FileMessageCodec.decode frame.type frame.metadata with
  | .error (_, diagnostic) => p.fail .internalError diagnostic
  | .ok message =>
    p.processMessage qt relativeFilePath arg sha frame.streamId message frame.payload io

/-- The frames left of a list, up to the one that ends the pipeline. -/
def processAll (sha : Sha256) :
    List (UInt64 × FileControlMessage × QByteArray × PipelineIo) → ReceiveProcess → PipelineStep
  | [], p => (true, p, [])
  | (streamId, message, payload, io) :: messages, p =>
    match p.processMessage qt relativeFilePath arg sha streamId message payload io with
    | (true, p, reports) => report reports (processAll sha messages p)
    | (false, p, reports) => (false, p, reports)

end ReceiveProcess

def FileControlMessage.transferId : FileControlMessage → TransferId
  | .begin message => message.transferId
  | .chunk message => message.transferId
  | .checkpoint message => message.transferId
  | .finish message => message.transferId
  | .result message => message.transferId

def decodedDataTransferId (frame : Frame) : Except String TransferId :=
  if frame.type ∈ [MessageType.fileBegin, .fileChunk, .fileEnd] then
    match FileMessageCodec.decode frame.type frame.metadata with
    | .error (_, diagnostic) => .error diagnostic
    | .ok message => .ok (FileControlMessage.transferId message)
  else .error "frame type is not a valid cancelled transfer tail frame"

end DeskflowPlus.App
