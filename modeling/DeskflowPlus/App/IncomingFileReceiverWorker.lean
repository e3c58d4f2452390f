import DeskflowPlus.Transfer.FileReception

/-!
# The disk worker of an incoming file

The worker receives one file after the other. It has the resolver reserve a target, walks the
directories above the target and above the staging part, stages the file in a `FileReceiver`, and
has the platform commit the part to the target. A commit that meets a file which was not there
before is tried again with the target that the resolver chooses next. Every answer of the platform
and of the disk is taken from the call's `WorkerIo`.
-/

namespace DeskflowPlus.App

open Transfer

inductive FileSafetyError where
  | none
  | invalidRequest
  | receiveRootUnavailable
  | receiveRootNotDirectory
  | linkTraversalDetected
  | stagingFileUnavailable
  | destinationInvalid
  | destinationExists
  | commitFailed
  deriving DecidableEq

structure FileSafetyResult where
  error : FileSafetyError := .none
  diagnostic : String := ""
  deriving DecidableEq

def FileSafetyResult.ok (result : FileSafetyResult) : Bool := result.error = .none

structure VerifyNoLinkTraversalRequest where
  receiveRoot : QString
  candidatePath : QString

/-- The dispositions of the resolver's targets have the same numbers. -/
structure CommitStagedFileRequest where
  receiveRoot : QString
  stagingPath : QString
  destinationPath : QString
  disposition : TargetCommitDisposition := .failIfExists
  deriving DecidableEq

/-- What one walk down to a directory meets: the checks in their order, what stands at each level,
and whether the level can be made. -/
structure DirectoryIo where
  verifyNoLinkTraversal : Nat → VerifyNoLinkTraversalRequest → FileSafetyResult := fun _ _ => {}
  existingIsDir : Nat → Option Bool := fun _ => some true
  mkdir : Nat → Bool := fun _ => true

structure CommitIo where
  commitStagedFile : Nat → CommitStagedFileRequest → FileSafetyResult := fun _ _ => {}
  standing : Nat → QString → Bool := fun _ _ => false
  failsIfExists : ∀ attempt request, (commitStagedFile attempt request).ok = true →
    request.disposition = .failIfExists → standing attempt request.destinationPath = false

/-- The answers one call meets. Resolutions and retries are numbered through. -/
structure WorkerIo where
  owningThread : Bool := true
  verifyReceiveRoot : QString → FileSafetyResult := fun _ => {}
  views : Nat → Nat → DirectoryView
  createUuid : Nat → { uuid : QUuid // uuid ≠ 0 }
  askedIsDir : QString → Bool := fun _ => false
  targetDirectory : DirectoryIo := {}
  verifyTarget : VerifyNoLinkTraversalRequest → FileSafetyResult := fun _ => {}
  stagingDirectory : DirectoryIo := {}
  verifyStaging : VerifyNoLinkTraversalRequest → FileSafetyResult := fun _ => {}
  file : FileIo := {}
  disk : Disk := fun _ => none
  commits : CommitIo
  verifyRetried : Nat → VerifyNoLinkTraversalRequest → FileSafetyResult := fun _ _ => {}

inductive IncomingFileDisposition where
  | receive
  | skip
  deriving DecidableEq

structure IncomingConflictPrompt where
  transferId : TransferId
  conflictId : QUuid
  relativeProtocolPath : QString
  existingIsDirectory : Bool

/-- What is asked of the worker and what it asks of others. -/
inductive WorkerEvent where
  | given (policy : ConflictPolicy)
  | answered (decision : IncomingConflictDecision)
  | decided (decision : ConflictDecision)
  | staged (receiver : FileReceiver)
  | committing (request : CommitStagedFileRequest) (result : FileSafetyResult) (standing : Bool)
  | removed (path : QString)
  | reported (committedPath : QString)
  deriving DecidableEq

/-- The journal is the model's own, with the newest event first. -/
structure IncomingFileReceiverWorker where
  receiver : FileReceiver := {}
  conflicts : ConflictResolver := {}
  conflictRequest : ConflictResolveRequest := { targetRoot := [], relativeProtocolPath := [] }
  target : Option UseTarget := none
  pendingConflict : Option IncomingConflictPrompt := none
  pendingRequest : Option FileReceiveRequest := none
  pendingResumeState : Option ResumeState := none
  disposition : IncomingFileDisposition := .receive
  receiveRoot : QString := []
  journal : List WorkerEvent := []

namespace IncomingFileReceiverWorker

open FileReceiver (failure)

def wrongThread : FileReceiverResult :=
  failure .invalidState "file receiver must stay on its constructing disk worker"

def safetyFailure (result : FileSafetyResult) : FileReceiverResult :=
  failure
    (if result.error = .linkTraversalDetected ∨ result.error = .destinationInvalid then .unsafePath
    else .invalidRequest) result.diagnostic

theorem safetyFailure_ok (result : FileSafetyResult) : (safetyFailure result).ok = false := by
  unfold safetyFailure
  split <;> rfl

/-- `QFileInfo::absolutePath`: the part before the last slash, but for a slash alone. -/
def absolutePath (path : QString) : QString :=
  let directory := ConflictResolver.directoryOf path
  if directory = [0x2f] then directory else directory.dropLast

variable (qt : QtText) (relativeFilePath : QString → QString → QString)

def ensureLevels (io : DirectoryIo) (receiveRoot : QString) :
    List QString → Nat → QString → FileSafetyResult
  | [], _, _ => {}
  | component :: components, level, above =>
    let current := qt.absoluteFilePath above component
    let before := io.verifyNoLinkTraversal (2 * level) ⟨receiveRoot, current⟩
    let after := io.verifyNoLinkTraversal (2 * level + 1) ⟨receiveRoot, current⟩
    if ¬ before.ok then before
    else if io.existingIsDir level = some false then
      ⟨.destinationInvalid, "receive path parent exists but is not a directory"⟩
    else if io.existingIsDir level = none ∧ ¬ io.mkdir level then
      ⟨.destinationInvalid, "could not create a verified receive directory"⟩
    else if ¬ after.ok then after
    else ensureLevels io receiveRoot components (level + 1) current

def ensureSafeDirectoryPath (io : DirectoryIo) (receiveRoot absoluteDirectory : QString) :
    FileSafetyResult :=
  let relative := (relativeFilePath receiveRoot absoluteDirectory).map fun unit =>
    if unit = 0x5c then 0x2f else unit
  if relative = QString.literal "." then {}
  else
    let path := PathPolicy.validateRelative qt relative
    if ¬ path.ok ∨ path.normalized ≠ relative then
      ⟨.destinationInvalid, "receive directory is not a normalized child of the receive root"⟩
    else
      ensureLevels qt io receiveRoot ((relative.splitOn 0x2f).filter (· ≠ [])) 0
        (qt.cleanPath receiveRoot)

/-- Everything between the reservation of the target and the open part. -/
def stage (request : FileReceiveRequest) (resumeState : Option ResumeState) (target : UseTarget)
    (io : WorkerIo) (receiver : FileReceiver) : FileReceiverResult × FileReceiver :=
  let targetDirectory := ensureSafeDirectoryPath qt relativeFilePath io.targetDirectory
    request.receiveRoot (absolutePath target.absolutePath)
  let safeTarget := io.verifyTarget ⟨request.receiveRoot, target.absolutePath⟩
  let (staging, stagingPath) := PathPolicy.joinLexicallyUnderRoot qt request.receiveRoot
    (FileReceiver.stagingRelative request.begin.transferId request.begin.fileId) request.pathLimits
  let stagingDirectory := ensureSafeDirectoryPath qt relativeFilePath io.stagingDirectory
    request.receiveRoot (absolutePath stagingPath)
  let safeStaging := io.verifyStaging ⟨request.receiveRoot, stagingPath⟩
  if ¬ targetDirectory.ok then (safetyFailure targetDirectory, receiver)
  else if ¬ safeTarget.ok then (safetyFailure safeTarget, receiver)
  else if ¬ staging.ok then (failure .unsafePath staging.diagnostic staging.error, receiver)
  else if ¬ stagingDirectory.ok then (safetyFailure stagingDirectory, receiver)
  else if ¬ safeStaging.ok then (safetyFailure safeStaging, receiver)
  else
    -- the target is the resolver's and the platform's, the receiver must not resolve it again
    let receiverRequest := { request with conflictPolicy := .autoRename }
    let (begun, receiver, _) :=
      match resumeState with
      | none => receiver.begin qt receiverRequest io.file io.disk
      | some state => receiver.resume qt receiverRequest state io.file io.disk
    (begun, receiver)

variable (arg : ConflictResolver.Arg)

def openTarget (request : FileReceiveRequest) (resumeState : Option ResumeState)
    (target : UseTarget) (io : WorkerIo) (worker : IncomingFileReceiverWorker) :
    FileReceiverResult × IncomingFileReceiverWorker :=
  let (begun, receiver) := stage qt relativeFilePath request resumeState target io worker.receiver
  if ¬ begun.ok then
    (begun, { worker with
      receiver
      conflicts := (worker.conflicts.release target.reservationId).2 })
  else
    (begun, { worker with receiver, target := some target, receiveRoot := request.receiveRoot })

def beginInternal (request : FileReceiveRequest) (resumeState : Option ResumeState) (io : WorkerIo)
    (worker : IncomingFileReceiverWorker) : FileReceiverResult × IncomingFileReceiverWorker :=
  if ¬ io.owningThread then (wrongThread, worker)
  else
    let root := io.verifyReceiveRoot request.receiveRoot
    if ¬ root.ok then (safetyFailure root, worker)
    else
      let conflictRequest : ConflictResolveRequest :=
        { targetRoot := request.receiveRoot
          relativeProtocolPath := request.entry.relativeProtocolPath
          policy := request.conflictPolicy
          pathLimits := request.pathLimits }
      let (decision, conflicts) := worker.conflicts.resolve qt arg conflictRequest (io.views 0)
        (io.createUuid 0).val
      let worker := { worker with
        conflicts, conflictRequest
        pendingConflict := none, pendingRequest := none, pendingResumeState := none
        disposition := .receive
        journal := .decided decision :: worker.journal }
      match decision with
      | .useTarget target => worker.openTarget qt relativeFilePath request resumeState target io
      | .skipTarget _ =>
        ({}, { worker with disposition := .skip, receiveRoot := request.receiveRoot })
      | .failure error pathError diagnostic =>
        (failure (if error = .unsafePath then .unsafePath else .unsupportedConflictPolicy)
          diagnostic pathError, worker)
      | .askTarget conflictId absolutePath =>
        (failure .unsupportedConflictPolicy "conflict decision is pending", { worker with
          pendingConflict := some {
            transferId := request.begin.transferId, conflictId
            relativeProtocolPath := request.entry.relativeProtocolPath
            existingIsDirectory := io.askedIsDir absolutePath }
          pendingRequest := some request
          pendingResumeState := resumeState })

def begin (request : FileReceiveRequest) (io : WorkerIo) (worker : IncomingFileReceiverWorker) :
    FileReceiverResult × IncomingFileReceiverWorker :=
  { worker with journal := .given request.conflictPolicy :: worker.journal }.beginInternal qt
    relativeFilePath arg request none io

def resume (request : FileReceiveRequest) (state : ResumeState) (io : WorkerIo)
    (worker : IncomingFileReceiverWorker) : FileReceiverResult × IncomingFileReceiverWorker :=
  { worker with journal := .given request.conflictPolicy :: worker.journal }.beginInternal qt
    relativeFilePath arg request (some state) io

def resolvedPolicy (decision : IncomingConflictDecision) : ConflictPolicy :=
  if decision = .overwrite then .overwrite
  else if decision = .autoRename then .autoRename
  else .skip

def resolveConflict (decision : IncomingConflictDecision) (io : WorkerIo)
    (worker : IncomingFileReceiverWorker) : FileReceiverResult × IncomingFileReceiverWorker :=
  if ¬ io.owningThread then (wrongThread, worker)
  else
    match worker.pendingRequest with
    | none => (failure .invalidState "no conflict decision is pending", worker)
    | some request =>
      if decision = .cancelTransfer then
        (failure .invalidState "transfer cancellation requested", worker)
      else
        { worker with
          pendingConflict := none, pendingRequest := none, pendingResumeState := none
          journal := .answered decision :: worker.journal }.beginInternal qt relativeFilePath arg
            { request with conflictPolicy := resolvedPolicy decision } worker.pendingResumeState io

def append (chunk : FileChunkMessage) (payload : QByteArray) (io : WorkerIo)
    (worker : IncomingFileReceiverWorker) : FileReceiverResult × IncomingFileReceiverWorker :=
  if ¬ io.owningThread then (wrongThread, worker)
  else
    let (result, receiver, _) := worker.receiver.append chunk payload io.file io.disk
    (result, { worker with receiver })

def checkpoint (store : ResumeStore) (state : ResumeState) (updatedUtc : QDateTime) (io : WorkerIo)
    (worker : IncomingFileReceiverWorker) : DurableCheckpointResult × ResumeStore × ResumeState :=
  if ¬ io.owningThread then
    (.error (.invalidReceiverState, "file receiver must stay on its constructing disk worker"),
      store, state)
  else worker.receiver.checkpoint qt store state updatedUtc io.file

structure CommitOutcome where
  commit : FileSafetyResult
  committedPath : QString := []
  target : Option UseTarget
  conflicts : ConflictResolver
  journal : List WorkerEvent

/-- One round of the commit loop. Where it goes on, another target is held. -/
inductive CommitRound where
  | ends (outcome : CommitOutcome)
  | again (commit : FileSafetyResult) (target : UseTarget) (conflicts : ConflictResolver)
      (journal : List WorkerEvent)

def commitRequest (worker : IncomingFileReceiverWorker) (target : UseTarget) :
    CommitStagedFileRequest where
  receiveRoot := worker.receiveRoot
  stagingPath := worker.receiver.snapshot.partPath
  destinationPath := target.absolutePath
  disposition := target.commitDisposition

def retryCollision (worker : IncomingFileReceiverWorker) (commit : FileSafetyResult) : Bool :=
  commit.error = .destinationExists &&
    (worker.conflictRequest.policy = .autoRename || worker.conflictRequest.policy = .overwrite)

def commitRound (io : WorkerIo) (worker : IncomingFileReceiverWorker) (attempt : Nat)
    (target : UseTarget) (conflicts : ConflictResolver) (journal : List WorkerEvent) :
    CommitRound :=
  let request := worker.commitRequest target
  let commit := io.commits.commitStagedFile attempt request
  let journal := .committing request commit
    (io.commits.standing attempt request.destinationPath) :: journal
  if commit.ok then
    .ends {
      commit, journal
      committedPath := target.absolutePath
      target := none
      conflicts := (conflicts.release target.reservationId).2 }
  else if ¬ worker.retryCollision commit then
    .ends { commit, journal, target := some target, conflicts }
  else
    let (retried, conflicts) := conflicts.retry qt arg worker.conflictRequest target.reservationId
      (io.views (attempt + 1)) (io.createUuid (attempt + 1)).val
    let journal := .decided retried :: journal
    match retried with
    | .useTarget next =>
      let safeTarget := io.verifyRetried attempt ⟨worker.receiveRoot, next.absolutePath⟩
      if next.absolutePath = target.absolutePath then
        .ends {
          commit := { commit with diagnostic :=
            "platform reported a destination collision that is not visible to retry" }
          journal
          target := none
          conflicts := (conflicts.release next.reservationId).2 }
      else if ¬ safeTarget.ok then
        .ends {
          commit := safeTarget, journal
          target := none
          conflicts := (conflicts.release next.reservationId).2 }
      else .again commit next conflicts journal
    | .failure error _ diagnostic =>
      .ends {
        commit :=
          ⟨if error = .unsafePath then .destinationInvalid else .commitFailed, diagnostic⟩
        journal
        target := none
        conflicts }
    | _ => .ends { commit, journal, target := none, conflicts }

def commitLoop (io : WorkerIo) (worker : IncomingFileReceiverWorker) :
    Nat → Nat → FileSafetyResult → UseTarget → ConflictResolver → List WorkerEvent → CommitOutcome
  | 0, _, commit, target, conflicts, journal =>
    { commit, target := some target, conflicts, journal }
  | remaining + 1, attempt, _, target, conflicts, journal =>
    match worker.commitRound qt arg io attempt target conflicts journal with
    | .ends outcome => outcome
    | .again commit target conflicts journal =>
      commitLoop io worker remaining (attempt + 1) commit target conflicts journal

def commitReceiverError (error : FileSafetyError) : FileReceiverError :=
  if error = .destinationExists then .targetExists
  else if error = .linkTraversalDetected ∨ error = .destinationInvalid then .unsafePath
  else .commitFailed

def commitResultCode (error : FileSafetyError) : FileResultCode :=
  if error = .destinationExists then .targetExists
  else if error = .linkTraversalDetected ∨ error = .destinationInvalid then .pathInvalid
  else .ioError

def conclude (io : WorkerIo) (outcome : CommitOutcome) (worker : IncomingFileReceiverWorker) :
    FileReceiverResult × IncomingFileReceiverWorker :=
  let conflicts :=
    match outcome.target with
    | some target => (outcome.conflicts.release target.reservationId).2
    | none => outcome.conflicts
  let worker := { worker with conflicts, target := none, journal := outcome.journal }
  if ¬ outcome.commit.ok then
    let removes : Prop := worker.conflictRequest.policy = .skip ∧
      outcome.commit.error = .destinationExists
    let (result, receiver) := worker.receiver.failCommit (commitReceiverError outcome.commit.error)
      (commitResultCode outcome.commit.error) outcome.commit.diagnostic
    (result, { worker with
      receiver
      journal := if removes then .removed worker.receiver.snapshot.partPath :: worker.journal
        else worker.journal })
  else
    let (result, receiver) := worker.receiver.confirmCommitted outcome.committedPath io.disk
    (result, { worker with
      receiver
      journal := if result.ok then .reported receiver.snapshot.committedPath :: worker.journal
        else worker.journal })

def finish (sha : Sha256) (fileEnd : FileEndMessage) (io : WorkerIo)
    (worker : IncomingFileReceiverWorker) : FileReceiverResult × IncomingFileReceiverWorker :=
  if ¬ io.owningThread then (wrongThread, worker)
  else
    let unreserved := failure .invalidState "file receiver has no reserved commit target"
    match worker.target with
    | none => (unreserved, worker)
    | some target =>
      if worker.receiveRoot = [] then (unreserved, worker)
      else
        let (staged, receiver) := worker.receiver.finishStaging sha fileEnd io.file
        if ¬ staged.ok then
          (staged, { worker with
            receiver
            conflicts := (worker.conflicts.release target.reservationId).2
            target := none })
        else
          let worker := { worker with
            receiver
            journal := .staged worker.receiver :: worker.journal }
          let outcome := worker.commitLoop qt arg io
            worker.conflictRequest.maximumRenameAttempts.toNat 0 {} target worker.conflicts
            worker.journal
          worker.conclude io outcome

end IncomingFileReceiverWorker

end DeskflowPlus.App
