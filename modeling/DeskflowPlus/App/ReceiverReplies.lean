import DeskflowPlus.App.SkippedFiles
import Mathlib.Tactic.SplitIfs

/-!
# The replies of a receive pipeline

A checkpoint or a result answers the FILE_BEGIN of its file: it names its transfer and file, and
goes out on its stream. The pipeline keeps the stream's identifier in 32 bits, and it passes on what
the platform says of a commit as the result's diagnostic. So every reply can be encoded and is
addressed rightly where streams are numbered below 2^32 and the platform gives its refusals a text
that fits.
-/

namespace DeskflowPlus.App

open Transfer

/-- A text that a failed FILE_RESULT may carry. -/
def Bounded (diagnostic : String) : Prop :=
  QString.literal diagnostic ≠ [] ∧
    (QString.literal diagnostic).toUtf8.length ≤ FileMessageCodec.kMaximumDiagnosticUtf8Bytes

instance (diagnostic : String) : Decidable (Bounded diagnostic) :=
  inferInstanceAs (Decidable (_ ∧ _))

/-- A text fits by its size, which is sooner computed than its UTF-16 form. -/
theorem bounded_of_size {diagnostic : String} (h : 0 < diagnostic.utf8ByteSize ∧
    diagnostic.utf8ByteSize ≤ FileMessageCodec.kMaximumDiagnosticUtf8Bytes) :
    Bounded diagnostic := by
  have hbytes := congrArg ByteArray.size (QString.toByteArray_ofChars diagnostic.toList)
  have hsize : (QString.literal diagnostic).toUtf8.length = diagnostic.utf8ByteSize := by
    refine hbytes.trans ?_
    rw [String.utf8Encode_toList]
    rfl
  refine ⟨fun hempty => ?_, hsize.le.trans h.2⟩
  rw [hempty] at hsize
  exact absurd hsize h.1.ne

/-! ### The path policy's diagnostics -/

section PathDiagnostics

variable {qt : QtText}

/-- A path that is refused is refused with a text that fits. -/
def Explains (result : PathValidationResult) : Prop :=
  result.ok = false → Bounded result.diagnostic

theorem Explains.ite {condition : Prop} [Decidable condition] {first second : PathValidationResult}
    (hfirst : Explains first) (hsecond : Explains second) :
    Explains (if condition then first else second) := by
  split
  · exact hfirst
  · exact hsecond

theorem validateComponent_explains {component : QString} {limits : PathLimits}
    {result : PathValidationResult}
    (h : PathPolicy.validateComponent qt component limits = some result) : Explains result := by
  unfold PathPolicy.validateComponent at h
  split_ifs at h <;> cases h <;> exact fun _ => bounded_of_size (by decide)

theorem validateRelative_explains (path : QString) (limits : PathLimits) :
    Explains (PathPolicy.validateRelative qt path limits) := by
  unfold PathPolicy.validateRelative
  refine .ite (fun _ => bounded_of_size (by decide)) (.ite (fun _ => bounded_of_size (by decide)) ?_)
  refine .ite (fun _ => bounded_of_size (by decide)) (.ite (fun _ => bounded_of_size (by decide)) ?_)
  dsimp only
  refine .ite (fun _ => bounded_of_size (by decide)) (.ite (fun _ => bounded_of_size (by decide)) ?_)
  split
  · rename_i failure hfailure
    obtain ⟨component, -, hcomponent⟩ := List.exists_of_findSome?_eq_some hfailure
    exact validateComponent_explains hcomponent
  · nofun

theorem join_explains (root path : QString) (limits : PathLimits) :
    Explains (PathPolicy.joinLexicallyUnderRoot qt root path limits).1 := by
  unfold PathPolicy.joinLexicallyUnderRoot
  rw [apply_ite Prod.fst]
  refine .ite (fun _ => bounded_of_size (by decide)) ?_
  dsimp only
  rw [apply_ite Prod.fst, apply_ite Prod.fst]
  exact .ite (validateRelative_explains path limits)
    (.ite (fun _ => bounded_of_size (by decide)) (validateRelative_explains path limits))

end PathDiagnostics

/-! ### The resolver's decisions -/

def Decides (request : ConflictResolveRequest) : ConflictDecision → Prop
  | .useTarget _ => True
  | .skipTarget _ => request.policy = .skip
  | .askTarget _ _ => request.policy = .ask
  | .failure _ _ diagnostic => Bounded diagnostic

section Decides

variable {qt : QtText} {arg : ConflictResolver.Arg} {request : ConflictResolveRequest}

theorem attempt_decides {normalized : QString} {index : Nat} {view : DirectoryView} {uuid : QUuid}
    {resolver : ConflictResolver} {answer : ConflictDecision × ConflictResolver}
    (h : ConflictResolver.attempt qt arg request normalized index view uuid resolver =
      some answer) : Decides request answer.1 := by
  unfold ConflictResolver.attempt at h
  dsimp only at h
  by_cases hok : (PathPolicy.joinLexicallyUnderRoot qt request.targetRoot
      (ConflictResolver.renamedRelativePath arg normalized index) request.pathLimits).1.ok = true
  · rw [if_neg (not_not_intro hok)] at h
    split_ifs at h with hskip hask hreserved hdirectory hrename hreplaces
    · cases h
      exact hskip.1
    · cases h
      exact hask.1
    · cases h
      show Bounded _
      exact bounded_of_size (by decide)
    · cases h
      show Bounded _
      exact bounded_of_size (by decide)
    · cases h
      exact trivial
    · cases h
      exact trivial
  · rw [if_pos hok] at h
    split_ifs at h
    cases h
    exact join_explains _ _ _ (Bool.eq_false_of_not_eq_true hok)

theorem search_decides {normalized : QString} {views : Nat → DirectoryView} {uuid : QUuid}
    {resolver : ConflictResolver} (remaining index : Nat) :
    Decides request
      (ConflictResolver.search qt arg request normalized views uuid resolver remaining
        index).1 := by
  induction remaining generalizing index with
  | zero =>
    show Bounded _
    exact bounded_of_size (by decide)
  | succ remaining ih =>
    rw [ConflictResolver.search]
    split
    · rename_i answer hattempt
      exact attempt_decides hattempt
    · exact ih (index + 1)

theorem resolve_decides (views : Nat → DirectoryView) (uuid : QUuid) (resolver : ConflictResolver) :
    Decides request (resolver.resolve qt arg request views uuid).1 := by
  unfold ConflictResolver.resolve
  dsimp only
  split
  · rename_i hrefused
    exact join_explains _ _ _ (Bool.eq_false_of_not_eq_true hrefused)
  · split
    · show Bounded _
      exact bounded_of_size (by decide)
    · exact search_decides _ 0

theorem retry_decides (reservationId : QUuid) (views : Nat → DirectoryView) (uuid : QUuid)
    (resolver : ConflictResolver) :
    Decides request (resolver.retry qt arg request reservationId views uuid).1 := by
  unfold ConflictResolver.retry
  dsimp only
  split
  · show Bounded _
    exact bounded_of_size (by decide)
  · split
    · show Bounded _
      exact bounded_of_size (by decide)
    · exact resolve_decides views uuid _

end Decides

/-! ### The receiver's results -/

def Tells (begin : FileBeginMessage) (result : FileReceiverResult) : Prop :=
  ∀ message, result.fileResult = some message →
    message.transferId = begin.transferId ∧ message.fileId = begin.fileId ∧
      FileMessageCodec.validateResult message = .ok ()

theorem tells_of_none {begin : FileBeginMessage} {result : FileReceiverResult}
    (h : result.fileResult = none) : Tells begin result := by
  intro message hmessage
  rw [h] at hmessage
  exact nomatch hmessage

structure Receives (begin : FileBeginMessage) (receiver : FileReceiver) : Prop where
  transferId : receiver.snapshot.transferId = some begin.transferId
  fileId : receiver.snapshot.fileId = some begin.fileId
  received : receiver.snapshot.receivedBytes ≤ receiver.snapshot.expectedSize
  expected : receiver.snapshot.expectedSize ≤ FileMessageCodec.qint64Max

namespace Receives

variable {begin : FileBeginMessage} {receiver : FileReceiver}

theorem closed (h : Receives begin receiver) (state : FileReceiverState) :
    Receives begin (receiver.closed state) :=
  ⟨h.transferId, h.fileId, h.received, h.expected⟩

theorem result_eq (h : Receives begin receiver) (code : FileResultCode) (diagnostic : String) :
    receiver.result code diagnostic =
      { fileResult := some
          ⟨begin.transferId, begin.fileId, code, QString.literal diagnostic⟩ } := by
  unfold FileReceiver.result
  rw [h.transferId, h.fileId]

theorem fail_tells (h : Receives begin receiver) {error : FileReceiverError} {code : FileResultCode}
    {diagnostic : String} (hcode : code ≠ .ok) (hdiagnostic : Bounded diagnostic) :
    Tells begin (receiver.fail error code diagnostic).1 := by
  intro message hmessage
  have hresult := (h.closed .failed).result_eq code diagnostic
  have hsent : ((receiver.closed .failed).result code diagnostic).fileResult = some message :=
    hmessage
  rw [hresult] at hsent
  cases hsent
  refine ⟨rfl, rfl, FileMessageCodec.validateResult_eq_ok.mpr ⟨?_, fun _ => hdiagnostic.2⟩⟩
  exact iff_of_false hcode hdiagnostic.1

end Receives

structure Answered (begin : FileBeginMessage) (performed : FileReceiverResult × FileReceiver) :
    Prop where
  tells : Tells begin performed.1
  receives : Receives begin performed.2

namespace Answered

variable {begin : FileBeginMessage} {receiver : FileReceiver}

theorem ite {condition : Prop} [Decidable condition]
    {first second : FileReceiverResult × FileReceiver}
    (hfirst : Answered begin first) (hsecond : ¬ condition → Answered begin second) :
    Answered begin (if condition then first else second) :=
  iteInduction (fun _ => hfirst) hsecond

theorem refused (h : Receives begin receiver) (error : FileReceiverError) (diagnostic : String) :
    Answered begin (FileReceiver.failure error diagnostic, receiver) :=
  ⟨tells_of_none rfl, h⟩

theorem failed (h : Receives begin receiver) {error : FileReceiverError} {code : FileResultCode}
    {diagnostic : String} (hcode : code ≠ .ok) (hdiagnostic : Bounded diagnostic) :
    Answered begin (receiver.fail error code diagnostic) :=
  ⟨h.fail_tells hcode hdiagnostic, h.closed .failed⟩

end Answered

section Receiver

variable {begin : FileBeginMessage} {receiver : FileReceiver} {sha : Sha256}

theorem receiver_append_answered (h : Receives begin receiver) (chunk : FileChunkMessage)
    (payload : QByteArray) (io : FileIo) (disk : Disk) :
    Answered begin ((receiver.append chunk payload io disk).1,
      (receiver.append chunk payload io disk).2.1) := by
  unfold FileReceiver.append
  dsimp only
  split
  · exact .refused h _ _
  split
  · exact .failed h (by decide) (bounded_of_size (by decide))
  split
  · exact .failed h (by decide) (bounded_of_size (by decide))
  split
  · exact .failed h (by decide) (bounded_of_size (by decide))
  split
  · exact .failed h (by decide) (bounded_of_size (by decide))
  split
  · exact .failed h (by decide) (bounded_of_size (by decide))
  split
  · exact .failed h (by decide) (bounded_of_size (by decide))
  split
  · exact .failed h (by decide) (bounded_of_size (by decide))
  rename_i hroom
  split
  · refine .failed h ?_ (by decide)
    split <;> decide
  · have hreceived := h.received
    exact ⟨tells_of_none rfl, ⟨h.transferId, h.fileId, by dsimp only; omega, h.expected⟩⟩

theorem finishStaging_answered (h : Receives begin receiver) (fileEnd : FileEndMessage)
    (io : FileIo) : Answered begin (receiver.finishStaging sha fileEnd io) := by
  unfold FileReceiver.finishStaging
  refine .ite (.refused h _ _) fun _ => ?_
  refine .ite (.failed h (by decide) (bounded_of_size (by decide))) fun _ => ?_
  refine .ite (.failed h (by decide) (bounded_of_size (by decide))) fun _ => ?_
  refine .ite (.failed h (by decide) (bounded_of_size (by decide))) fun _ => ?_
  refine .ite (.failed h (by decide) (bounded_of_size (by decide))) fun _ => ?_
  refine .ite (.failed h (by decide) (bounded_of_size (by decide))) fun _ => ?_
  have hflushed : Receives begin { receiver with partFileOpen := false } :=
    ⟨h.transferId, h.fileId, h.received, h.expected⟩
  exact .ite (.failed hflushed (by decide) (bounded_of_size (by decide))) fun _ => ⟨tells_of_none rfl, hflushed⟩

theorem confirmCommitted_answered (h : Receives begin receiver) (committedPath : QString)
    (disk : Disk) : Answered begin (receiver.confirmCommitted committedPath disk) := by
  unfold FileReceiver.confirmCommitted
  refine .ite (.failed h (by decide) (bounded_of_size (by decide))) fun _ => ?_
  have hcommitted : Receives begin { receiver with
      snapshot := { receiver.snapshot with committedPath, state := .completed } } :=
    ⟨h.transferId, h.fileId, h.received, h.expected⟩
  refine ⟨?_, hcommitted⟩
  intro message hmessage
  have hresult := hcommitted.result_eq .ok ""
  have hsent := (congrArg FileReceiverResult.fileResult hresult).symm.trans hmessage
  cases hsent
  exact ⟨rfl, rfl, rfl⟩

/-- A checkpoint that is sent names the file, and can be encoded. -/
def Checkpoints (begin : FileBeginMessage)
    (performed : DurableCheckpointResult × ResumeStore × ResumeState) : Prop :=
  ∀ message, performed.1 = .ok message →
    message.transferId = begin.transferId ∧ message.fileId = begin.fileId ∧
      FileMessageCodec.validateCheckpoint message = .ok ()

variable {diagnostic : String}

theorem Checkpoints.ite {condition : Prop} [Decidable condition] {error : DurableCheckpointError}
    {stores : ResumeStore × ResumeState}
    {rest : DurableCheckpointResult × ResumeStore × ResumeState}
    (hrest : ¬ condition → Checkpoints begin rest) :
    Checkpoints begin (if condition then (.error (error, diagnostic), stores) else rest) :=
  iteInduction (fun _ => nofun) hrest

theorem receiver_checkpoint_checkpoints {qt : QtText} (h : Receives begin receiver)
    (store : ResumeStore) (state : ResumeState) (updatedUtc : QDateTime) (io : FileIo) :
    Checkpoints begin (receiver.checkpoint qt store state updatedUtc io) := by
  unfold FileReceiver.checkpoint
  rw [h.transferId, h.fileId]
  dsimp only
  refine .ite fun _ => .ite fun _ => ?_
  split
  · exact nofun
  split
  · exact nofun
  refine .ite fun _ => .ite fun _ => .ite fun _ => .ite fun _ => ?_
  split
  · exact nofun
  · intro message hmessage
    cases hmessage
    refine ⟨rfl, rfl, FileMessageCodec.validateCheckpoint_eq_ok.mpr ?_⟩
    exact h.received.trans h.expected

variable {qt : QtText} {request : FileReceiveRequest}

structure Begins (begin : FileBeginMessage) (result : FileReceiverResult)
    (receiver : FileReceiver) : Prop where
  silent : result.fileResult = none
  receives : result.ok = true → Receives begin receiver

theorem begins_failure {error : FileReceiverError} {pathError : PathError} (herror : error ≠ .none) :
    Begins begin (FileReceiver.failure error diagnostic pathError) receiver :=
  ⟨rfl, fun hok => absurd (of_decide_eq_true hok) herror⟩

theorem begins_ite {condition : Prop} [Decidable condition] {error : FileReceiverError}
    {pathError : PathError} {other : FileReceiver} {disk : Disk}
    {rest : FileReceiverResult × FileReceiver × Disk} (herror : error ≠ .none)
    (hrest : ¬ condition → Begins begin rest.1 rest.2.1) :
    Begins begin
      (if condition then (FileReceiver.failure error diagnostic pathError, other, disk) else rest).1
      (if condition then (FileReceiver.failure error diagnostic pathError, other, disk)
        else rest).2.1 := by
  split
  · exact begins_failure herror
  · exact hrest ‹_›

theorem opened_receives (hvalid : FileReceiver.requestIsValid request = true)
    (normalized requestedTarget partPath : QString) (hash : QByteArray) :
    Receives request.begin
      (FileReceiver.opened request normalized requestedTarget partPath hash) := by
  unfold FileReceiver.requestIsValid at hvalid
  simp only [Bool.and_eq_true, decide_eq_true_eq, and_assoc] at hvalid
  obtain ⟨-, -, -, hsize, hoffset, -⟩ := hvalid
  exact ⟨rfl, rfl, hoffset, hsize⟩

theorem beginInternal_begins (resumeState : Option ResumeState) (io : FileIo) (disk : Disk) :
    Begins request.begin
      (FileReceiver.beginInternal qt request resumeState io receiver disk).1
      (FileReceiver.beginInternal qt request resumeState io receiver disk).2.1 := by
  unfold FileReceiver.beginInternal
  dsimp only
  refine begins_ite (by decide) fun _ => begins_ite (by decide) fun _ => ?_
  refine begins_ite (by decide) fun hvalid => ?_
  have hopened (normalized requestedTarget partPath : QString) (hash : QByteArray) :
      Begins request.begin {}
        (FileReceiver.opened request normalized requestedTarget partPath hash) :=
    ⟨rfl, fun _ => opened_receives (not_not.mp hvalid) ..⟩
  refine begins_ite (by decide) fun _ => begins_ite (by decide) fun _ => ?_
  refine begins_ite (by decide) fun _ => begins_ite (by decide) fun _ => ?_
  cases resumeState with
  | none => exact begins_ite (by decide) fun _ => hopened ..
  | some state =>
    dsimp only
    split
    · exact begins_failure (by decide)
    refine begins_ite (by decide) fun _ => ?_
    split
    · refine begins_ite (by decide) fun _ => begins_ite (by decide) fun _ => ?_
      refine begins_ite (by decide) fun _ => begins_ite (by decide) fun _ => ?_
      exact hopened ..
    · exact begins_failure (by decide)

end Receiver

/-! ### The worker's results -/

namespace IncomingFileReceiverWorker

variable {qt : QtText} {relativeFilePath : QString → QString → QString}
  {arg : ConflictResolver.Arg} {sha : Sha256} {begin : FileBeginMessage}

theorem stage_begins (request : FileReceiveRequest) (resumeState : Option ResumeState)
    (target : UseTarget) (io : WorkerIo) (receiver : FileReceiver) :
    Begins request.begin (stage qt relativeFilePath request resumeState target io receiver).1
      (stage qt relativeFilePath request resumeState target io receiver).2 := by
  have hsafety {result : FileSafetyResult} :
      Begins request.begin (safetyFailure result) receiver := by
    refine begins_failure ?_
    split <;> decide
  unfold stage
  dsimp only
  split
  · exact hsafety
  split
  · exact hsafety
  split
  · exact begins_failure (by decide)
  split
  · exact hsafety
  split
  · exact hsafety
  cases resumeState with
  | none =>
    dsimp only
    unfold FileReceiver.begin
    split
    · exact begins_failure (by decide)
    · exact @beginInternal_begins _ qt { request with conflictPolicy := .autoRename } none io.file
        io.disk
  | some state =>
    exact @beginInternal_begins _ qt { request with conflictPolicy := .autoRename } (some state)
      io.file io.disk

structure Opens (begin : FileBeginMessage)
    (performed : FileReceiverResult × IncomingFileReceiverWorker) : Prop where
  silent : performed.1.fileResult = none
  receives : performed.1.ok = true → performed.2.disposition = .receive →
    Receives begin performed.2.receiver
  asks : performed.2.pendingConflict.isSome = true →
    ∃ request, performed.2.pendingRequest = some request ∧ request.begin = begin

variable {worker : IncomingFileReceiverWorker}

theorem opens_refused {result : FileReceiverResult} (hresult : result.fileResult = none)
    (hrefused : result.ok = false) (hasks : worker.pendingConflict = none) :
    Opens begin (result, worker) := by
  refine ⟨hresult, fun hok => absurd (hrefused.symm.trans hok) nofun, fun hsome => ?_⟩
  dsimp only at hsome
  rw [hasks] at hsome
  exact nomatch hsome

theorem beginInternal_opens {worker : IncomingFileReceiverWorker} (request : FileReceiveRequest)
    (resumeState : Option ResumeState) (io : WorkerIo) (hasks : worker.pendingConflict = none) :
    Opens request.begin
      (worker.beginInternal qt relativeFilePath arg request resumeState io) := by
  unfold beginInternal
  split
  · exact opens_refused rfl rfl hasks
  dsimp only
  split
  · exact opens_refused rfl (safetyFailure_ok _) hasks
  split
  · unfold openTarget
    dsimp only
    have hstage := @stage_begins qt relativeFilePath request resumeState ‹_› io worker.receiver
    split
    · rename_i hrefused
      exact opens_refused hstage.silent (Bool.eq_false_of_not_eq_true hrefused) rfl
    · exact ⟨hstage.silent, fun hok _ => hstage.receives hok, nofun⟩
  · exact ⟨rfl, fun _ => nofun, nofun⟩
  · refine opens_refused rfl ?_ rfl
    split <;> rfl
  · exact ⟨rfl, nofun, fun _ => ⟨request, rfl, rfl⟩⟩

theorem resolveConflict_opens {worker : IncomingFileReceiverWorker} {request : FileReceiveRequest}
    (hrequest : worker.pendingRequest = some request) (hbegin : request.begin = begin)
    (decision : IncomingConflictDecision) (io : WorkerIo) :
    (worker.resolveConflict qt relativeFilePath arg decision io).1.fileResult = none ∧
      ((worker.resolveConflict qt relativeFilePath arg decision io).1.ok = true →
        (worker.resolveConflict qt relativeFilePath arg decision io).2.disposition = .receive →
        Receives begin
          (worker.resolveConflict qt relativeFilePath arg decision io).2.receiver) := by
  unfold resolveConflict
  split
  · exact ⟨rfl, nofun⟩
  rw [hrequest]
  dsimp only
  split
  · exact ⟨rfl, nofun⟩
  subst hbegin
  have hopens := @beginInternal_opens qt relativeFilePath arg
    { worker with
      pendingConflict := none, pendingRequest := none, pendingResumeState := none
      journal := .answered decision :: worker.journal }
    { request with conflictPolicy := resolvedPolicy decision } worker.pendingResumeState io rfl
  exact ⟨hopens.silent, hopens.receives⟩

/-- What the platform says of a refusal that ends the file has a text that fits. -/
structure Telling (worker : IncomingFileReceiverWorker) (io : WorkerIo) : Prop where
  commit : ∀ attempt request, (io.commits.commitStagedFile attempt request).ok = true ∨
    Bounded (io.commits.commitStagedFile attempt request).diagnostic ∨
    worker.retryCollision (io.commits.commitStagedFile attempt request) = true ∧
      attempt + 1 < worker.conflictRequest.maximumRenameAttempts.toNat
  target : ∀ attempt request, (io.verifyRetried attempt request).ok = true ∨
    Bounded (io.verifyRetried attempt request).diagnostic

theorem Telling.of_request {other : IncomingFileReceiverWorker} {io : WorkerIo}
    (h : worker.Telling io) (hrequest : other.conflictRequest = worker.conflictRequest) :
    other.Telling io := by
  refine ⟨fun attempt request => ?_, h.target⟩
  unfold retryCollision
  rw [hrequest]
  exact h.commit attempt request

/-- A refusal that is reported has a text that fits. -/
def Told (result : FileSafetyResult) : Prop := result.ok = true ∨ Bounded result.diagnostic

def RoundTold (attempts attempt : Nat) : CommitRound → Prop
  | .ends outcome => Told outcome.commit
  | .again commit _ _ _ => Told commit ∨ attempt + 1 < attempts

theorem commitRound_told {worker : IncomingFileReceiverWorker} {io : WorkerIo}
    (h : worker.Telling io) (attempt : Nat) (target : UseTarget) (conflicts : ConflictResolver)
    (journal : List WorkerEvent) :
    RoundTold worker.conflictRequest.maximumRenameAttempts.toNat attempt
      (worker.commitRound qt arg io attempt target conflicts journal) := by
  have hcommit := h.commit attempt (worker.commitRequest target)
  unfold commitRound
  dsimp only
  split
  · exact .inl ‹_›
  rename_i hrefused
  split
  · rename_i hends
    refine .inr ?_
    obtain hok | hbounded | ⟨hretries, -⟩ := hcommit
    · exact absurd hok hrefused
    · exact hbounded
    · exact absurd hretries hends
  rename_i hretries
  have hpolicy : worker.conflictRequest.policy ≠ .skip ∧ worker.conflictRequest.policy ≠ .ask := by
    have hcollision := not_not.mp hretries
    unfold retryCollision at hcollision
    simp only [Bool.and_eq_true, Bool.or_eq_true, decide_eq_true_eq] at hcollision
    obtain ⟨-, hrename | hoverwrite⟩ := hcollision
    · rw [hrename]
      decide
    · rw [hoverwrite]
      decide
  have hdecides := @retry_decides qt arg worker.conflictRequest target.reservationId
    (io.views (attempt + 1)) (io.createUuid (attempt + 1)).val conflicts
  generalize conflicts.retry qt arg worker.conflictRequest target.reservationId
    (io.views (attempt + 1)) (io.createUuid (attempt + 1)).val = answer at hdecides ⊢
  obtain ⟨decision, conflicts⟩ := answer
  cases decision with
  | useTarget next =>
    have hinvisible : Bounded
        "platform reported a destination collision that is not visible to retry" :=
      bounded_of_size (by decide)
    dsimp only
    split
    · exact .inr hinvisible
    split
    · rename_i hunsafe
      exact .inr ((h.target _ _).resolve_left hunsafe)
    · obtain hok | hbounded | ⟨-, hmore⟩ := hcommit
      · exact .inl (.inl hok)
      · exact .inl (.inr hbounded)
      · exact .inr hmore
  | failure error pathError diagnostic => exact .inr hdecides
  | skipTarget path => exact absurd hdecides hpolicy.1
  | askTarget conflictId path => exact absurd hdecides hpolicy.2

theorem commitLoop_told {io : WorkerIo} (h : worker.Telling io) {remaining attempt : Nat}
    {commit : FileSafetyResult} {target : UseTarget} {conflicts : ConflictResolver}
    {journal : List WorkerEvent}
    (hattempts : attempt + remaining = worker.conflictRequest.maximumRenameAttempts.toNat)
    (hcommit : Told commit ∨ attempt < worker.conflictRequest.maximumRenameAttempts.toNat) :
    Told
      (worker.commitLoop qt arg io remaining attempt commit target conflicts journal).commit := by
  induction remaining generalizing attempt commit target conflicts journal with
  | zero => exact hcommit.resolve_right (by omega)
  | succ remaining ih =>
    have hround := @commitRound_told qt arg worker io h attempt target conflicts journal
    rw [commitLoop]
    split
    · rename_i outcome hends
      rw [hends] at hround
      exact hround
    · rename_i hagain
      rw [hagain] at hround
      exact ih (by omega) hround

theorem conclude_answered {io : WorkerIo} {outcome : CommitOutcome}
    (h : Receives begin worker.receiver) (htold : Told outcome.commit) :
    Answered begin ((worker.conclude io outcome).1, (worker.conclude io outcome).2.receiver) := by
  unfold conclude
  dsimp only
  split
  · rename_i hrefused
    refine .failed h ?_ (htold.resolve_left hrefused)
    unfold commitResultCode
    split_ifs <;> decide
  · exact confirmCommitted_answered h outcome.committedPath io.disk

theorem finish_answered {worker : IncomingFileReceiverWorker} {io : WorkerIo}
    (h : Receives begin worker.receiver) (htelling : worker.Telling io) (fileEnd : FileEndMessage) :
    Answered begin ((worker.finish qt arg sha fileEnd io).1,
      (worker.finish qt arg sha fileEnd io).2.receiver) := by
  unfold finish
  split
  · exact .refused h _ _
  dsimp only
  split
  · exact .refused h _ _
  split
  · exact .refused h _ _
  have hstaged := @finishStaging_answered _ _ sha h fileEnd io.file
  split
  · exact hstaged
  · refine conclude_answered hstaged.receives ?_
    have hfirst : Told {} := .inl rfl
    refine commitLoop_told (htelling.of_request ?_) ?_ (.inl hfirst)
    · rfl
    · exact Nat.zero_add _

theorem append_answered (h : Receives begin worker.receiver) (chunk : FileChunkMessage)
    (payload : QByteArray) (io : WorkerIo) :
    Answered begin ((worker.append chunk payload io).1,
      (worker.append chunk payload io).2.receiver) := by
  unfold append
  split
  · exact .refused h _ _
  · exact receiver_append_answered h chunk payload io.file io.disk

theorem checkpoint_checkpoints {worker : IncomingFileReceiverWorker}
    (h : Receives begin worker.receiver) (store : ResumeStore) (state : ResumeState)
    (updatedUtc : QDateTime) (io : WorkerIo) :
    Checkpoints begin (worker.checkpoint qt store state updatedUtc io) := by
  unfold checkpoint
  exact .ite fun _ => receiver_checkpoint_checkpoints h store state updatedUtc io.file

end IncomingFileReceiverWorker

/-! ### Replies -/

structure Addressed (streamId : UInt64) (begin : FileBeginMessage) (frame : Frame) : Prop where
  envelope : (validateProtocolEnvelope frame.type frame.flags frame.streamId frame.metadata.length
    frame.payload.length).ok = true
  message : ∃ message : FileControlMessage,
    FileMessageCodec.encode message = .ok frame.metadata ∧ fileMessageType message = frame.type ∧
      ((∃ checkpoint, message = .checkpoint checkpoint ∧
          checkpoint.transferId = begin.transferId ∧ checkpoint.fileId = begin.fileId) ∨
        ∃ result, message = .result result ∧
          result.transferId = begin.transferId ∧ result.fileId = begin.fileId)
  stream : frame.streamId = streamId

theorem envelope_of_descriptor {type : MessageType} {flags : UInt32} {streamId : UInt64}
    {metadata : QByteArray} {descriptor : ProtocolMessageDescriptor}
    (hdescriptor : protocolMessageDescriptor type = some descriptor)
    (hflags : flags ∈ descriptor.validFlagSets.take descriptor.validFlagSetCount)
    (hrules : (descriptor.classification, descriptor.streamRule, descriptor.metadataRule,
      descriptor.payloadRule) = (.implemented, .nonZero, .required, .forbidden))
    (hstream : streamId ≠ 0) (hmetadata : metadata ≠ []) :
    (validateProtocolEnvelope type flags streamId metadata.length 0).ok = true := by
  simp only [Prod.mk.injEq] at hrules
  obtain ⟨hclass, hstreamRule, hmetadataRule, hpayloadRule⟩ := hrules
  unfold validateProtocolEnvelope
  rw [hdescriptor]
  simp [hclass, hflags, hstreamRule, hmetadataRule, hpayloadRule, hstream, hmetadata,
    ProtocolEnvelopeValidationResult.ok]

theorem passes_ite {condition : Prop} [Decidable condition]
    {refused rest : ProtocolEnvelopeValidationResult} (hrefused : refused.ok = false)
    (h : (if condition then refused else rest).ok = true) : ¬ condition ∧ rest.ok = true := by
  split at h
  · exact absurd (hrefused.symm.trans h) Bool.false_ne_true
  · exact ⟨‹_›, h⟩

theorem rules_of_envelope {type : MessageType} {flags : UInt32} {streamId : UInt64}
    {metadataBytes payloadBytes : Nat} {descriptor : ProtocolMessageDescriptor}
    (hdescriptor : protocolMessageDescriptor type = some descriptor)
    (h : (validateProtocolEnvelope type flags streamId metadataBytes payloadBytes).ok = true) :
    (descriptor.streamRule = .nonZero → streamId ≠ 0) ∧
      (descriptor.metadataRule = .required → metadataBytes ≠ 0) := by
  unfold validateProtocolEnvelope at h
  rw [hdescriptor] at h
  obtain ⟨-, h⟩ := passes_ite rfl h
  obtain ⟨-, h⟩ := passes_ite rfl h
  obtain ⟨hstream, h⟩ := passes_ite rfl h
  obtain ⟨hmetadata, -⟩ := passes_ite rfl h
  constructor
  · intro hrule
    have hnonZero : descriptor.streamRule ≠ .zero := hrule ▸ nofun
    rw [if_neg hnonZero] at hstream
    exact not_not.mp hstream
  · exact fun hrule hempty => hmetadata ⟨hrule, hempty⟩

namespace ReceiveProcess

variable {qt : QtText} {relativeFilePath : QString → QString → QString}
  {arg : ConflictResolver.Arg} {sha : Sha256}

/-- The stream's identifier survives the pipeline's 32 bits. -/
def Carries (p : ReceiveProcess) (streamId : UInt64) : Prop :=
  p.activeStreamId.toUInt64 = streamId ∧ streamId ≠ 0

theorem Carries.ne_zero {p : ReceiveProcess} {streamId : UInt64} (h : p.Carries streamId) :
    p.activeStreamId.toUInt64 ≠ 0 :=
  fun hzero => h.2 (h.1.symm.trans hzero)

theorem carries_of_lt {p : ReceiveProcess} {streamId : UInt64} (hlt : streamId.toNat < 2 ^ 32)
    (hzero : streamId ≠ 0) (hactive : p.activeStreamId = streamId.toUInt32) :
    p.Carries streamId := by
  refine ⟨?_, hzero⟩
  rw [hactive]
  apply UInt64.toNat_inj.mp
  rw [UInt32.toNat_toUInt64, UInt64.toNat_toUInt32]
  exact Nat.mod_eq_of_lt hlt

theorem encoded_ne_nil {message : FileControlMessage}
    (h : FileMessageCodec.validate message = .ok ()) : encoded message ≠ [] := by
  rw [encoded, FileMessageCodec.encode_eq_ok.mpr ⟨h, rfl⟩]
  exact Cbor.encode_ne_nil _

theorem encoded_of_valid {message : FileControlMessage}
    (h : FileMessageCodec.validate message = .ok ()) :
    FileMessageCodec.encode message = .ok (encoded message) := by
  unfold encoded FileMessageCodec.encode
  rw [h]

theorem resultFrame_addressed {p : ReceiveProcess} {streamId : UInt64} {begin : FileBeginMessage}
    {result : FileResultMessage} (hstream : p.Carries streamId)
    (htransfer : result.transferId = begin.transferId) (hfile : result.fileId = begin.fileId)
    (hvalid : FileMessageCodec.validateResult result = .ok ()) :
    Addressed streamId begin (p.resultFrame result) where
  envelope := envelope_of_descriptor rfl (.head _) rfl hstream.ne_zero
    (@encoded_ne_nil (.result result) hvalid)
  message := ⟨.result result, encoded_of_valid hvalid, rfl, .inr ⟨result, rfl, htransfer, hfile⟩⟩
  stream := hstream.1

theorem checkpointFrame_addressed {p : ReceiveProcess} {streamId : UInt64}
    {begin : FileBeginMessage} {checkpoint : FileCheckpointMessage} (hstream : p.Carries streamId)
    (htransfer : checkpoint.transferId = begin.transferId)
    (hfile : checkpoint.fileId = begin.fileId)
    (hvalid : FileMessageCodec.validateCheckpoint checkpoint = .ok ()) :
    Addressed streamId begin (p.checkpointFrame checkpoint) where
  envelope := envelope_of_descriptor rfl (.head _) rfl hstream.ne_zero
    (@encoded_ne_nil (.checkpoint checkpoint) hvalid)
  message := ⟨.checkpoint checkpoint, encoded_of_valid hvalid, rfl,
    .inl ⟨checkpoint, rfl, htransfer, hfile⟩⟩
  stream := hstream.1

def Replies (streamId : UInt64) (begin : FileBeginMessage) (reports : List PipelineReport) : Prop :=
  ∀ frame, .response frame ∈ reports → Addressed streamId begin frame

theorem replies_append {streamId : UInt64} {begin : FileBeginMessage}
    {first second : List PipelineReport} (hfirst : Replies streamId begin first)
    (hsecond : Replies streamId begin second) : Replies streamId begin (first ++ second) := by
  intro frame hframe
  exact (List.mem_append.mp hframe).elim (hfirst frame) (hsecond frame)

theorem sendFileResult_replies {p : ReceiveProcess} {streamId : UInt64} {begin : FileBeginMessage}
    {result : FileReceiverResult} (hstream : p.Carries streamId) (htells : Tells begin result) :
    Replies streamId begin (p.sendFileResult result) := by
  unfold sendFileResult
  split
  · exact nofun
  · rename_i message hmessage
    intro frame hframe
    cases List.mem_singleton.mp hframe
    obtain ⟨htransfer, hfile, hvalid⟩ := htells message hmessage
    exact resultFrame_addressed hstream htransfer hfile hvalid

structure Opened (p : ReceiveProcess) (streamId : UInt64) (begin : FileBeginMessage) : Prop where
  carries : p.Carries streamId
  routed : begin.transferId = p.offer.transferId
  receiver : ∀ worker, p.receiver = some worker → Receives begin worker.receiver
  skipped : ∀ skipped, p.skippedBegin = some skipped → skipped = begin ∧ p.receiver = none

structure Keeps (streamId : UInt64) (begin : FileBeginMessage) (step : PipelineStep) : Prop where
  replies : Replies streamId begin step.2.2
  opened : step.1 = true → step.2.1.Opened streamId begin

variable {p : ReceiveProcess} {streamId : UInt64} {begin : FileBeginMessage}

theorem fail_keeps (code : TransferErrorCode) (diagnostic : String) :
    Keeps streamId begin (p.fail code diagnostic) := by
  refine ⟨fun frame hframe => ?_, nofun⟩
  exact nomatch List.mem_singleton.mp hframe

theorem refuse_keeps {result : FileReceiverResult} (hstream : p.Carries streamId)
    (htells : Tells begin result) : Keeps streamId begin (p.refuse result) := by
  refine ⟨replies_append (sendFileResult_replies hstream htells) fun frame hframe => ?_, nofun⟩
  exact nomatch List.mem_singleton.mp hframe

theorem report_keeps {reports : List PipelineReport} {step : PipelineStep}
    (hreports : Replies streamId begin reports) (hstep : Keeps streamId begin step) :
    Keeps streamId begin (report reports step) :=
  ⟨replies_append hreports hstep.replies, hstep.opened⟩

theorem completeFile_keeps (h : p.Opened streamId begin) (size : Nat) (path : QString)
    (io : PipelineIo) : Keeps streamId begin (p.completeFile size path io) := by
  unfold completeFile
  dsimp only
  split
  · refine ⟨fun frame hframe => ?_, nofun⟩
    unfold publishCompleted at hframe
    split at hframe <;> simp at hframe
  · refine ⟨fun frame hframe => ?_, fun _ => ⟨h.carries, h.routed, h.receiver, h.skipped⟩⟩
    exact nomatch List.mem_singleton.mp hframe

/-! ### One frame of an open file -/

theorem skipChunk_keeps (h : p.Opened streamId begin) (skipped : FileBeginMessage)
    (chunk : FileChunkMessage) (payload : QByteArray) :
    Keeps streamId begin (p.skipChunk skipped chunk payload) := by
  unfold skipChunk
  split
  · exact fail_keeps ..
  · exact ⟨nofun, fun _ => ⟨h.carries, h.routed, h.receiver, h.skipped⟩⟩

variable {worker : IncomingFileReceiverWorker}

theorem Opened.skippedBegin_eq (h : p.Opened streamId begin) (hworker : p.receiver = some worker) :
    p.skippedBegin = none := by
  cases hbegun : p.skippedBegin with
  | none => rfl
  | some skipped => exact absurd (hworker.symm.trans (h.skipped skipped hbegun).2) nofun

theorem Opened.withReceiver (h : p.Opened streamId begin) (hskipped : p.skippedBegin = none)
    (hworker : Receives begin worker.receiver) :
    { p with receiver := some worker }.Opened streamId begin where
  carries := h.carries
  routed := h.routed
  receiver := by
    rintro other ⟨⟩
    exact hworker
  skipped skipped hbegun := absurd (hskipped.symm.trans hbegun) nofun

theorem receiveChunk_keeps (h : p.Opened streamId begin) (hworker : p.receiver = some worker)
    (chunk : FileChunkMessage) (payload : QByteArray) (io : PipelineIo) :
    Keeps streamId begin (p.receiveChunk qt chunk payload io worker) := by
  have hanswered := IncomingFileReceiverWorker.append_answered (h.receiver worker hworker) chunk
    payload io.worker
  unfold receiveChunk
  dsimp only
  split
  · exact refuse_keeps h.carries hanswered.tells
  have hopened := h.withReceiver (h.skippedBegin_eq hworker) hanswered.receives
  split
  · have hcheckpoints := @IncomingFileReceiverWorker.checkpoint_checkpoints qt begin _
      hanswered.receives p.resumeStore p.resumeState io.now io.worker
    split
    · exact fail_keeps ..
    · rename_i checkpoint resumeStore resumeState hsent
      obtain ⟨htransfer, hfile, hvalid⟩ := hcheckpoints checkpoint (congrArg Prod.fst hsent)
      refine ⟨fun frame hframe => ?_, fun _ => ?_⟩
      · obtain hreply | hprogress := List.mem_pair.mp hframe
        · cases hreply
          exact checkpointFrame_addressed h.carries htransfer hfile hvalid
        · exact nomatch hprogress
      · exact ⟨hopened.carries, hopened.routed, hopened.receiver, hopened.skipped⟩
  · refine ⟨fun frame hframe => ?_, fun _ => hopened⟩
    exact nomatch List.mem_singleton.mp hframe

theorem Opened.persisted (h : p.Opened streamId begin) {fileId : FileId} {targetPath : QString}
    {decision : IncomingConflictDecision} {io : PipelineIo} {after : ReceiveProcess}
    (hafter : p.persistCompletedFile qt relativeFilePath fileId targetPath decision io =
      .ok after) :
    after.Opened streamId begin := by
  unfold persistCompletedFile at hafter
  split at hafter
  · cases hafter
  · cases hafter
    exact ⟨h.carries, h.routed, h.receiver, h.skipped⟩

theorem Opened.of_closed (h : p.Opened streamId begin) {after : ReceiveProcess}
    (hstream : after.activeStreamId = p.activeStreamId) (hoffer : after.offer = p.offer)
    (hreceiver : after.receiver = none) (hskipped : after.skippedBegin = p.skippedBegin) :
    after.Opened streamId begin where
  carries := by
    unfold Carries
    rw [hstream]
    exact h.carries
  routed := hoffer ▸ h.routed
  receiver worker hworker := nomatch hreceiver.symm.trans hworker
  skipped skipped hbegun := ⟨(h.skipped skipped (hskipped ▸ hbegun)).1, hreceiver⟩

theorem skipEnd_keeps (h : p.Opened streamId begin) (fileEnd : FileEndMessage)
    (io : PipelineIo) :
    Keeps streamId begin (p.skipEnd qt relativeFilePath begin fileEnd io) := by
  unfold skipEnd
  split
  · exact fail_keeps ..
  split
  · exact fail_keeps ..
  rename_i hmatches
  simp only [not_or, not_not, ne_eq] at hmatches
  obtain ⟨htransfer, hfile, -⟩ := hmatches
  split
  · exact fail_keeps ..
  · rename_i after hafter
    have hopened := h.persisted hafter
    refine report_keeps (fun frame hframe => ?_) (completeFile_keeps ?_ ..)
    · cases List.mem_singleton.mp hframe
      exact resultFrame_addressed hopened.carries (htransfer.trans h.routed.symm) hfile rfl
    · refine ⟨hopened.carries, hopened.routed, hopened.receiver, fun _ hnone => ?_⟩
      exact (Option.some_ne_none _ hnone.symm).elim

theorem receiveEnd_keeps (h : p.Opened streamId begin) (hworker : p.receiver = some worker)
    (fileEnd : FileEndMessage) (io : PipelineIo) (htelling : worker.Telling io.worker) :
    Keeps streamId begin (p.receiveEnd qt relativeFilePath arg sha fileEnd io worker) := by
  have hanswered := @IncomingFileReceiverWorker.finish_answered qt arg sha begin worker io.worker
    (h.receiver worker hworker) htelling fileEnd
  have hopened := h.withReceiver (h.skippedBegin_eq hworker) hanswered.receives
  unfold receiveEnd
  dsimp only
  split
  · split
    · exact refuse_keeps h.carries hanswered.tells
    split
    · exact refuse_keeps h.carries hanswered.tells
    split
    · exact refuse_keeps h.carries hanswered.tells
    · rename_i after hafter
      have hpersisted := hopened.persisted hafter
      refine report_keeps (sendFileResult_replies hpersisted.carries hanswered.tells) ?_
      refine completeFile_keeps (hpersisted.of_closed ?_ ?_ ?_ ?_) ..
      all_goals rfl
  · split
    · exact fail_keeps ..
    split
    · exact fail_keeps ..
    · rename_i after hafter
      have hpersisted := hopened.persisted hafter
      refine report_keeps (sendFileResult_replies hpersisted.carries hanswered.tells) ?_
      refine completeFile_keeps (hpersisted.of_closed ?_ ?_ ?_ ?_) ..
      all_goals
        unfold recordCompletedPath
        dsimp only
        split <;> rfl

/-! ### FILE_BEGIN -/

structure BeginsFile (streamId : UInt64) (begin : FileBeginMessage) (step : PipelineStep) :
    Prop where
  silent : ∀ frame, .response frame ∉ step.2.2
  opened : step.1 = true → step.2.1.Opened streamId begin

theorem fail_beginsFile (code : TransferErrorCode) (diagnostic : String) :
    BeginsFile streamId begin (p.fail code diagnostic) :=
  ⟨fun _ hframe => (nomatch List.mem_singleton.mp hframe), nofun⟩

theorem report_beginsFile {reports : List PipelineReport} {step : PipelineStep}
    (hreports : ∀ frame, .response frame ∉ reports) (hstep : BeginsFile streamId begin step) :
    BeginsFile streamId begin (report reports step) := by
  refine ⟨fun frame hframe => ?_, hstep.opened⟩
  exact (List.mem_append.mp hframe).elim (hreports frame) (hstep.silent frame)

theorem settleBegin_beginsFile {entry : ManifestEntry} {resolved : FileReceiverResult}
    (hcarries : p.Carries streamId) (hrouted : begin.transferId = p.offer.transferId)
    (hskipped : p.skippedBegin = none) (hsilent : resolved.fileResult = none)
    (hreceives : resolved.ok = true → worker.disposition = .receive →
      Receives begin worker.receiver) :
    BeginsFile streamId begin (p.settleBegin begin entry resolved worker) := by
  unfold settleBegin
  split
  · refine ⟨fun frame hframe => ?_, nofun⟩
    unfold refuse sendFileResult at hframe
    rw [hsilent] at hframe
    exact nomatch List.mem_singleton.mp hframe
  rename_i hok
  split
  · refine ⟨fun _ hframe => (nomatch List.mem_singleton.mp hframe), fun _ => ?_⟩
    refine ⟨hcarries, hrouted, fun _ hnone => (Option.some_ne_none _ hnone.symm).elim, ?_⟩
    rintro skipped ⟨⟩
    exact ⟨rfl, rfl⟩
  · rename_i hdisposition
    refine ⟨fun _ hframe => (nomatch List.mem_singleton.mp hframe), fun _ => ?_⟩
    refine ⟨hcarries, hrouted, ?_, fun _ hbegun => nomatch hskipped.symm.trans hbegun⟩
    rintro other ⟨⟩
    refine hreceives (not_not.mp hok) ?_
    cases hworker : worker.disposition with
    | receive => rfl
    | skip => exact absurd hworker hdisposition

theorem beginWorker_opens (request : FileReceiveRequest) (io : PipelineIo) :
    IncomingFileReceiverWorker.Opens request.begin
      (p.beginWorker qt relativeFilePath arg request io) := by
  unfold beginWorker
  split
  · exact IncomingFileReceiverWorker.beginInternal_opens request _ io.worker rfl
  · exact IncomingFileReceiverWorker.beginInternal_opens request none io.worker rfl

theorem processBegin_beginsFile (hlt : streamId.toNat < 2 ^ 32) (hzero : streamId ≠ 0)
    (hrouted : begin.transferId = p.offer.transferId) (io : PipelineIo) :
    BeginsFile streamId begin (p.processBegin qt relativeFilePath arg streamId begin io) := by
  unfold processBegin
  split
  · exact fail_beginsFile ..
  rename_i hidle
  have hskipped : p.skippedBegin = none := Option.not_isSome_iff_eq_none.mp (not_or.mp hidle).2
  split
  · exact fail_beginsFile ..
  rename_i entry _
  dsimp only
  have hopens := @beginWorker_opens qt relativeFilePath arg
    { p with
      activeStreamId := streamId.toUInt32
      activeDecision := some (defaultConflictDecision p.options.conflictPolicy) }
    { receiveRoot := p.options.destinationRoot, entry, begin
      manifestSha256 := p.offer.manifestSha256
      conflictPolicy := p.options.conflictPolicy } io
  generalize beginWorker qt relativeFilePath arg _ _ io = begun at hopens ⊢
  obtain ⟨result, worker⟩ := begun
  dsimp only
  cases hprompt : worker.pendingConflict with
  | none =>
    exact settleBegin_beginsFile (carries_of_lt hlt hzero rfl) hrouted hskipped hopens.silent
      hopens.receives
  | some prompt =>
    have hsilent : ∀ frame, PipelineReport.response frame ∉
        [PipelineReport.conflictDecisionRequired prompt] :=
      fun _ hframe => (nomatch List.mem_singleton.mp hframe)
    refine report_beginsFile hsilent ?_
    split
    · exact ⟨nofun, fun hfalse => absurd hfalse Bool.false_ne_true⟩
    rename_i decision _
    split
    · refine ⟨fun _ hframe => ?_, fun hfalse => absurd hfalse Bool.false_ne_true⟩
      exact nomatch List.mem_singleton.mp hframe
    obtain ⟨request, hrequest, hbegin⟩ := hopens.asks (by rw [hprompt]; rfl)
    have hresolved := @IncomingFileReceiverWorker.resolveConflict_opens qt relativeFilePath arg
      begin worker request hrequest hbegin decision io.answered
    exact settleBegin_beginsFile (carries_of_lt hlt hzero rfl) hrouted hskipped hresolved.1
      hresolved.2

/-! ### Every frame -/

/-- The pipeline is between two files. -/
def Idle (p : ReceiveProcess) : Prop := p.receiver = none ∧ p.skippedBegin = none

theorem processMessage_keeps (h : p.Opened streamId begin) {other : UInt64}
    {message : FileControlMessage} (hmessage : ∀ begin, message ≠ .begin begin)
    (payload : QByteArray) {io : PipelineIo}
    (htelling : ∀ worker, p.receiver = some worker → worker.Telling io.worker) :
    Keeps streamId begin
      (p.processMessage qt relativeFilePath arg sha other message payload io) := by
  cases message with
  | begin begin => exact absurd rfl (hmessage begin)
  | chunk chunk =>
    show Keeps streamId begin (p.processChunk qt chunk payload io)
    unfold processChunk
    split
    · exact skipChunk_keeps h ..
    · split
      · exact fail_keeps ..
      · exact receiveChunk_keeps h ‹_› chunk payload io
  | checkpoint checkpoint => exact fail_keeps ..
  | finish fileEnd =>
    show Keeps streamId begin (p.processEnd qt relativeFilePath arg sha fileEnd io)
    unfold processEnd
    split
    · rename_i skipped hbegun
      obtain ⟨rfl, -⟩ := h.skipped skipped hbegun
      exact skipEnd_keeps h fileEnd io
    · split
      · exact fail_keeps ..
      · rename_i worker hworker
        exact receiveEnd_keeps h hworker fileEnd io (htelling worker hworker)
  | result result => exact fail_keeps ..

theorem processMessage_idle (h : p.Idle) {other : UInt64} {message : FileControlMessage}
    (hmessage : ∀ begin, message ≠ .begin begin) (payload : QByteArray) (io : PipelineIo) :
    ∃ diagnostic, p.processMessage qt relativeFilePath arg sha other message payload io =
      p.fail .internalError diagnostic := by
  cases message with
  | begin begin => exact absurd rfl (hmessage begin)
  | chunk chunk =>
    refine ⟨"FILE_CHUNK arrived without FILE_BEGIN", ?_⟩
    show p.processChunk qt chunk payload io = _
    rw [processChunk, h.1, h.2]
  | checkpoint checkpoint => exact ⟨_, rfl⟩
  | finish fileEnd =>
    refine ⟨"FILE_END arrived without FILE_BEGIN", ?_⟩
    show p.processEnd qt relativeFilePath arg sha fileEnd io = _
    rw [processEnd, h.1, h.2]
  | result result => exact ⟨_, rfl⟩

end ReceiveProcess

/-! ### A pipeline and its replies -/

/-- A pipeline, the FILE_BEGIN it accepted last, and what it answered to which. -/
structure ReplySession where
  process : ReceiveProcess
  begun : Option (UInt64 × FileBeginMessage) := none
  running : Bool := true
  replies : List (Option (UInt64 × FileBeginMessage) × Frame) := []

namespace ReplySession

def beginOf (frame : Frame) : Option FileBeginMessage :=
  match FileMessageCodec.decode frame.type frame.metadata with
  | .ok (.begin begin) => some begin
  | _ => none

def replyOf : PipelineReport → Option Frame
  | .response frame => some frame
  | _ => none

variable (qt : QtText) (relativeFilePath : QString → QString → QString)
  (arg : ConflictResolver.Arg) (sha : Sha256)

def step (session : ReplySession) (call : Frame × PipelineIo) : Option ReplySession :=
  let (frame, io) := call
  if session.running ∧ (validateProtocolEnvelope frame.type frame.flags frame.streamId
      frame.metadata.length frame.payload.length).ok ∧
      decodedDataTransferId frame = .ok session.process.offer.transferId then
    let (goesOn, process, reports) :=
      session.process.process qt relativeFilePath arg sha frame io
    some {
      process
      running := goesOn
      begun := if goesOn then ((beginOf frame).map (frame.streamId, ·)).or session.begun
        else session.begun
      replies := (reports.filterMap replyOf).map (session.begun, ·) ++ session.replies }
  else none

def machine : Machine ReplySession (Frame × PipelineIo) where
  start session := session.process.Idle ∧ session.running = true ∧ session.replies = []
  step := step qt relativeFilePath arg sha

def Safe (session : ReplySession) : Prop :=
  ∀ reply ∈ session.replies, ∃ streamId begin, reply.1 = some (streamId, begin) ∧
    Addressed streamId begin reply.2

/-- The stream of a FILE_BEGIN fits in 32 bits, and what the platform says of the refusals that end
a file has a text that fits. -/
def Manageable (session : ReplySession) (call : Frame × PipelineIo) : Prop :=
  ((beginOf call.1).isSome = true → call.1.streamId.toNat < 2 ^ 32) ∧
    ∀ worker, session.process.receiver = some worker → worker.Telling call.2.worker

variable {qt relativeFilePath arg sha}

/-- The replies are addressed, and a file that is open is the one that was begun last. -/
structure Ready (session : ReplySession) : Prop where
  safe : session.Safe
  opened : session.running = true → session.process.Idle ∨
    ∃ streamId begin, session.begun = some (streamId, begin) ∧
      session.process.Opened streamId begin

theorem Ready.after {session : ReplySession} (h : session.Ready) {step : PipelineStep}
    {begun : Option (UInt64 × FileBeginMessage)}
    (hreplies : ∀ frame, .response frame ∈ step.2.2 → ∃ streamId begin,
      session.begun = some (streamId, begin) ∧ Addressed streamId begin frame)
    (hopened : step.1 = true → ∃ streamId begin, begun = some (streamId, begin) ∧
      step.2.1.Opened streamId begin) :
    Ready ⟨step.2.1, begun, step.1,
      (step.2.2.filterMap replyOf).map (session.begun, ·) ++ session.replies⟩ := by
  refine ⟨fun reply hreply => ?_, fun hrunning => .inr (hopened hrunning)⟩
  obtain hnew | hold := List.mem_append.mp hreply
  · obtain ⟨frame, hframe, rfl⟩ := List.mem_map.mp hnew
    obtain ⟨report, hreport, hreplyOf⟩ := List.mem_filterMap.mp hframe
    cases report with
    | response sent =>
      cases hreplyOf
      exact hreplies frame hreport
    | _ => cases hreplyOf
  · exact h.safe reply hold

theorem ne_zero_of_envelope {flags : UInt32} {streamId : UInt64} {metadataBytes payloadBytes : Nat}
    (h : (validateProtocolEnvelope .fileBegin flags streamId metadataBytes payloadBytes).ok =
      true) : streamId ≠ 0 :=
  (rules_of_envelope rfl h).1 rfl

theorem beginOf_of_decode {frame : Frame} {message : FileControlMessage}
    (hdecode : FileMessageCodec.decode frame.type frame.metadata = .ok message)
    (hmessage : ∀ begin, message ≠ .begin begin) : beginOf frame = none := by
  unfold beginOf
  rw [hdecode]
  cases message with
  | begin begin => exact absurd rfl (hmessage begin)
  | _ => rfl

theorem Ready.process {session : ReplySession} (h : session.Ready)
    (hrunning : session.running = true) {frame : Frame} {io : PipelineIo}
    (hmanageable : session.Manageable (frame, io))
    (henvelope : (validateProtocolEnvelope frame.type frame.flags frame.streamId
      frame.metadata.length frame.payload.length).ok = true)
    (hrouted : decodedDataTransferId frame = .ok session.process.offer.transferId) :
    (∀ sent, .response sent ∈
        (session.process.process qt relativeFilePath arg sha frame io).2.2 →
      ∃ streamId begin, session.begun = some (streamId, begin) ∧
        Addressed streamId begin sent) ∧
    ((session.process.process qt relativeFilePath arg sha frame io).1 = true →
      ∃ streamId begin,
        ((beginOf frame).map (frame.streamId, ·)).or session.begun = some (streamId, begin) ∧
        (session.process.process qt relativeFilePath arg sha frame io).2.1.Opened streamId
          begin) := by
  cases hdecode : FileMessageCodec.decode frame.type frame.metadata with
  | error failure =>
    rw [ReceiveProcess.process, hdecode]
    exact ⟨fun _ hsent => (by cases List.mem_singleton.mp hsent), (by rintro ⟨⟩)⟩
  | ok message =>
    have hprocess : session.process.process qt relativeFilePath arg sha frame io =
        session.process.processMessage qt relativeFilePath arg sha frame.streamId message
          frame.payload io := by
      rw [ReceiveProcess.process, hdecode]
    rw [hprocess]
    by_cases hbegin : ∃ begin, message = .begin begin
    · obtain ⟨begin, rfl⟩ := hbegin
      have hbeginOf : beginOf frame = some begin := by rw [beginOf, hdecode]
      have htype := (FileMessageCodec.valid_of_decode hdecode).1
      have hbegins := @ReceiveProcess.processBegin_beginsFile qt relativeFilePath arg
        session.process frame.streamId begin (hmanageable.1 (by rw [hbeginOf]; rfl))
        (ne_zero_of_envelope (htype ▸ henvelope))
        (ReceiveProcess.transferId_of_routed hrouted hdecode) io
      refine ⟨fun sent hsent => absurd hsent (hbegins.silent sent), fun hgoesOn => ?_⟩
      refine ⟨frame.streamId, begin, ?_, hbegins.opened hgoesOn⟩
      rw [hbeginOf]
      rfl
    · have hmessage (begin : FileBeginMessage) : message ≠ .begin begin :=
        fun hequal => hbegin ⟨begin, hequal⟩
      rw [beginOf_of_decode hdecode hmessage]
      obtain hidle | ⟨streamId, begin, hbegun, hopened⟩ := h.opened hrunning
      · obtain ⟨diagnostic, hfails⟩ := @ReceiveProcess.processMessage_idle qt relativeFilePath arg
          sha session.process hidle frame.streamId message hmessage frame.payload io
        rw [hfails]
        exact ⟨fun _ hsent => (by cases List.mem_singleton.mp hsent), (by rintro ⟨⟩)⟩
      · have hkeeps := @ReceiveProcess.processMessage_keeps qt relativeFilePath arg sha
          session.process streamId begin hopened frame.streamId message hmessage frame.payload io
          hmanageable.2
        refine ⟨fun sent hsent => ⟨streamId, begin, hbegun, hkeeps.replies sent hsent⟩, ?_⟩
        exact fun hgoesOn => ⟨streamId, begin, hbegun, hkeeps.opened hgoesOn⟩

theorem Ready.step {session after : ReplySession} {call : Frame × PipelineIo} (h : session.Ready)
    (hmanageable : session.Manageable call)
    (hstep : step qt relativeFilePath arg sha session call = some after) : after.Ready := by
  obtain ⟨frame, io⟩ := call
  obtain ⟨⟨hrunning, henvelope, hrouted⟩, hafter⟩ := Option.ite_none_right_eq_some.mp hstep
  cases hafter
  obtain ⟨hreplies, hopened⟩ := @Ready.process qt relativeFilePath arg sha session h hrunning frame
    io hmanageable henvelope hrouted
  refine h.after hreplies fun hgoesOn => ?_
  rw [if_pos hgoesOn]
  exact hopened hgoesOn

/-- **Replies.** While the streams of its files fit in 32 bits and the platform explains what it
refuses, every reply of a pipeline can be encoded, and is addressed to the FILE_BEGIN it answers. -/
theorem answers_of_reachable {session : ReplySession}
    (h : (machine qt relativeFilePath arg sha).Reachable Manageable session) : session.Safe := by
  refine Ready.safe (h.invariant ?_ ?_)
  · rintro session ⟨hidle, -, hreplies⟩
    refine ⟨fun reply hreply => ?_, fun _ => .inl hidle⟩
    rw [hreplies] at hreply
    exact absurd hreply List.not_mem_nil
  · exact fun _ _ _ hready hmanageable hstep => hready.step hmanageable hstep

/-! ### An empty file that is there already -/

def emptyBegin : FileBeginMessage :=
  ⟨⟨1, one_nonNull⟩, ⟨1, one_nonNull⟩, 0, 0, 1, List.replicate 32 0⟩

def emptyEntry : ManifestEntry := { ReceiveProcess.presentEntry with size := 0 }

def emptyPresentFile : ReceiveProcess :=
  { ReceiveProcess.presentFile with
    entries := [emptyEntry]
    resumeState := { ReceiveProcess.presentFile.resumeState with
      files := [{
        fileId := ⟨1, one_nonNull⟩, relativeProtocolPath := QString.literal "a", totalBytes := 0
        partRelativePath := QString.literal "p" }] } }

def emptyEnd : FileEndMessage := ⟨⟨1, one_nonNull⟩, ⟨1, one_nonNull⟩, 0, List.replicate 32 0⟩

def emptyBeginFrame (streamId : UInt64) : Frame :=
  { type := .fileBegin, streamId
    metadata := QCborMap.toCbor (FileMessageCodec.fields (.begin emptyBegin)) }

def emptyEndFrame (streamId : UInt64) : Frame :=
  { type := .fileEnd, flags := FrameFlag.final, streamId
    metadata := QCborMap.toCbor (FileMessageCodec.fields (.finish emptyEnd)) }

abbrev emptyMachine : Machine ReplySession (Frame × PipelineIo) :=
  machine QtText.ascii (fun _ path => path) (fun text _ => text) ReceiveProcess.anySha256

theorem emptyMachine_step : emptyMachine.step =
    step QtText.ascii (fun _ path => path) (fun text _ => text) ReceiveProcess.anySha256 := rfl

def emptySkipping (streamId : UInt64) : ReplySession where
  process := { emptyPresentFile with
    activeStreamId := streamId.toUInt32, activeDecision := some .skip
    skippedBegin := some emptyBegin, skippedEntry := some emptyEntry }
  begun := some (streamId, emptyBegin)

theorem routed_of_decode {frame : Frame} {message : FileControlMessage}
    (hdecode : FileMessageCodec.decode frame.type frame.metadata = .ok message)
    (htype : frame.type ∈ [MessageType.fileBegin, .fileChunk, .fileEnd]) :
    decodedDataTransferId frame = .ok (FileControlMessage.transferId message) := by
  rw [decodedDataTransferId, if_pos htype, hdecode]

theorem step_of_process (session : ReplySession) {frame : Frame} {io : PipelineIo}
    {performed : PipelineStep} (hrunning : session.running = true)
    (henvelope : (validateProtocolEnvelope frame.type frame.flags frame.streamId
      frame.metadata.length frame.payload.length).ok = true)
    (hrouted : decodedDataTransferId frame = .ok session.process.offer.transferId)
    (hprocess : session.process.process qt relativeFilePath arg sha frame io = performed) :
    step qt relativeFilePath arg sha session (frame, io) =
      some ⟨performed.2.1,
        if performed.1 then ((beginOf frame).map (frame.streamId, ·)).or session.begun
        else session.begun,
        performed.1,
        (performed.2.2.filterMap replyOf).map (session.begun, ·) ++ session.replies⟩ := by
  subst hprocess
  exact if_pos ⟨hrunning, henvelope, hrouted⟩

theorem step_emptyBeginFrame {streamId : UInt64} (h : streamId ≠ 0) :
    emptyMachine.step { process := emptyPresentFile }
      (emptyBeginFrame streamId, ReceiveProcess.presentIo) = some (emptySkipping streamId) := by
  have hdecode : FileMessageCodec.decode (emptyBeginFrame streamId).type
      (emptyBeginFrame streamId).metadata = .ok (.begin emptyBegin) :=
    FileMessageCodec.decode_toCbor_begin (FileMessageCodec.validateBegin_eq_ok.mpr
      ⟨Nat.zero_le _, Nat.le_refl 0, Nat.one_pos, by decide, rfl⟩)
  have hskip : ({} : ConflictResolver).resolve QtText.ascii (fun text _ => text)
      ⟨QString.literal "/in", QString.literal "a", .skip, {}, kDefaultConflictRenameAttempts⟩
      (ReceiveProcess.presentIo.worker.views 0) (ReceiveProcess.presentIo.worker.createUuid 0).val =
        (.skipTarget (QString.literal "/in/a"), {}) := by
    decide +kernel
  have hprocess : emptyPresentFile.process QtText.ascii (fun _ path => path) (fun text _ => text)
      ReceiveProcess.anySha256 (emptyBeginFrame streamId) ReceiveProcess.presentIo =
        (true, (emptySkipping streamId).process, [.progress 0 0 (QString.literal "a")]) := by
    rw [ReceiveProcess.process_of_decode hdecode]
    exact ReceiveProcess.processBegin_of_skip rfl rfl rfl rfl rfl hskip
  have hmetadata : (emptyBeginFrame streamId).metadata ≠ [] := Cbor.encode_ne_nil _
  have hrouted := routed_of_decode hdecode (.head _)
  have hstep := @step_of_process _ _ _ _ { process := emptyPresentFile } (emptyBeginFrame streamId)
    ReceiveProcess.presentIo _ rfl (envelope_of_descriptor rfl (.head _) rfl h hmetadata) hrouted
    hprocess
  rw [emptyMachine_step, hstep, if_pos rfl, beginOf, hdecode]
  rfl

theorem exec_emptyFrames {streamId : UInt64} (h : streamId ≠ 0) :
    ∃ session frame, emptyMachine.exec { process := emptyPresentFile }
        [(emptyBeginFrame streamId, ReceiveProcess.presentIo),
          (emptyEndFrame streamId, ReceiveProcess.presentIo)] = some session ∧
      (some (streamId, emptyBegin), frame) ∈ session.replies ∧
      frame.streamId = streamId.toUInt32.toUInt64 := by
  have hdecode : FileMessageCodec.decode (emptyEndFrame streamId).type
      (emptyEndFrame streamId).metadata = .ok (.finish emptyEnd) :=
    FileMessageCodec.decode_toCbor_end
      (FileMessageCodec.validateEnd_eq_ok.mpr ⟨Nat.zero_le _, rfl⟩)
  have hskips : (emptySkipping streamId).process.Skips emptyBegin emptyEntry := ⟨rfl, rfl, rfl⟩
  have hpersists : emptyPresentFile.Persists QtText.ascii (fun _ path => path) ⟨1, one_nonNull⟩
      ReceiveProcess.presentIo := by
    unfold ReceiveProcess.Persists
    decide
  have hanswered := (@ReceiveProcess.skipEnd_answers_iff QtText.ascii (fun _ path => path) _ _ _
    ReceiveProcess.presentIo hskips emptyEnd).mpr ⟨rfl, rfl, hpersists⟩
  have hprocess : (emptySkipping streamId).process.process QtText.ascii (fun _ path => path)
      (fun text _ => text) ReceiveProcess.anySha256 (emptyEndFrame streamId)
      ReceiveProcess.presentIo =
        (emptySkipping streamId).process.skipEnd QtText.ascii (fun _ path => path) emptyBegin
          emptyEnd ReceiveProcess.presentIo := by
    rw [ReceiveProcess.process, hdecode]
    rfl
  have hmetadata : (emptyEndFrame streamId).metadata ≠ [] := Cbor.encode_ne_nil _
  have hrouted := routed_of_decode hdecode (.tail _ (.tail _ (.head _)))
  have hstep := @step_of_process _ _ _ _ (emptySkipping streamId) (emptyEndFrame streamId)
    ReceiveProcess.presentIo _ rfl (envelope_of_descriptor rfl (.head _) rfl h hmetadata) hrouted
    hprocess
  have hreply : (emptySkipping streamId).process.resultFrame
      (ReceiveProcess.skippedResult emptyEnd) ∈
        ((emptySkipping streamId).process.skipEnd QtText.ascii (fun _ path => path) emptyBegin
          emptyEnd ReceiveProcess.presentIo).2.2.filterMap replyOf :=
    List.mem_filterMap.mpr ⟨_, hanswered, rfl⟩
  have hexec : emptyMachine.exec { process := emptyPresentFile }
      [(emptyBeginFrame streamId, ReceiveProcess.presentIo),
        (emptyEndFrame streamId, ReceiveProcess.presentIo)] =
      emptyMachine.step (emptySkipping streamId)
        (emptyEndFrame streamId, ReceiveProcess.presentIo) := by
    rw [Machine.exec, step_emptyBeginFrame h, Option.bind_some]
    exact Option.bind_fun_some _
  rw [emptyMachine_step, hstep] at hexec
  exact ⟨_, _, hexec, List.mem_append_left _ (List.mem_map_of_mem hreply), rfl⟩

theorem answers_of_reachable_skipped :
    ∃ session frame, (some (1, emptyBegin), frame) ∈ session.replies ∧ Safe session := by
  obtain ⟨session, frame, hexec, hreply, -⟩ := @exec_emptyFrames 1 (by decide)
  refine ⟨session, frame, hreply, ?_⟩
  have hstart : emptyMachine.start { process := emptyPresentFile } := ⟨⟨rfl, rfl⟩, rfl, rfl⟩
  refine @answers_of_reachable QtText.ascii (fun _ path => path) (fun text _ => text)
    ReceiveProcess.anySha256 session ⟨_, hstart, ?_⟩
  refine Machine.run_of_exec_of_allowed (fun state => ?_) hexec
  refine List.forall_mem_cons.mpr ⟨?_, List.forall_mem_singleton.mpr ?_⟩
  · exact ⟨fun _ => by decide, fun _ _ => ⟨fun _ _ => .inl rfl, fun _ _ => .inl rfl⟩⟩
  · exact ⟨fun _ => by decide, fun _ _ => ⟨fun _ _ => .inl rfl, fun _ _ => .inl rfl⟩⟩

/-- A file on stream 2^32 + 1 is answered on stream 1. -/
theorem reply_truncated :
    ∃ session, emptyMachine.Reachable (fun _ _ => True) session ∧ ¬ session.Safe := by
  obtain ⟨session, frame, hexec, hreply, hstream⟩ := @exec_emptyFrames (2 ^ 32 + 1) (by decide)
  have hstart : emptyMachine.start { process := emptyPresentFile } := ⟨⟨rfl, rfl⟩, rfl, rfl⟩
  refine ⟨session, ⟨_, hstart, Machine.run_of_exec hexec⟩, fun hsafe => ?_⟩
  obtain ⟨streamId, begin, hbegun, haddressed⟩ := hsafe _ hreply
  cases hbegun
  exact absurd (hstream.symm.trans haddressed.stream) (by decide)

end ReplySession

end DeskflowPlus.App
