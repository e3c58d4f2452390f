import DeskflowPlus.App.ReceiveProcess
import DeskflowPlus.Transfer.FileMessageRoundTrip
import Mathlib.Tactic.SplitIfs

/-!
# Files whose target is skipped

A skipped file is not staged, but its frames still come, and the pipeline counts them as a receiver
would. It counts from zero, whatever offset the FILE_BEGIN names, and it has not compared the
FILE_BEGIN with the manifest. So it takes the streams a receiver takes just where the file starts at
its beginning, as the manifest has it.
-/

namespace DeskflowPlus.App

open Transfer

structure FileStream where
  chunks : List (FileChunkMessage × QByteArray)
  finish : FileEndMessage

namespace FileStream

def advance (begin : FileBeginMessage) :
    List (FileChunkMessage × QByteArray) → Nat → Nat → Option Nat
  | [], offset, _ => some offset
  | (chunk, payload) :: chunks, offset, sequence =>
    if chunk = ⟨begin.transferId, begin.fileId, offset, sequence⟩ ∧ payload ≠ [] ∧
        payload.length ≤ begin.chunkBytes ∧ payload.length ≤ begin.size - offset then
      advance begin chunks (offset + payload.length) (sequence + 1)
    else none

structure Legal (begin : FileBeginMessage) (entry : ManifestEntry) (stream : FileStream) :
    Prop where
  size : begin.size = entry.size
  digest : begin.expectedSha256 = entry.sha256
  chunks : advance begin stream.chunks begin.startOffset 0 = some begin.size
  finish : stream.finish =
    ⟨begin.transferId, begin.fileId, begin.size, begin.expectedSha256⟩

def messages (stream : FileStream) (streamId : UInt64) (io : PipelineIo) :
    List (UInt64 × FileControlMessage × QByteArray × PipelineIo) :=
  stream.chunks.map (fun chunk => (streamId, .chunk chunk.1, chunk.2, io)) ++
    [(streamId, .finish stream.finish, [], io)]

def singles (begin : FileBeginMessage) : Nat → Nat → List (FileChunkMessage × QByteArray)
  | 0, _ => []
  | remaining + 1, offset =>
    (⟨begin.transferId, begin.fileId, offset, offset⟩, [0]) :: singles begin remaining (offset + 1)

variable {begin : FileBeginMessage}

theorem advance_singles (hchunk : 0 < begin.chunkBytes) {remaining offset : Nat}
    (hsize : offset + remaining ≤ begin.size) :
    advance begin (singles begin remaining offset) offset offset = some (offset + remaining) := by
  induction remaining generalizing offset with
  | zero => rfl
  | succ remaining ih =>
    have hrest : ([0] : QByteArray).length ≤ begin.size - offset := by
      rw [List.length_singleton]
      omega
    rw [singles, advance, if_pos ⟨rfl, nofun, hchunk, hrest⟩, List.length_singleton,
      ih (by omega), Nat.add_right_comm, Nat.add_assoc]

theorem startOffset_of_advance_singles {offset : Nat}
    (h : advance begin (singles begin begin.size 0) offset 0 = some begin.size) : offset = 0 := by
  cases hsize : begin.size with
  | zero =>
    rw [hsize] at h
    exact Option.some.inj h
  | succ remaining =>
    rw [hsize, singles, advance] at h
    obtain ⟨⟨hposition, -⟩, -⟩ := Option.ite_none_right_eq_some.mp h
    exact (FileChunkMessage.mk.inj hposition).2.2.1.symm

/-- The receiver stages the stream, where the disk takes everything. -/
def staged (sha : Sha256) (finish : FileEndMessage) :
    List (FileChunkMessage × QByteArray) → FileReceiver → Bool
  | [], receiver => (receiver.finishStaging sha finish {}).1.ok
  | (chunk, payload) :: chunks, receiver =>
    let (result, receiver, _) := receiver.append chunk payload {} fun _ => none
    result.ok && staged sha finish chunks receiver

variable {receiver : FileReceiver}

end FileStream

namespace ReceiveProcess

variable {qt : QtText} {relativeFilePath : QString → QString → QString}
  {arg : ConflictResolver.Arg} {sha : Sha256}

structure Skips (p : ReceiveProcess) (begin : FileBeginMessage) (entry : ManifestEntry) : Prop where
  begun : p.skippedBegin = some begin
  entry : p.skippedEntry = some entry
  routed : begin.transferId = p.offer.transferId

/-- The peer is told that the target was skipped, which it is not where a frame fails. -/
def AnswersSkipped (qt : QtText) (relativeFilePath : QString → QString → QString)
    (arg : ConflictResolver.Arg) (sha : Sha256) (p : ReceiveProcess) (streamId : UInt64)
    (io : PipelineIo) (stream : FileStream) : Prop :=
  .response (p.resultFrame (skippedResult stream.finish)) ∈
    (p.processAll qt relativeFilePath arg sha (stream.messages streamId io)).2.2

/-- The resume store takes the file as skipped. -/
def Persists (qt : QtText) (relativeFilePath : QString → QString → QString) (p : ReceiveProcess)
    (fileId : FileId) (io : PipelineIo) : Prop :=
  (p.persisted qt relativeFilePath fileId [] .skip io).isOk = true

def counted (p : ReceiveProcess) (skippedBytes skippedNextSequence : Nat) : ReceiveProcess :=
  { p with skippedBytes, skippedNextSequence }

variable {p : ReceiveProcess} {begin : FileBeginMessage} {entry : ManifestEntry}

theorem skipChunk_eq (h : p.Skips begin entry) (chunk : FileChunkMessage) (payload : QByteArray) :
    p.skipChunk begin chunk payload =
      if chunk = ⟨begin.transferId, begin.fileId, p.skippedBytes, p.skippedNextSequence⟩ ∧
          payload ≠ [] ∧ payload.length ≤ begin.chunkBytes ∧
          payload.length ≤ begin.size - p.skippedBytes then
        (true, p.counted (p.skippedBytes + payload.length) (p.skippedNextSequence + 1), [])
      else p.fail .internalError "skipped file stream is invalid" := by
  obtain ⟨transferId, fileId, offset, sequence⟩ := chunk
  have hentry : p.skippedEntry.isNone = false := by rw [h.entry, Option.isNone_some]
  unfold skipChunk
  rw [← h.routed, hentry, ← ite_not]
  refine if_congr ?_ rfl rfl
  simp only [Bool.false_eq_true, false_or, FileChunkMessage.mk.injEq, not_or, not_not, ne_eq,
    not_lt, and_assoc]

theorem processAll_finish (streamId : UInt64) (fileEnd : FileEndMessage) (io : PipelineIo)
    (p : ReceiveProcess) :
    (p.processAll qt relativeFilePath arg sha [(streamId, .finish fileEnd, [], io)]).2.2 =
      (p.processEnd qt relativeFilePath arg sha fileEnd io).2.2 := by
  rw [processAll, processMessage]
  obtain ⟨goesOn, after, reports⟩ := p.processEnd qt relativeFilePath arg sha fileEnd io
  cases goesOn with
  | true => exact List.append_nil reports
  | false => rfl

variable {io : PipelineIo}

theorem skipEnd_answers_iff (h : p.Skips begin entry) {fileEnd : FileEndMessage} :
    .response (p.resultFrame (skippedResult fileEnd)) ∈
        (p.skipEnd qt relativeFilePath begin fileEnd io).2.2 ↔
      p.skippedBytes = begin.size ∧
        fileEnd = ⟨begin.transferId, begin.fileId, begin.size, entry.sha256⟩ ∧
        p.Persists qt relativeFilePath begin.fileId io := by
  obtain ⟨transferId, fileId, size, digest⟩ := fileEnd
  have hfailed {step : PipelineStep} {diagnostic : String}
      (hstep : step = p.fail .internalError diagnostic) :
      .response (p.resultFrame (skippedResult ⟨transferId, fileId, size, digest⟩)) ∉ step.2.2 := by
    rw [hstep, fail, List.mem_singleton]
    nofun
  rw [skipEnd, h.entry]
  dsimp only
  rw [← h.routed]
  by_cases hfinish : p.skippedBytes = begin.size ∧
      (⟨transferId, fileId, size, digest⟩ : FileEndMessage) =
        ⟨begin.transferId, begin.fileId, begin.size, entry.sha256⟩
  · obtain ⟨hbytes, hmessage⟩ := hfinish
    obtain ⟨rfl, rfl, rfl, rfl⟩ := FileEndMessage.mk.inj hmessage
    rw [if_neg (by simp [hbytes]), persistCompletedFile]
    unfold Persists
    cases p.persisted qt relativeFilePath begin.fileId [] .skip io with
    | error diagnostic => exact iff_of_false (hfailed rfl) fun hpersists => nomatch hpersists.2.2
    | ok stores => exact iff_of_true List.mem_cons_self ⟨hbytes, rfl, rfl⟩
  · rw [if_pos]
    · exact iff_of_false (hfailed rfl) fun hends => hfinish ⟨hends.1, hends.2.1⟩
    · simp only [FileEndMessage.mk.injEq] at hfinish
      by_contra hends
      simp only [not_or, not_not, ne_eq] at hends
      exact hfinish ⟨hends.2.2.2.1, hends.1, hends.2.1, hends.2.2.1, hends.2.2.2.2⟩

variable {streamId : UInt64}

/-- **The skip branch** takes the streams that lead from where it counts to the size in the
FILE_BEGIN. -/
theorem answersSkipped_iff (h : p.Skips begin entry) {stream : FileStream} :
    p.AnswersSkipped qt relativeFilePath arg sha streamId io stream ↔
      FileStream.advance begin stream.chunks p.skippedBytes p.skippedNextSequence =
          some begin.size ∧
        stream.finish = ⟨begin.transferId, begin.fileId, begin.size, entry.sha256⟩ ∧
        p.Persists qt relativeFilePath begin.fileId io := by
  obtain ⟨chunks, finish⟩ := stream
  unfold AnswersSkipped FileStream.messages
  induction chunks generalizing p with
  | nil =>
    rw [List.map_nil, List.nil_append, processAll_finish, processEnd, h.begun, FileStream.advance,
      Option.some.injEq]
    exact skipEnd_answers_iff h
  | cons first chunks ih =>
    obtain ⟨chunk, payload⟩ := first
    rw [List.map_cons, List.cons_append, processAll, processMessage]
    dsimp only
    rw [processChunk, h.begun]
    dsimp only
    rw [skipChunk_eq h, FileStream.advance]
    by_cases hcontinues : chunk =
        ⟨begin.transferId, begin.fileId, p.skippedBytes, p.skippedNextSequence⟩ ∧ payload ≠ [] ∧
        payload.length ≤ begin.chunkBytes ∧ payload.length ≤ begin.size - p.skippedBytes
    · rw [if_pos hcontinues, if_pos hcontinues]
      exact @ih (p.counted (p.skippedBytes + payload.length) (p.skippedNextSequence + 1))
        ⟨h.begun, h.entry, h.routed⟩
    · rw [if_neg hcontinues, if_neg hcontinues]
      refine iff_of_false ?_ nofun
      rw [fail, List.mem_singleton]
      nofun

/-- **Skipped streams.** From the start of the file on, the skip branch takes the streams a receiver
takes just where the FILE_BEGIN starts at zero and is the manifest's. -/
theorem answersSkipped_iff_legal_iff (h : p.Skips begin entry) (hbytes : p.skippedBytes = 0)
    (hsequence : p.skippedNextSequence = 0) (hchunk : 0 < begin.chunkBytes) :
    (∀ stream, p.AnswersSkipped qt relativeFilePath arg sha streamId io stream ↔
        stream.Legal begin entry ∧ p.Persists qt relativeFilePath begin.fileId io) ↔
      (p.Persists qt relativeFilePath begin.fileId io →
        begin.startOffset = 0 ∧ begin.size = entry.size ∧
          begin.expectedSha256 = entry.sha256) := by
  constructor
  · intro htakes hpersists
    have hsingles : p.AnswersSkipped qt relativeFilePath arg sha streamId io
        ⟨FileStream.singles begin begin.size 0,
          ⟨begin.transferId, begin.fileId, begin.size, entry.sha256⟩⟩ := by
      refine (answersSkipped_iff h).mpr ⟨?_, rfl, hpersists⟩
      rw [hbytes, hsequence, FileStream.advance_singles hchunk (Nat.zero_add _).le, Nat.zero_add]
    obtain ⟨hlegal, -⟩ := (htakes _).mp hsingles
    exact ⟨FileStream.startOffset_of_advance_singles hlegal.chunks, hlegal.size, hlegal.digest⟩
  · intro hmatches stream
    rw [answersSkipped_iff h, hbytes, hsequence]
    constructor
    · rintro ⟨hchunks, hfinish, hpersists⟩
      obtain ⟨hstart, hsize, hdigest⟩ := hmatches hpersists
      refine ⟨⟨hsize, hdigest, ?_, ?_⟩, hpersists⟩
      · rw [hstart]
        exact hchunks
      · rw [hdigest]
        exact hfinish
    · rintro ⟨hlegal, hpersists⟩
      obtain ⟨hstart, -, -⟩ := hmatches hpersists
      have hchunks := hlegal.chunks
      rw [hstart] at hchunks
      refine ⟨hchunks, ?_, hpersists⟩
      rw [← hlegal.digest]
      exact hlegal.finish

theorem settleBegin_skips {after : ReceiveProcess} {first : FileBeginMessage}
    {resolved : FileReceiverResult} {worker : IncomingFileReceiverWorker}
    {reports : List PipelineReport}
    (h : p.settleBegin begin entry resolved worker = (true, after, reports))
    (hskipped : after.skippedBegin = some first) (hreceiving : p.skippedBegin = none) :
    first = begin ∧ after.skippedEntry = some entry ∧ after.offer = p.offer ∧
      after.skippedBytes = 0 ∧ after.skippedNextSequence = 0 := by
  unfold settleBegin at h
  split_ifs at h
  · cases h
    exact ⟨(Option.some.inj hskipped).symm, rfl, rfl, rfl, rfl⟩
  · cases h
    rw [hreceiving] at hskipped
    cases hskipped
  · cases h

theorem processBegin_skips {after : ReceiveProcess} {first : FileBeginMessage}
    {reports : List PipelineReport}
    (h : p.processBegin qt relativeFilePath arg streamId begin io = (true, after, reports))
    (hskipped : after.skippedBegin = some first) :
    first = begin ∧ after.skippedEntry = p.entryFor begin.fileId ∧ after.offer = p.offer ∧
      after.skippedBytes = 0 ∧ after.skippedNextSequence = 0 := by
  unfold processBegin at h
  split at h
  · cases h
  · rename_i hidle
    have hreceiving : p.skippedBegin = none := by
      rw [← Option.not_isSome_iff_eq_none]
      exact (not_or.mp hidle).2
    cases hentry : p.entryFor begin.fileId with
    | none =>
      rw [hentry] at h
      cases h
    | some entry =>
      rw [hentry] at h
      dsimp only at h
      generalize beginWorker qt relativeFilePath arg _ _ io = begun at h
      obtain ⟨result, worker⟩ := begun
      dsimp only at h
      cases hprompt : worker.pendingConflict with
      | none =>
        rw [hprompt] at h
        have hsettled := settleBegin_skips h hskipped hreceiving
        exact hsettled
      | some prompt =>
        rw [hprompt] at h
        cases hdecision : io.conflictDecision with
        | none =>
          rw [hdecision] at h
          cases h
        | some decision =>
          rw [hdecision] at h
          dsimp only at h
          split at h
          · cases h
          · obtain ⟨hgoesOn, hstep⟩ := Prod.mk.inj h
            obtain ⟨hafter, -⟩ := Prod.mk.inj hstep
            have hsettled := settleBegin_skips (Prod.ext hgoesOn (Prod.ext hafter rfl)) hskipped
              hreceiving
            exact hsettled

theorem process_of_decode {frame : Frame}
    (hdecode : FileMessageCodec.decode frame.type frame.metadata = .ok (.begin begin)) :
    p.process qt relativeFilePath arg sha frame io =
      p.processBegin qt relativeFilePath arg frame.streamId begin io := by
  rw [process, hdecode]
  rfl

theorem transferId_of_routed {frame : Frame} {transferId : TransferId}
    (hrouted : decodedDataTransferId frame = .ok transferId)
    (hdecode : FileMessageCodec.decode frame.type frame.metadata = .ok (.begin begin)) :
    begin.transferId = transferId := by
  unfold decodedDataTransferId at hrouted
  rw [hdecode] at hrouted
  split at hrouted
  · exact Except.ok.inj hrouted
  · cases hrouted

/-- **A skipped file.** Behind its FILE_BEGIN, the pipeline takes the streams a receiver of the file
takes just where the FILE_BEGIN starts at zero and is the manifest's. -/
theorem skips_as_received_iff {p skipping : ReceiveProcess} {frame : Frame} {io later : PipelineIo}
    {begin : FileBeginMessage} {entry : ManifestEntry} {reports : List PipelineReport}
    {streamId : UInt64} (hrouted : decodedDataTransferId frame = .ok p.offer.transferId)
    (hdecode : FileMessageCodec.decode frame.type frame.metadata = .ok (.begin begin))
    (hprocess : p.process qt relativeFilePath arg sha frame io = (true, skipping, reports))
    (hskips : skipping.skippedBegin.isSome = true)
    (hentry : p.entryFor begin.fileId = some entry) :
    (∀ stream, skipping.AnswersSkipped qt relativeFilePath arg sha streamId later stream ↔
        stream.Legal begin entry ∧
          skipping.Persists qt relativeFilePath begin.fileId later) ↔
      (skipping.Persists qt relativeFilePath begin.fileId later →
        begin.startOffset = 0 ∧ begin.size = entry.size ∧
          begin.expectedSha256 = entry.sha256) := by
  rw [process_of_decode hdecode] at hprocess
  obtain ⟨first, hfirst⟩ := Option.isSome_iff_exists.mp hskips
  obtain ⟨rfl, hskipped, hoffer, hbytes, hsequence⟩ := processBegin_skips hprocess hfirst
  rw [hentry] at hskipped
  obtain ⟨-, hvalid, -⟩ := FileMessageCodec.valid_of_decode hdecode
  obtain ⟨-, -, hchunk, -⟩ := FileMessageCodec.validateBegin_eq_ok.mp hvalid
  refine answersSkipped_iff_legal_iff ⟨hfirst, hskipped, ?_⟩ hbytes hsequence hchunk
  rw [hoffer]
  exact transferId_of_routed hrouted hdecode

theorem processBegin_of_skip {path : QString} {conflicts : ConflictResolver}
    (hreceiver : p.receiver = none) (hskipped : p.skippedBegin = none)
    (hentry : p.entryFor begin.fileId = some entry) (howning : io.worker.owningThread = true)
    (hroot : (io.worker.verifyReceiveRoot p.options.destinationRoot).ok = true)
    (hskip : ({} : ConflictResolver).resolve qt arg
      ⟨p.options.destinationRoot, entry.relativeProtocolPath, p.options.conflictPolicy, {},
        kDefaultConflictRenameAttempts⟩
      (io.worker.views 0) (io.worker.createUuid 0).val = (.skipTarget path, conflicts)) :
    p.processBegin qt relativeFilePath arg streamId begin io =
      (true, { p with
        activeStreamId := streamId.toUInt32, activeDecision := some .skip
        receiver := none, skippedBegin := some begin, skippedEntry := some entry
        skippedBytes := 0, skippedNextSequence := 0 },
        [.progress p.completedBytes p.completedFiles entry.relativeProtocolPath]) := by
  have hidle : ¬ (p.receiver.isSome = true ∨ p.skippedBegin.isSome = true) := by
    rw [hreceiver, hskipped]
    decide
  have hinternal {worker : IncomingFileReceiverWorker} {resumeState : Option ResumeState}
      (hworker : worker.conflicts = {}) :
      ∃ skipping, worker.beginInternal qt relativeFilePath arg
          { receiveRoot := p.options.destinationRoot, entry, begin
            manifestSha256 := p.offer.manifestSha256
            conflictPolicy := p.options.conflictPolicy } resumeState io.worker = ({}, skipping) ∧
        skipping.disposition = .skip ∧ skipping.pendingConflict = none := by
    unfold IncomingFileReceiverWorker.beginInternal
    dsimp only
    rw [if_neg (not_not_intro howning), if_neg (not_not_intro hroot), hworker, hskip]
    exact ⟨_, rfl, rfl, rfl⟩
  have hbegin {p' : ReceiveProcess} : ∃ skipping, p'.beginWorker qt relativeFilePath arg
      { receiveRoot := p.options.destinationRoot, entry, begin
        manifestSha256 := p.offer.manifestSha256
        conflictPolicy := p.options.conflictPolicy } io = ({}, skipping) ∧
      skipping.disposition = .skip ∧ skipping.pendingConflict = none := by
    unfold beginWorker
    split
    · exact hinternal rfl
    · exact hinternal rfl
  unfold processBegin
  rw [if_neg hidle, hentry]
  dsimp only
  obtain ⟨skipping, hworker, hdisposition, hprompt⟩ := hbegin
  rw [hworker]
  dsimp only
  rw [hprompt]
  dsimp only
  have hok : ¬ ¬ ({} : FileReceiverResult).ok = true := not_not_intro rfl
  rw [settleBegin, if_neg hok, if_pos hdisposition]

def presentBegin (startOffset : Nat) : FileBeginMessage :=
  ⟨⟨1, one_nonNull⟩, ⟨1, one_nonNull⟩, 2, startOffset, 1, List.replicate 32 0⟩

def presentEntry : ManifestEntry :=
  { id := ⟨1, one_nonNull⟩, relativeProtocolPath := QString.literal "a", size := 2, modifiedUtc := {}
    sha256 := List.replicate 32 0 }

def presentFile : ReceiveProcess where
  offer :=
    { transferId := ⟨1, one_nonNull⟩, displayName := [], totalBytes := 2, fileCount := 1
      manifestSha256 := List.replicate 32 0 }
  options := { destinationRoot := QString.literal "/in", conflictPolicy := .skip }
  entries := [presentEntry]
  resumeStore := { states := fun _ => none }
  resumeState :=
    { transferId := ⟨1, one_nonNull⟩, peerDeviceId := ⟨1, one_nonNull⟩
      manifestSha256 := List.replicate 32 0
      files := [{
        fileId := ⟨1, one_nonNull⟩, relativeProtocolPath := QString.literal "a", totalBytes := 2
        partRelativePath := QString.literal "p" }]
      resolvedTargets := [], updatedUtc := { msecs := some 1 } }

def presentIo : PipelineIo :=
  let worker : WorkerIo :=
    { views := fun _ _ => ⟨fun _ => true, fun _ => false, fun _ => true, fun _ => []⟩
      createUuid := fun _ => ⟨1, one_nonNull⟩
      commits := { failsIfExists := fun _ _ _ _ => rfl } }
  { worker, answered := worker, now := { msecs := some 1 } }

def presentFrame (startOffset : Nat) : Frame :=
  { type := .fileBegin, streamId := 1
    metadata := QCborMap.toCbor (FileMessageCodec.fields (.begin (presentBegin startOffset))) }

variable {startOffset : Nat}

theorem decode_presentFrame (h : startOffset ≤ 2) :
    FileMessageCodec.decode (presentFrame startOffset).type (presentFrame startOffset).metadata =
      .ok (.begin (presentBegin startOffset)) := by
  refine FileMessageCodec.decode_toCbor_begin (FileMessageCodec.validateBegin_eq_ok.mpr ?_)
  refine ⟨?_, h, Nat.one_pos, ?_, rfl⟩
  · show 2 ≤ FileMessageCodec.qint64Max
    decide
  · show 1 ≤ FileMessageCodec.kMaximumChunkBytes
    decide

def presentSkipping (startOffset : Nat) : ReceiveProcess :=
  { presentFile with
    activeStreamId := 1, activeDecision := some .skip
    skippedBegin := some (presentBegin startOffset), skippedEntry := some presentEntry }

def anySha256 : Sha256 := ⟨fun _ => List.replicate 32 0, Sha256.length_zeros⟩

theorem process_presentFrame (h : startOffset ≤ 2) :
    presentFile.process QtText.ascii (fun _ path => path) (fun text _ => text) anySha256
        (presentFrame startOffset) presentIo =
      (true, presentSkipping startOffset, [.progress 0 0 (QString.literal "a")]) := by
  have hskip : ({} : ConflictResolver).resolve QtText.ascii (fun text _ => text)
      ⟨QString.literal "/in", QString.literal "a", .skip, {}, kDefaultConflictRenameAttempts⟩
      (presentIo.worker.views 0) (presentIo.worker.createUuid 0).val =
        (.skipTarget (QString.literal "/in/a"), {}) := by
    decide +kernel
  rw [process_of_decode (decode_presentFrame h)]
  exact processBegin_of_skip rfl rfl rfl rfl rfl hskip

theorem routed_presentFrame (h : startOffset ≤ 2) :
    decodedDataTransferId (presentFrame startOffset) = .ok presentFile.offer.transferId := by
  have htype : (presentFrame startOffset).type ∈
      [MessageType.fileBegin, .fileChunk, .fileEnd] := List.mem_cons_self
  rw [decodedDataTransferId, if_pos htype, decode_presentFrame h]
  rfl

theorem skips_as_received_iff_from_start :
    (presentBegin 0).startOffset = 0 ∧ ∀ stream,
      (presentSkipping 0).AnswersSkipped QtText.ascii (fun _ path => path) (fun text _ => text)
          anySha256 1 presentIo stream ↔
        stream.Legal (presentBegin 0) presentEntry ∧
          (presentSkipping 0).Persists QtText.ascii (fun _ path => path) ⟨1, one_nonNull⟩
            presentIo := by
  refine ⟨rfl, ?_⟩
  exact (skips_as_received_iff (routed_presentFrame (Nat.zero_le 2))
    (decode_presentFrame (Nat.zero_le 2)) (process_presentFrame (Nat.zero_le 2)) rfl rfl).mpr
    (fun _ => ⟨rfl, rfl, rfl⟩)

/-- A resumed file of which one byte was there: the legal rest of it is refused. -/
theorem resumed_stream_refused :
    presentFile.process QtText.ascii (fun _ path => path) (fun text _ => text) anySha256
        (presentFrame 1) presentIo =
      (true, presentSkipping 1, [.progress 0 0 (QString.literal "a")]) ∧
    ¬ ∀ stream, (presentSkipping 1).AnswersSkipped QtText.ascii (fun _ path => path)
        (fun text _ => text) anySha256 1 presentIo stream ↔
      stream.Legal (presentBegin 1) presentEntry ∧
        (presentSkipping 1).Persists QtText.ascii (fun _ path => path) ⟨1, one_nonNull⟩
          presentIo := by
  refine ⟨process_presentFrame (by decide), fun htakes => ?_⟩
  have hlegal : FileStream.Legal (presentBegin 1) presentEntry
      ⟨[(⟨⟨1, one_nonNull⟩, ⟨1, one_nonNull⟩, 1, 0⟩, [0])],
        ⟨⟨1, one_nonNull⟩, ⟨1, one_nonNull⟩, 2, List.replicate 32 0⟩⟩ :=
    ⟨rfl, rfl, by decide, rfl⟩
  have hpersists : (presentSkipping 1).Persists QtText.ascii (fun _ path => path) ⟨1, one_nonNull⟩
      presentIo := by
    unfold Persists
    decide
  have hskips : (presentSkipping 1).Skips (presentBegin 1) presentEntry := ⟨rfl, rfl, rfl⟩
  obtain ⟨hadvance, -⟩ := (answersSkipped_iff hskips).mp ((htakes _).mpr ⟨hlegal, hpersists⟩)
  exact absurd hadvance (by decide)

end ReceiveProcess

end DeskflowPlus.App
