import DeskflowPlus.Transfer.FileReceiver
import DeskflowPlus.Transfer.TransferSender

/-!
# Streaming one file from sender to receiver

The sender's frames, in order, are the receiver's input. Both ends keep an offset, a sequence number
and a running hash of their own, and one relation ties them: both stand at the same offset, both
have hashed the source up to it, and the part on the disk is the source up to it.
-/

namespace DeskflowPlus.Transfer

namespace FileStreaming

variable (qt : QtText) (sha : Sha256) (view : SourceView)

def produce : Nat → TransferSender → List Frame × TransferSender
  | 0, sender => ([], sender)
  | calls + 1, sender =>
    let (result, next) := sender.nextFrame qt sha view
    let (frames, last) := produce calls next
    (result.frame.toList ++ frames, last)

/-- What the receiving end knows of the file before its frames arrive. -/
structure Reception where
  receiveRoot : QString
  entry : ManifestEntry
  manifestSha256 : QByteArray
  pathLimits : PathLimits := {}
  resumeState : Option ResumeState := none

def Reception.receiveRequest (reception : Reception) (message : FileBeginMessage) :
    FileReceiveRequest :=
  { receiveRoot := reception.receiveRoot, entry := reception.entry, begin := message,
    manifestSha256 := reception.manifestSha256, pathLimits := reception.pathLimits }

def deliver (reception : Reception) (io : FileIo) (state : FileReceiver × Disk) (frame : Frame) :
    Option (FileReceiver × Disk) :=
  let (receiver, disk) := state
  match FileMessageCodec.decode frame.type frame.metadata with
  | .ok (.begin message) =>
    let request := reception.receiveRequest message
    let (result, receiver, disk) :=
      match reception.resumeState with
      | none => FileReceiver.begin qt request io receiver disk
      | some state => FileReceiver.resume qt request state io receiver disk
    if result.ok then some (receiver, disk) else none
  | .ok (.chunk message) =>
    let (result, receiver, disk) := FileReceiver.append message frame.payload io receiver disk
    if result.ok then some (receiver, disk) else none
  | .ok (.finish message) =>
    let (result, receiver) := FileReceiver.finishStaging sha message io receiver
    if result.ok then some (receiver, disk) else none
  | _ => none

/-- All frames in order; `none` as soon as one is rejected. -/
def deliverAll (reception : Reception) (io : FileIo) :
    List Frame → FileReceiver × Disk → Option (FileReceiver × Disk)
  | [], state => some state
  | frame :: frames, state =>
    match deliver qt sha reception io state frame with
    | none => none
    | some state => deliverAll reception io frames state

/-- The source is the announced file, it does not change, and every disk operation succeeds. -/
structure Faithful (request : TransferSenderRequest) (content : QByteArray) (io : FileIo) :
    Prop where
  accepted : TransferSender.validate qt request = none
  size : request.source.entry.size = content.length
  hash : request.source.entry.sha256 = sha.hash content
  unchanged : TransferSender.snapshotMatches view request.source.entry = true
  opens : view.opens = true
  readable : view.readError = none
  bytes : view.content = content
  mkpath : io.mkpath = true
  openFile : io.openFile = true
  readPrefix : io.readPrefix = true
  seek : io.seek = true
  written : io.written = none
  flush : io.flush = true

def Streams (reception : Reception) (io : FileIo) (content : QByteArray) (partPath : QString)
    (sender : TransferSender) (state : FileReceiver × Disk) : Prop :=
  ∃ calls, (produce qt sha view calls sender).2.state = .finished ∧
    ∃ receiver disk,
      deliverAll qt sha reception io (produce qt sha view calls sender).1 state =
        some (receiver, disk) ∧
      receiver.snapshot.state = .receiving ∧ receiver.partFileOpen = false ∧
      receiver.snapshot.partPath = partPath ∧ disk partPath = some (.file content)

variable {qt sha view} {request : TransferSenderRequest} {reception : Reception} {io : FileIo}
  {content : QByteArray} {partPath : QString}

variable {sender : TransferSender}

theorem streams_of_preparing {next : TransferSender} {state : FileReceiver × Disk}
    (hcall : sender.nextFrame qt sha view = ({ status := .preparing }, next))
    (h : Streams qt sha view reception io content partPath next state) :
    Streams qt sha view reception io content partPath sender state := by
  obtain ⟨calls, hfinished, receiver, disk, hdeliver, hrest⟩ := h
  refine ⟨calls + 1, ?_, receiver, disk, ?_, hrest⟩
  · simpa [produce, hcall] using hfinished
  · simpa [produce, hcall] using hdeliver

theorem streams_of_frame {next : TransferSender} {frame : Frame}
    {state state' : FileReceiver × Disk}
    (hcall : sender.nextFrame qt sha view = ({ frame := some frame, status := .frameReady }, next))
    (hframe : deliver qt sha reception io state frame = some state')
    (h : Streams qt sha view reception io content partPath next state') :
    Streams qt sha view reception io content partPath sender state := by
  obtain ⟨calls, hfinished, receiver, disk, hdeliver, hrest⟩ := h
  refine ⟨calls + 1, ?_, receiver, disk, ?_, hrest⟩
  · simpa [produce, hcall] using hfinished
  · simpa [produce, hcall, deliverAll, hframe] using hdeliver

/-- Both ends at one offset of the source, with everything before it hashed and on the disk. -/
structure InStep (request : TransferSenderRequest) (content : QByteArray) (partPath : QString)
    (sender : TransferSender) (receiver : FileReceiver) (disk : Disk) : Prop where
  request_eq : sender.request = request
  offset_le : sender.offset ≤ content.length
  sequence_le : sender.sequence ≤ sender.offset
  hashed : sender.hash = content.take sender.offset
  receiving : receiver.snapshot.state = .receiving
  transferId : receiver.snapshot.transferId = some request.transferId
  fileId : receiver.snapshot.fileId = some request.source.entry.id
  expectedSize : receiver.snapshot.expectedSize = content.length
  receivedBytes : receiver.snapshot.receivedBytes = sender.offset
  nextSequence : receiver.snapshot.nextSequence = sender.sequence
  partPath_eq : receiver.snapshot.partPath = partPath
  chunkBytes : receiver.chunkBytes = request.chunkBytes
  expectedSha256 : receiver.expectedSha256 = request.source.entry.sha256
  received : receiver.hash = content.take sender.offset
  staged : disk partPath = some (.file (content.take sender.offset))

theorem read_eq (hfaithful : Faithful qt sha view request content io) (offset wanted : Nat) :
    view.read offset wanted = .ok ((content.drop offset).take wanted) := by
  rw [SourceView.read, hfaithful.readable, hfaithful.bytes]

theorem decode_frame {message : FileControlMessage}
    (hvalid : FileMessageCodec.validate message = .ok ())
    (hresult : ∀ result, message ≠ .result result) :
    FileMessageCodec.decode (fileMessageType message)
      (QCborMap.toCbor (FileMessageCodec.fields message)) = .ok message :=
  FileMessageCodec.decode_encode (FileMessageCodec.encode_eq_ok.mpr ⟨hvalid, rfl⟩) hresult

variable {receiver : FileReceiver} {disk : Disk}

theorem streams_of_endPending (hfaithful : Faithful qt sha view request content io)
    (hstep : InStep request content partPath sender receiver disk)
    (hstate : sender.state = .endPending) (hoffset : sender.offset = content.length) :
    Streams qt sha view reception io content partPath sender (receiver, disk) := by
  obtain ⟨-, -, -, -, -, -, hsizeFits, -⟩ := TransferSender.validate_eq_none qt hfaithful.accepted
  have htake : content.take sender.offset = content := by rw [hoffset, List.take_length]
  have hsize := hfaithful.size
  have hhash : sha.hash sender.hash = request.source.entry.sha256 := by
    rw [hstep.hashed, htake, hfaithful.hash]
  let message : FileEndMessage :=
    { transferId := request.transferId, fileId := request.source.entry.id, size := sender.offset,
      sha256 := sha.hash sender.hash }
  have hvalid : FileMessageCodec.validate (.finish message) = .ok () := by
    refine FileMessageCodec.validateEnd_eq_ok.mpr ⟨?_, sha.length_hash _⟩
    simp only [message, FileMessageCodec.qint64Max]
    omega
  have hunchanged : ¬ (sender.offset ≠ request.source.entry.size ∨
      ¬ TransferSender.snapshotMatches view request.source.entry ∨
      sha.hash sender.hash ≠ request.source.entry.sha256) := by
    simp [hfaithful.unchanged, hhash, hoffset, hsize]
  have hcall : sender.nextFrame qt sha view =
      ({ frame := some (sender.fileFrame (.finish message) []), status := .frameReady },
        { sender with state := .finished }) := by
    rw [TransferSender.nextFrame, hstate]
    dsimp only
    rw [TransferSender.finishFile, hstep.request_eq, if_neg hunchanged]
    exact TransferSender.encodeFrame_of_validate hvalid _ _ _
  have hfinish : receiver.finishStaging sha message io =
      ({}, { receiver with partFileOpen := false }) := by
    refine FileReceiver.finishStaging_of_complete sha hstep.receiving hstep.transferId hstep.fileId
      ?_ ?_ ?_ ?_ hfaithful.flush
    · rw [hstep.expectedSize, ← hoffset]
    · rw [hstep.receivedBytes, hstep.expectedSize, hoffset]
    · rw [hstep.expectedSha256, ← hhash]
    · rw [hstep.received, htake, hstep.expectedSha256, hfaithful.hash]
  have hdeliver : deliver qt sha reception io (receiver, disk)
      (sender.fileFrame (.finish message) []) =
        some ({ receiver with partFileOpen := false }, disk) := by
    have hdecode := decode_frame hvalid (by simp)
    simp only [deliver, TransferSender.fileFrame, hdecode, hfinish]
    rfl
  refine streams_of_frame hcall hdeliver ⟨0, rfl, _, disk, rfl, hstep.receiving, rfl,
    hstep.partPath_eq, ?_⟩
  rw [hstep.staged, htake]

theorem chunk_step (hfaithful : Faithful qt sha view request content io)
    (hstep : InStep request content partPath sender receiver disk) (hstate : sender.state = .chunks)
    (hoffset : sender.offset < content.length) :
    ∃ frame next receiver' disk',
      sender.nextFrame qt sha view =
        ({ frame := some frame, status := .frameReady }, next) ∧
      deliver qt sha reception io (receiver, disk) frame = some (receiver', disk') ∧
      InStep request content partPath next receiver' disk' ∧ sender.offset < next.offset ∧
      next.state = if next.offset = content.length then .endPending else .chunks := by
  obtain ⟨-, hpositive, hchunk, -, -, -, hsizeFits, -⟩ :=
    TransferSender.validate_eq_none qt hfaithful.accepted
  have hsize := hfaithful.size
  have hsequence := hstep.sequence_le
  let wanted := min (content.length - sender.offset) request.chunkBytes
  let payload := (content.drop sender.offset).take wanted
  have hpayload : payload.length = wanted := by
    simp only [payload, List.length_take, List.length_drop]
    omega
  have hnonempty : payload ≠ [] := by
    intro hnil
    rw [hnil, List.length_nil] at hpayload
    omega
  have hnext : content.take sender.offset ++ payload = content.take (sender.offset + wanted) :=
    List.take_add.symm
  let message : FileChunkMessage :=
    { transferId := request.transferId, fileId := request.source.entry.id, offset := sender.offset,
      sequence := sender.sequence }
  have hvalid : FileMessageCodec.validate (.chunk message) = .ok () := by
    refine FileMessageCodec.validateChunk_eq_ok.mpr ⟨?_, ?_⟩ <;>
      simp only [message, FileMessageCodec.qint64Max] <;> omega
  let next : TransferSender := { sender with
    hash := sender.hash ++ payload
    offset := sender.offset + wanted
    sequence := sender.sequence + 1
    state := if sender.offset + wanted = content.length then .endPending else .chunks }
  have hcall : sender.nextFrame qt sha view =
      ({ frame := some (sender.fileFrame (.chunk message) payload), status := .frameReady },
        next) := by
    rw [TransferSender.nextFrame, hstate]
    dsimp only
    rw [TransferSender.produceChunk, hstep.request_eq, hsize, read_eq hfaithful]
    dsimp only
    rw [if_neg (not_not_intro hpayload), TransferSender.encodeFrame_of_validate hvalid]
    simp only [next, hstate, hstep.request_eq]
    rfl
  have hfits : payload.length ≤ receiver.chunkBytes := by
    rw [hpayload, hstep.chunkBytes]
    exact Nat.min_le_right ..
  have hroom : payload.length ≤ receiver.snapshot.expectedSize - receiver.snapshot.receivedBytes := by
    rw [hpayload, hstep.expectedSize, hstep.receivedBytes]
    exact Nat.min_le_left ..
  have happend := @FileReceiver.append_of_continues message payload io receiver disk
    hstep.receiving hstep.transferId hstep.fileId hstep.receivedBytes.symm hstep.nextSequence.symm
    hnonempty hfits hroom hfaithful.written
  have hdeliver : deliver qt sha reception io (receiver, disk)
      (sender.fileFrame (.chunk message) payload) = some ((receiver.append message payload io disk).2) := by
    have hdecode := decode_frame hvalid (by simp)
    simp only [deliver, TransferSender.fileFrame, hdecode, happend]
    rfl
  rw [happend] at hdeliver
  have hdisk : disk.content partPath = content.take sender.offset := by
    rw [Disk.content, hstep.staged]
  refine ⟨_, next, _, _, hcall, hdeliver, ?_, ?_, rfl⟩
  · exact {
      request_eq := hstep.request_eq
      offset_le := by simp only [next]; omega
      sequence_le := by simp only [next]; omega
      hashed := by simp only [next]; rw [hstep.hashed, hnext]
      receiving := hstep.receiving
      transferId := hstep.transferId
      fileId := hstep.fileId
      expectedSize := hstep.expectedSize
      receivedBytes := by simp only [next]; rw [hstep.receivedBytes, hpayload]
      nextSequence := by simp only [next]; rw [hstep.nextSequence]
      partPath_eq := hstep.partPath_eq
      chunkBytes := hstep.chunkBytes
      expectedSha256 := hstep.expectedSha256
      received := by simp only [next]; rw [hstep.received, hnext]
      staged := by
        simp only [next, hstep.partPath_eq, hdisk, hnext]
        exact if_pos rfl }
  · simp only [next]
    omega

theorem streams_of_inStep (hfaithful : Faithful qt sha view request content io)
    (hstep : InStep request content partPath sender receiver disk)
    (hstate : sender.state = if sender.offset = content.length then .endPending else .chunks) :
    Streams qt sha view reception io content partPath sender (receiver, disk) := by
  induction hleft : content.length - sender.offset using Nat.strongRecOn
    generalizing sender receiver disk with
  | ind left ih =>
    by_cases hend : sender.offset = content.length
    · rw [if_pos hend] at hstate
      exact streams_of_endPending hfaithful hstep hstate hend
    · rw [if_neg hend] at hstate
      have hoffset := hstep.offset_le
      obtain ⟨frame, next, receiver', disk', hcall, hdeliver, hnext, hmoves, hnextState⟩ :=
        chunk_step hfaithful hstep hstate (by omega)
      exact streams_of_frame hcall hdeliver (ih _ (by omega) hnext hnextState rfl)

structure Records (state : ResumeState) (request : TransferSenderRequest) (manifestSha256 : QByteArray) :
    Prop where
  transferId : state.transferId = request.transferId
  direction : state.direction = .receiving
  manifest : state.manifestSha256 = manifestSha256
  manifestLength : manifestSha256.length = kSha256Bytes
  updated : state.updatedUtc.isValid = true
  updated_pos : 0 < state.updatedUtc.toMSecsSinceEpoch
  file : ∃ file, FileReceiver.matching state request.source.entry.id = [file] ∧
    file.relativeProtocolPath = request.source.entry.relativeProtocolPath ∧
    file.totalBytes = request.source.entry.size ∧ file.durableOffset = request.startOffset ∧
    file.partRelativePath =
      FileReceiver.stagingRelative request.transferId request.source.entry.id

variable (qt) in
structure Prepared (request : TransferSenderRequest) (reception : Reception) (content : QByteArray)
    (partPath : QString) (disk : Disk) : Prop where
  entry : reception.entry = request.source.entry
  target : (PathPolicy.joinLexicallyUnderRoot qt reception.receiveRoot
    request.source.entry.relativeProtocolPath reception.pathLimits).1.ok = true
  staging : (PathPolicy.joinLexicallyUnderRoot qt reception.receiveRoot
    (FileReceiver.stagingRelative request.transferId request.source.entry.id)
    reception.pathLimits).1.ok = true
  part : (PathPolicy.joinLexicallyUnderRoot qt reception.receiveRoot
    (FileReceiver.stagingRelative request.transferId request.source.entry.id)
    reception.pathLimits).2 = partPath
  start : (reception.resumeState = none ∧ request.startOffset = 0 ∧
      disk.pathExists partPath = false) ∨
    ∃ state, reception.resumeState = some state ∧ Records state request reception.manifestSha256 ∧
      disk partPath = some (.file (content.take request.startOffset))

def beginMessage (request : TransferSenderRequest) : FileBeginMessage :=
  { transferId := request.transferId, fileId := request.source.entry.id,
    size := request.source.entry.size, startOffset := request.startOffset,
    chunkBytes := request.chunkBytes, expectedSha256 := request.source.entry.sha256 }

theorem validate_beginMessage (haccepted : TransferSender.validate qt request = none) :
    FileMessageCodec.validate (.begin (beginMessage request)) = .ok () := by
  obtain ⟨-, hpositive, hchunk, -, hhash, -, hsize, hoffset⟩ :=
    TransferSender.validate_eq_none qt haccepted
  refine FileMessageCodec.validateBegin_eq_ok.mpr ⟨?_, hoffset, hpositive, ?_, hhash⟩
  · simpa [beginMessage, FileMessageCodec.qint64Max] using hsize
  · exact hchunk

theorem requestIsValid_receiveRequest (haccepted : TransferSender.validate qt request = none)
    (hentry : reception.entry = request.source.entry) :
    FileReceiver.requestIsValid (reception.receiveRequest (beginMessage request)) = true := by
  obtain ⟨-, hpositive, hchunk, htype, hhash, -, hsize, hoffset⟩ :=
    TransferSender.validate_eq_none qt haccepted
  have hmax : request.chunkBytes ≤ FileReceiver.kMaximumChunkBytes := hchunk
  simp [FileReceiver.requestIsValid, Reception.receiveRequest, beginMessage, hentry, htype, hhash,
    FileReceiver.qint64Max, hoffset, hmax]
  omega

theorem openable_receiveRequest (hfaithful : Faithful qt sha view request content io)
    (hprepared : Prepared qt request reception content partPath disk) :
    FileReceiver.Openable qt (reception.receiveRequest (beginMessage request)) io {} where
  idle := rfl
  policy := rfl
  valid := requestIsValid_receiveRequest hfaithful.accepted hprepared.entry
  target := by
    rw [Reception.receiveRequest, hprepared.entry]
    exact hprepared.target
  staging := hprepared.staging
  mkpath := hfaithful.mkpath
  openFile := hfaithful.openFile

theorem begin_delivered (hfaithful : Faithful qt sha view request content io)
    (hprepared : Prepared qt request reception content partPath disk) (sender : TransferSender) :
    ∃ disk', deliver qt sha reception io ({}, disk)
        (sender.fileFrame (.begin (beginMessage request)) []) =
          some (FileReceiver.openedFor qt (reception.receiveRequest (beginMessage request))
            (content.take request.startOffset), disk') ∧
      disk' partPath = some (.file (content.take request.startOffset)) := by
  obtain ⟨-, -, -, -, -, hnormal, -, hoffset⟩ :=
    TransferSender.validate_eq_none qt hfaithful.accepted
  have hopen := openable_receiveRequest hfaithful hprepared
  have hdecode := decode_frame (validate_beginMessage hfaithful.accepted) (by simp)
  have hpart : FileReceiver.partPathOf qt (reception.receiveRequest (beginMessage request)) = partPath :=
    hprepared.part
  rcases hprepared.start with ⟨hresume, hzero, habsent⟩ | ⟨state, hresume, hrecords, hstaged⟩
  · have hbegin := FileReceiver.begin_of_openable hopen hzero (hpart.symm ▸ habsent)
    refine ⟨disk.write partPath [], ?_, ?_⟩
    · rw [hpart] at hbegin
      simp only [deliver, TransferSender.fileFrame, hdecode, hresume]
      rw [hbegin, hzero]
      rfl
    · rw [hzero]
      exact if_pos rfl
  · obtain ⟨file, hmatching, hpath, htotal, hdurable, hpartPath⟩ := hrecords.file
    have hnormalized : (PathPolicy.joinLexicallyUnderRoot qt reception.receiveRoot
        reception.entry.relativeProtocolPath reception.pathLimits).1.normalized =
          request.source.entry.relativeProtocolPath := by
      rw [hprepared.entry, PathPolicy.joinLexicallyUnderRoot_normalized hprepared.target, hnormal]
    have hmatches : FileReceiver.resumeStateMatches (reception.receiveRequest (beginMessage request)) state
        (some file)
        (PathPolicy.joinLexicallyUnderRoot qt reception.receiveRoot
          reception.entry.relativeProtocolPath reception.pathLimits).1.normalized
        (FileReceiver.stagingRelative request.transferId request.source.entry.id) = true := by
      rw [hnormalized]
      have hlength := hrecords.manifestLength
      rw [← hrecords.manifest] at hlength
      have hpeer := state.peerDeviceId.nonNull
      simp [FileReceiver.resumeStateMatches, Reception.receiveRequest, beginMessage, hrecords.transferId,
        hrecords.direction, ← hrecords.manifest, hlength, hrecords.updated, hrecords.updated_pos,
        hpath, htotal, hdurable, hpartPath, hprepared.entry]
      exact hpeer
    have hresumed := FileReceiver.resume_of_openable hopen hfaithful.readPrefix hfaithful.seek
      hmatching hmatches (hpart.symm ▸ hstaged) (by
        have := hfaithful.size
        simp only [Reception.receiveRequest, beginMessage, List.length_take]
        omega)
    refine ⟨disk, ?_, hstaged⟩
    simp only [deliver, TransferSender.fileFrame, hdecode, hresume]
    rw [hresumed]
    rfl

theorem streams_of_beginFile (hfaithful : Faithful qt sha view request content io)
    (hprepared : Prepared qt request reception content partPath disk)
    (hcall : sender.nextFrame qt sha view = TransferSender.beginFile
      { request, hash := content.take request.startOffset, offset := request.startOffset,
        state := .beginPending }) :
    Streams qt sha view reception io content partPath sender ({}, disk) := by
  obtain ⟨-, -, -, -, -, -, -, hoffset⟩ := TransferSender.validate_eq_none qt hfaithful.accepted
  have hsize := hfaithful.size
  have hencode := TransferSender.encodeFrame_of_validate (validate_beginMessage hfaithful.accepted)
    { request, hash := content.take request.startOffset, offset := request.startOffset,
      state := .beginPending }
    { request, hash := content.take request.startOffset, offset := request.startOffset,
      state := if request.startOffset = request.source.entry.size then .endPending else .chunks } []
  obtain ⟨disk', hdeliver, hstaged⟩ := begin_delivered hfaithful hprepared
    { request, hash := content.take request.startOffset, offset := request.startOffset,
      state := .beginPending }
  refine streams_of_frame (hcall.trans hencode) hdeliver
    (streams_of_inStep hfaithful ?_ (by rw [hsize]))
  exact {
    request_eq := rfl
    offset_le := by dsimp only; omega
    sequence_le := Nat.zero_le _
    hashed := rfl
    receiving := rfl
    transferId := rfl
    fileId := rfl
    expectedSize := hsize
    receivedBytes := rfl
    nextSequence := rfl
    partPath_eq := hprepared.part
    chunkBytes := rfl
    expectedSha256 := by rw [← hprepared.entry]; rfl
    received := rfl
    staged := hstaged }

/-- The calls that hash the prefix a resume skips; each reads at most one chunk of it. -/
theorem streams_of_prefixHashing (hfaithful : Faithful qt sha view request content io)
    (hprepared : Prepared qt request reception content partPath disk) {offset : Nat}
    (hoffset : offset < request.startOffset)
    (hcall : sender.nextFrame qt sha view = TransferSender.rehashPrefix
      { request, hash := content.take offset, offset, state := .prefixHashing } view) :
    Streams qt sha view reception io content partPath sender ({}, disk) := by
  obtain ⟨-, hpositive, -, -, -, -, -, hstart⟩ :=
    TransferSender.validate_eq_none qt hfaithful.accepted
  have hsize := hfaithful.size
  induction hleft : request.startOffset - offset using Nat.strongRecOn
    generalizing sender offset with
  | ind left ih =>
    let wanted := min (request.startOffset - offset) request.chunkBytes
    let bytes := (content.drop offset).take wanted
    have hbytes : bytes.length = wanted := by
      simp only [bytes, List.length_take, List.length_drop]
      omega
    have hnext : content.take offset ++ bytes = content.take (offset + wanted) := List.take_add.symm
    have hrehash : TransferSender.rehashPrefix
        { request, hash := content.take offset, offset, state := .prefixHashing } view =
          ({ status := .preparing },
            { request, hash := content.take (offset + wanted), offset := offset + wanted,
              state := if offset + wanted = request.startOffset then .beginPending
                else .prefixHashing }) := by
      rw [TransferSender.rehashPrefix]
      dsimp only
      rw [read_eq hfaithful]
      dsimp only
      rw [if_neg (not_not_intro hbytes), hnext]
    refine streams_of_preparing (hcall.trans hrehash) ?_
    by_cases hdone : offset + wanted = request.startOffset
    · rw [if_pos hdone, hdone]
      exact streams_of_beginFile hfaithful hprepared rfl
    · rw [if_neg hdone]
      exact ih (request.startOffset - (offset + wanted)) (by omega) (by omega) rfl rfl

/-- **End-to-end file streaming.** For every source, every chunk size the sender accepts and every
start offset at which the receiving part is the source's prefix, the sender's frames are accepted one
by one and leave a staged part whose bytes are the source's. -/
theorem sender_frames_stage_source (hfaithful : Faithful qt sha view request content io)
    {disk : Disk} (hprepared : Prepared qt request reception content partPath disk) :
    Streams qt sha view reception io content partPath { request } ({}, disk) := by
  have hinitial : TransferSender.nextFrame qt sha { request } view =
      if request.startOffset = 0 then
        TransferSender.beginFile { request, state := .beginPending }
      else TransferSender.rehashPrefix { request, state := .prefixHashing } view := by
    rw [TransferSender.nextFrame]
    dsimp only
    rw [TransferSender.initializeSource]
    simp only [hfaithful.accepted, hfaithful.unchanged, hfaithful.opens, not_true_eq_false,
      if_false]
  by_cases hzero : request.startOffset = 0
  · rw [if_pos hzero] at hinitial
    refine streams_of_beginFile hfaithful hprepared (hinitial.trans ?_)
    rw [hzero, List.take_zero]
  · rw [if_neg hzero] at hinitial
    refine streams_of_prefixHashing hfaithful hprepared (Nat.pos_of_ne_zero hzero)
      (hinitial.trans ?_)
    rw [List.take_zero]

/-! A three-byte source, resumed after its first byte in chunks of one byte. -/

def abcSha256 : Sha256 where
  hash bytes :=
    if bytes = [0x61, 0x62, 0x63] then
      [0xba, 0x78, 0x16, 0xbf, 0x8f, 0x01, 0xcf, 0xea, 0x41, 0x41, 0x40, 0xde, 0x5d, 0xae, 0x22,
        0x23, 0xb0, 0x03, 0x61, 0xa3, 0x96, 0x17, 0x7a, 0x9c, 0xb4, 0x10, 0xff, 0x61, 0xf2, 0x00,
        0x15, 0xad]
    else List.replicate 32 0
  length_hash bytes := by
    split <;> simp [kSha256Bytes]

def abcRequest : TransferSenderRequest where
  transferId := ⟨1, one_nonNull⟩
  source :=
    { canonicalSourcePath := QString.literal "/home/a.txt"
      protocolCollisionKey := QString.literal "a.txt"
      entry :=
        { id := ⟨2, two_nonNull⟩
          relativeProtocolPath := QString.literal "a.txt"
          size := 3
          modifiedUtc := ⟨some 1000⟩
          sha256 := abcSha256.hash [0x61, 0x62, 0x63] } }
  streamId := 7
  chunkBytes := 1
  startOffset := 1

def abcView : SourceView where
  size := 3
  lastModified := 1000
  content := [0x61, 0x62, 0x63]

def abcState : ResumeState where
  transferId := abcRequest.transferId
  peerDeviceId := ⟨3, three_nonNull⟩
  manifestSha256 := List.replicate 32 9
  files := [
    { fileId := abcRequest.source.entry.id
      relativeProtocolPath := QString.literal "a.txt"
      durableOffset := 1
      totalBytes := 3
      partRelativePath :=
        FileReceiver.stagingRelative abcRequest.transferId abcRequest.source.entry.id }]
  resolvedTargets := []
  updatedUtc := ⟨some 2000⟩

def abcReception : Reception where
  receiveRoot := QString.literal "/inbox"
  entry := abcRequest.source.entry
  manifestSha256 := abcState.manifestSha256
  resumeState := some abcState

def abcPartPath : QString :=
  (PathPolicy.joinLexicallyUnderRoot QtText.ascii abcReception.receiveRoot
    (FileReceiver.stagingRelative abcRequest.transferId abcRequest.source.entry.id)).2

def abcDisk : Disk := Disk.write (fun _ => none) abcPartPath [0x61]

theorem sender_frames_stage_source_abc :
    Streams QtText.ascii abcSha256 abcView abcReception {} [0x61, 0x62, 0x63] abcPartPath
      { request := abcRequest } ({}, abcDisk) :=
  sender_frames_stage_source
    { accepted := by decide +kernel
      size := rfl
      hash := rfl
      unchanged := by decide
      opens := rfl
      readable := rfl
      bytes := rfl
      mkpath := rfl
      openFile := rfl
      readPrefix := rfl
      seek := rfl
      written := rfl
      flush := rfl }
    { entry := rfl
      target := by decide +kernel
      staging := by decide +kernel
      part := rfl
      start := .inr ⟨abcState, rfl,
        { transferId := rfl
          direction := rfl
          manifest := rfl
          manifestLength := rfl
          updated := rfl
          updated_pos := by decide
          file := ⟨_, rfl, rfl, rfl, rfl, rfl⟩ }, by
          simp only [abcDisk, Disk.write, if_true]
          rfl⟩ }

end FileStreaming

end DeskflowPlus.Transfer
