import DeskflowPlus.Lib.BigEndian
import DeskflowPlus.Lib.StreamDecoder
import DeskflowPlus.Transfer.ProtocolMessageRegistry

/-!
# The frame codec

A frame is a 32-byte header followed by its metadata and its payload. The header carries both
sizes, so a decoder knows a frame's length once it has the header; every check that can refuse a
frame reads the header only. Encoding and decoding run the same checks, on the frame and on the
header read back, which is why a decoded frame re-encodes to the bytes it came from.
-/

namespace DeskflowPlus.Transfer

inductive FrameDecodeStatus where
  | frameReady
  | needMoreData
  | protocolError

inductive FrameDecodeError where
  | none
  | invalidMagic
  | unsupportedMajorVersion
  | unknownMessageType
  | controlMetadataTooLarge
  | dataPayloadTooLarge
  | unexpectedPayload
  | frameTooLarge
  | lengthOverflow
  | reservedMessageType
  | invalidFlags
  | invalidStreamId
  | missingMetadata
  | unexpectedMetadata
  | missingPayload

structure FrameDecodeResult where
  status : FrameDecodeStatus := .needMoreData
  error : FrameDecodeError := .none
  diagnostic : String := ""
  consumedBytes : Nat := 0

namespace FrameCodec

def protocolError (error : FrameDecodeError) (diagnostic : String) : FrameDecodeResult :=
  { status := .protocolError, error, diagnostic, consumedBytes := 0 }

def needMoreData : FrameDecodeResult :=
  { status := .needMoreData, error := .none, diagnostic := "", consumedBytes := 0 }

def checkedFrameBytes (metadataBytes payloadBytes : Nat) : Option Nat :=
  let fixed := kFixedHeaderBytes
  if payloadBytes > quint64Max - fixed then none
  else
    let fixedAndPayload := fixed + payloadBytes
    if metadataBytes > quint64Max - fixedAndPayload then none
    else some (fixedAndPayload + metadataBytes)

def validateLengths (metadataBytes payloadBytes : Nat) (limits : ProtocolLimits) :
    Except FrameDecodeResult Nat :=
  if metadataBytes > limits.maxControlMetadataBytes.toNat then
    .error (protocolError .controlMetadataTooLarge "control metadata exceeds the local limit")
  else if payloadBytes > limits.maxDataPayloadBytes.toNat then
    .error (protocolError .dataPayloadTooLarge "data payload exceeds the local limit")
  else
    match checkedFrameBytes metadataBytes payloadBytes with
    | none => .error (protocolError .lengthOverflow "frame length arithmetic overflow")
    | some frameBytes =>
      if frameBytes > limits.maxFrameBytes.toNat then
        .error (protocolError .frameTooLarge "frame exceeds the local frame limit")
      else if frameBytes > qsizetypeMax then
        .error (protocolError .lengthOverflow
          "frame length cannot be represented in local address space")
      else .ok frameBytes

def frameError : ProtocolEnvelopeError → FrameDecodeError
  | .none => .none
  | .unknownMessageType => .unknownMessageType
  | .reservedMessageType => .reservedMessageType
  | .invalidFlags => .invalidFlags
  | .invalidStreamId => .invalidStreamId
  | .missingMetadata => .missingMetadata
  | .unexpectedMetadata => .unexpectedMetadata
  | .missingPayload => .missingPayload
  | .unexpectedPayload => .unexpectedPayload

def writeHeader (frame : Frame) (metadataBytes payloadBytes : Nat) : List UInt8 :=
  kProtocolMagic
    ++ BigEndian.encode 2 frame.version.toNat
    ++ BigEndian.encode 2 frame.type.value.toNat
    ++ BigEndian.encode 4 frame.flags.toNat
    ++ BigEndian.encode 4 metadataBytes
    ++ BigEndian.encode 8 payloadBytes
    ++ BigEndian.encode 8 frame.streamId.toNat

def encode (frame : Frame) (limits : ProtocolLimits := {}) : Except String (List UInt8) :=
  if frame.version ≠ kProtocolMajorVersion then .error "unsupported RDFT major version"
  else if ¬ isKnownMessageType frame.type then .error "unknown RDFT message type"
  else if frame.metadata.length > quint32Max then
    .error "control metadata length cannot be represented on the wire"
  else
    let metadataBytes := frame.metadata.length
    let payloadBytes := frame.payload.length
    let envelope :=
      validateProtocolEnvelope frame.type frame.flags frame.streamId metadataBytes payloadBytes
    if ¬ envelope.ok then .error envelope.diagnostic
    else
      match validateLengths metadataBytes payloadBytes limits with
      | .error failure => .error failure.diagnostic
      | .ok _ =>
        .ok (writeHeader frame metadataBytes payloadBytes ++ frame.metadata ++ frame.payload)

/-- The big-endian field of `width` bytes at `offset`. -/
def readBigEndian (width : Nat) (source : List UInt8) (offset : Nat) : Nat :=
  BigEndian.decode ((source.drop offset).take width)

def tryDecode (buffer : List UInt8) (output : Frame) (limits : ProtocolLimits := {}) :
    FrameDecodeResult × List UInt8 × Frame :=
  if buffer.length < kFixedHeaderBytes then (needMoreData, buffer, output)
  else if buffer.take kProtocolMagic.length ≠ kProtocolMagic then
    (protocolError .invalidMagic "invalid RDFT magic", buffer, output)
  else
    let version := UInt16.ofNat (readBigEndian 2 buffer 4)
    if version ≠ kProtocolMajorVersion then
      (protocolError .unsupportedMajorVersion
        ("unsupported RDFT major version " ++ toString version.toNat), buffer, output)
    else
      let type : MessageType := ⟨UInt16.ofNat (readBigEndian 2 buffer 6)⟩
      if ¬ isKnownMessageType type then
        (protocolError .unknownMessageType "unknown RDFT message type", buffer, output)
      else
        let metadataBytes := readBigEndian 4 buffer 12
        let payloadBytes := readBigEndian 8 buffer 16
        match validateLengths metadataBytes payloadBytes limits with
        | .error failure => (failure, buffer, output)
        | .ok frameBytes =>
          let flags := UInt32.ofNat (readBigEndian 4 buffer 8)
          let streamId := UInt64.ofNat (readBigEndian 8 buffer 24)
          let envelope := validateProtocolEnvelope type flags streamId metadataBytes payloadBytes
          if ¬ envelope.ok then
            (protocolError (frameError envelope.error) envelope.diagnostic, buffer, output)
          else if buffer.length < frameBytes then (needMoreData, buffer, output)
          else
            let metadata := (buffer.drop kFixedHeaderBytes).take metadataBytes
            let payload := (buffer.drop (kFixedHeaderBytes + metadataBytes)).take payloadBytes
            ({ status := .frameReady, error := .none, diagnostic := "",
               consumedBytes := frameBytes },
              buffer.drop frameBytes, { version, type, flags, streamId, metadata, payload })

variable {metadataBytes payloadBytes : Nat}

theorem checkedFrameBytes_eq_some {frameBytes : Nat} :
    checkedFrameBytes metadataBytes payloadBytes = some frameBytes ↔
      frameBytes = kFixedHeaderBytes + payloadBytes + metadataBytes ∧ frameBytes ≤ quint64Max := by
  have hfixed : kFixedHeaderBytes ≤ quint64Max := by decide
  unfold checkedFrameBytes
  dsimp only
  split_ifs with hpayload hmetadata
  · simp only [false_iff]
    omega
  · simp only [false_iff]
    omega
  · rw [Option.some_inj]
    omega

variable {limits : ProtocolLimits}

theorem validateLengths_eq_ok {frameBytes : Nat} :
    validateLengths metadataBytes payloadBytes limits = .ok frameBytes ↔
      frameBytes = kFixedHeaderBytes + payloadBytes + metadataBytes ∧
        metadataBytes ≤ limits.maxControlMetadataBytes.toNat ∧
        payloadBytes ≤ limits.maxDataPayloadBytes.toNat ∧
        frameBytes ≤ limits.maxFrameBytes.toNat ∧ frameBytes ≤ qsizetypeMax := by
  unfold validateLengths
  cases hchecked : checkedFrameBytes metadataBytes payloadBytes with
  | none =>
    have hoverflow : ¬ kFixedHeaderBytes + payloadBytes + metadataBytes ≤ quint64Max := by
      intro hle
      rw [checkedFrameBytes_eq_some.mpr ⟨rfl, hle⟩] at hchecked
      exact absurd hchecked (by simp)
    have hwider : qsizetypeMax ≤ quint64Max := by decide
    split_ifs <;> simp only [false_iff] <;> omega
  | some bytes =>
    obtain ⟨rfl, -⟩ := checkedFrameBytes_eq_some.mp hchecked
    simp only
    split_ifs <;> simp only [false_iff, Except.ok.injEq] <;> omega

theorem validateLengths_error_status {failure : FrameDecodeResult}
    (h : validateLengths metadataBytes payloadBytes limits = .error failure) :
    failure.status = .protocolError := by
  unfold validateLengths at h
  split_ifs at h
  · cases h; rfl
  · cases h; rfl
  · split at h
    · cases h; rfl
    · split_ifs at h
      · cases h; rfl
      · cases h; rfl

/-- What encoding checks before it writes, and decoding before it takes a frame off the buffer. -/
structure Accepts (limits : ProtocolLimits) (frame : Frame) : Prop where
  version : frame.version = kProtocolMajorVersion
  known : isKnownMessageType frame.type = true
  metadata_le : frame.metadata.length ≤ quint32Max
  envelope : (validateProtocolEnvelope frame.type frame.flags frame.streamId
    frame.metadata.length frame.payload.length).ok = true
  lengths : validateLengths frame.metadata.length frame.payload.length limits =
    .ok (kFixedHeaderBytes + frame.payload.length + frame.metadata.length)

def wire (frame : Frame) : List UInt8 :=
  writeHeader frame frame.metadata.length frame.payload.length ++ frame.metadata ++ frame.payload

variable {frame : Frame}

theorem encode_eq_ok {bytes : List UInt8} :
    encode frame limits = .ok bytes ↔ Accepts limits frame ∧ bytes = wire frame := by
  constructor
  · intro h
    unfold encode at h
    dsimp only at h
    split_ifs at h with hversion hknown hmetadata henvelope
    cases hlengths : validateLengths frame.metadata.length frame.payload.length limits with
    | error failure => simp [hlengths] at h
    | ok frameBytes =>
      obtain ⟨hbytes, -⟩ := validateLengths_eq_ok.mp hlengths
      rw [hlengths] at h
      refine ⟨⟨by simpa using hversion, by simpa using hknown, by omega, by simpa using henvelope,
        by rw [hlengths, hbytes]⟩, ?_⟩
      exact (Except.ok.inj h).symm
  · rintro ⟨haccepts, rfl⟩
    have hmetadata := Nat.not_lt.mpr haccepts.metadata_le
    simp [encode, wire, haccepts.version, haccepts.known, haccepts.envelope, haccepts.lengths,
      hmetadata]

@[simp]
theorem writeHeader_length (frame : Frame) (metadataBytes payloadBytes : Nat) :
    (writeHeader frame metadataBytes payloadBytes).length = kFixedHeaderBytes := by
  simp [writeHeader, kProtocolMagic, kFixedHeaderBytes]

theorem wire_length (frame : Frame) :
    (wire frame).length = kFixedHeaderBytes + frame.payload.length + frame.metadata.length := by
  simp [wire]
  omega

theorem readBigEndian_take {width offset : Nat} (buffer : List UInt8)
    (h : offset + width ≤ kFixedHeaderBytes) :
    readBigEndian width (buffer.take kFixedHeaderBytes) offset =
      readBigEndian width buffer offset := by
  rw [readBigEndian, readBigEndian, List.drop_take, List.take_take, Nat.min_eq_left (by omega)]

variable {buffer : List UInt8}

theorem encode_readBigEndian {width offset : Nat} (h : offset + width ≤ buffer.length) :
    BigEndian.encode width (readBigEndian width buffer offset) =
      (buffer.drop offset).take width := by
  have hlength : ((buffer.drop offset).take width).length = width := by
    simp
    omega
  have hencode := BigEndian.encode_decode ((buffer.drop offset).take width)
  rwa [hlength] at hencode

theorem readBigEndian_lt (width : Nat) (buffer : List UInt8) (offset : Nat) :
    readBigEndian width buffer offset < 256 ^ width := by
  have hlt := BigEndian.decode_lt ((buffer.drop offset).take width)
  have hlength : ((buffer.drop offset).take width).length ≤ width := List.length_take_le ..
  exact Nat.lt_of_lt_of_le hlt (Nat.pow_le_pow_right (by decide) hlength)

/-- What the header of `frame` says, read off any buffer that begins with it. -/
structure HeaderReads (buffer : List UInt8) (frame : Frame) (metadataBytes payloadBytes : Nat) :
    Prop where
  magic : buffer.take kProtocolMagic.length = kProtocolMagic
  version : readBigEndian 2 buffer 4 = frame.version.toNat
  type : readBigEndian 2 buffer 6 = frame.type.value.toNat
  flags : readBigEndian 4 buffer 8 = frame.flags.toNat
  metadata : readBigEndian 4 buffer 12 = metadataBytes
  payload : readBigEndian 8 buffer 16 = payloadBytes
  streamId : readBigEndian 8 buffer 24 = frame.streamId.toNat

theorem headerReads_writeHeader (hmetadata : metadataBytes ≤ quint32Max)
    (hpayload : payloadBytes ≤ quint64Max) :
    HeaderReads (writeHeader frame metadataBytes payloadBytes) frame metadataBytes payloadBytes := by
  have hversion := frame.version.toNat_lt
  have htype := frame.type.value.toNat_lt
  have hflags := frame.flags.toNat_lt
  have hstream := frame.streamId.toNat_lt
  simp only [quint32Max, quint64Max] at hmetadata hpayload
  constructor
  · simp [writeHeader, kProtocolMagic]
  all_goals
    simp only [readBigEndian, writeHeader, kProtocolMagic]
    simp [List.drop_append, List.drop_eq_nil_of_le, List.take_of_length_le]
    rw [BigEndian.decode_encode (by omega)]

theorem headerReads_take :
    HeaderReads (buffer.take kFixedHeaderBytes) frame metadataBytes payloadBytes ↔
      HeaderReads buffer frame metadataBytes payloadBytes := by
  have hmagic : (buffer.take kFixedHeaderBytes).take kProtocolMagic.length =
      buffer.take kProtocolMagic.length := by
    rw [List.take_take, Nat.min_eq_left (by decide)]
  constructor
  · rintro ⟨h1, h2, h3, h4, h5, h6, h7⟩
    rw [hmagic] at h1
    rw [readBigEndian_take buffer (by decide)] at h2 h3 h4 h5 h6 h7
    exact ⟨h1, h2, h3, h4, h5, h6, h7⟩
  · rintro ⟨h1, h2, h3, h4, h5, h6, h7⟩
    refine ⟨by rw [hmagic, h1], ?_, ?_, ?_, ?_, ?_, ?_⟩
    all_goals rw [readBigEndian_take buffer (by decide)]
    all_goals assumption

theorem writeHeader_of_headerReads (hlength : kFixedHeaderBytes ≤ buffer.length)
    (h : HeaderReads buffer frame metadataBytes payloadBytes) :
    writeHeader frame metadataBytes payloadBytes = buffer.take kFixedHeaderBytes := by
  have hsize : 32 ≤ buffer.length := hlength
  have hsplit : buffer.take kFixedHeaderBytes =
      buffer.take 4 ++ (buffer.drop 4).take 2 ++ (buffer.drop 6).take 2 ++ (buffer.drop 8).take 4
        ++ (buffer.drop 12).take 4 ++ (buffer.drop 16).take 8 ++ (buffer.drop 24).take 8 := by
    simp only [← List.take_add]
    rfl
  have hmagic : buffer.take 4 = kProtocolMagic := h.magic
  rw [writeHeader, hsplit, hmagic, ← h.version, ← h.type, ← h.flags, ← h.metadata, ← h.payload,
    ← h.streamId]
  repeat rw [encode_readBigEndian (by omega)]

def frameReady (frameBytes : Nat) : FrameDecodeResult :=
  { status := .frameReady, error := .none, diagnostic := "", consumedBytes := frameBytes }

theorem tryDecode_of_headerReads {output : Frame} (hlength : kFixedHeaderBytes ≤ buffer.length)
    (haccepts : Accepts limits frame)
    (hheader : HeaderReads buffer frame frame.metadata.length frame.payload.length) :
    tryDecode buffer output limits =
      if buffer.length < (wire frame).length then (needMoreData, buffer, output)
      else (frameReady (wire frame).length, buffer.drop (wire frame).length,
        { frame with
          metadata := (buffer.drop kFixedHeaderBytes).take frame.metadata.length
          payload :=
            (buffer.drop (kFixedHeaderBytes + frame.metadata.length)).take frame.payload.length }) := by
  have hversion : UInt16.ofNat frame.version.toNat = frame.version := UInt16.ofNat_toNat
  have htype : (⟨UInt16.ofNat frame.type.value.toNat⟩ : MessageType) = frame.type := by
    rw [UInt16.ofNat_toNat]
  have hflags : UInt32.ofNat frame.flags.toNat = frame.flags := UInt32.ofNat_toNat
  have hstream : UInt64.ofNat frame.streamId.toNat = frame.streamId := UInt64.ofNat_toNat
  unfold tryDecode
  simp only [hheader.magic, hheader.version, hheader.type, hheader.flags, hheader.metadata,
    hheader.payload, hheader.streamId, hversion, htype, hflags, hstream, haccepts.known,
    haccepts.envelope, haccepts.lengths, Nat.not_lt.mpr hlength, wire_length, frameReady,
    if_false, ne_eq, not_true_eq_false]
  simp only [haccepts.version, not_true_eq_false, if_false]

/-- Every status but one leaves the buffer and the output frame as they were; the remaining one is
a frame whose header was read off the buffer and passed every check. -/
theorem tryDecode_cases (buffer : List UInt8) (output : Frame) (limits : ProtocolLimits) :
    (∃ result, result.status ≠ .frameReady ∧
        tryDecode buffer output limits = (result, buffer, output)) ∨
      ∃ frame, Accepts limits frame ∧ wire frame <+: buffer ∧
        tryDecode buffer output limits =
          (frameReady (wire frame).length, buffer.drop (wire frame).length, frame) := by
  have hrefused : ∀ error diagnostic,
      (protocolError error diagnostic).status ≠ FrameDecodeStatus.frameReady := by
    simp [protocolError]
  unfold tryDecode
  by_cases hlength : buffer.length < kFixedHeaderBytes
  · exact .inl ⟨_, by simp [needMoreData], if_pos hlength⟩
  by_cases hmagic : buffer.take kProtocolMagic.length ≠ kProtocolMagic
  · exact .inl ⟨_, hrefused _ _, by rw [if_neg hlength, if_pos hmagic]⟩
  rw [if_neg hlength, if_neg hmagic]
  dsimp only
  -- the frame the header announces, with what the buffer holds behind the header
  generalize hframe : ({
    version := UInt16.ofNat (readBigEndian 2 buffer 4)
    type := ⟨UInt16.ofNat (readBigEndian 2 buffer 6)⟩
    flags := UInt32.ofNat (readBigEndian 4 buffer 8)
    streamId := UInt64.ofNat (readBigEndian 8 buffer 24)
    metadata := (buffer.drop kFixedHeaderBytes).take (readBigEndian 4 buffer 12)
    payload := (buffer.drop (kFixedHeaderBytes + readBigEndian 4 buffer 12)).take
      (readBigEndian 8 buffer 16) } : Frame) = frame
  have hversion : UInt16.ofNat (readBigEndian 2 buffer 4) = frame.version := by rw [← hframe]
  have htype : (⟨UInt16.ofNat (readBigEndian 2 buffer 6)⟩ : MessageType) = frame.type := by
    rw [← hframe]
  have hflags : UInt32.ofNat (readBigEndian 4 buffer 8) = frame.flags := by rw [← hframe]
  have hstream : UInt64.ofNat (readBigEndian 8 buffer 24) = frame.streamId := by rw [← hframe]
  rw [hversion, htype, hflags, hstream]
  by_cases hmajor : frame.version ≠ kProtocolMajorVersion
  · exact .inl ⟨_, hrefused _ _, if_pos hmajor⟩
  by_cases hknown : ¬ isKnownMessageType frame.type
  · exact .inl ⟨_, hrefused _ _, by rw [if_neg hmajor, if_pos hknown]⟩
  rw [if_neg hmajor, if_neg hknown]
  cases hlengths : validateLengths (readBigEndian 4 buffer 12) (readBigEndian 8 buffer 16)
      limits with
  | error failure =>
    have hfailure := validateLengths_error_status hlengths
    exact .inl ⟨failure, by simp [hfailure], rfl⟩
  | ok frameBytes =>
    dsimp only
    split_ifs with henvelope hwhole
    · exact .inl ⟨_, by simp [needMoreData], rfl⟩
    · right
      obtain ⟨hbytes, -⟩ := validateLengths_eq_ok.mp hlengths
      have hmetadata : frame.metadata.length = readBigEndian 4 buffer 12 := by
        rw [← hframe]
        simp
        omega
      have hpayload : frame.payload.length = readBigEndian 8 buffer 16 := by
        rw [← hframe]
        simp
        omega
      have hwire : (wire frame).length = frameBytes := by
        rw [wire_length, hmetadata, hpayload, hbytes]
      have hfits := readBigEndian_lt 4 buffer 12
      have hheader : HeaderReads buffer frame frame.metadata.length frame.payload.length := by
        constructor
        · simpa using hmagic
        · rw [← hversion, UInt16.toNat_ofNat_of_lt' (readBigEndian_lt 2 buffer 4)]
        · rw [← htype, UInt16.toNat_ofNat_of_lt' (readBigEndian_lt 2 buffer 6)]
        · rw [← hflags, UInt32.toNat_ofNat_of_lt' (readBigEndian_lt 4 buffer 8)]
        · exact hmetadata.symm
        · exact hpayload.symm
        · rw [← hstream, UInt64.toNat_ofNat_of_lt' (readBigEndian_lt 8 buffer 24)]
      refine ⟨frame, ⟨by simpa using hmajor, by simpa using hknown, ?_, ?_, ?_⟩, ?_, ?_⟩
      · rw [hmetadata, quint32Max]
        omega
      · rwa [hmetadata, hpayload]
      · rw [hmetadata, hpayload, hlengths, hbytes]
      · have hbody : frame.metadata ++ frame.payload =
            (buffer.drop kFixedHeaderBytes).take
              (readBigEndian 4 buffer 12 + readBigEndian 8 buffer 16) := by
          rw [← hframe, List.take_add, List.drop_drop]
        rw [wire, writeHeader_of_headerReads (by omega) hheader, List.append_assoc, hbody,
          ← List.take_add]
        exact List.take_prefix ..
      · rw [hwire, frameReady]
    · exact .inl ⟨_, hrefused _ _, rfl⟩

theorem headerReads_of_take_eq (haccepts : Accepts limits frame)
    (htake : buffer.take kFixedHeaderBytes = (wire frame).take kFixedHeaderBytes) :
    HeaderReads buffer frame frame.metadata.length frame.payload.length := by
  obtain ⟨-, -, -, -, hsize⟩ := validateLengths_eq_ok.mp haccepts.lengths
  have hpayload : frame.payload.length ≤ quint64Max := by
    simp only [qsizetypeMax, quint64Max] at hsize ⊢
    omega
  rw [← headerReads_take, htake, wire, List.append_assoc,
    List.take_left' (writeHeader_length frame _ _)]
  exact headerReads_writeHeader haccepts.metadata_le hpayload

theorem tryDecode_wire (haccepts : Accepts limits frame) (rest : List UInt8) (output : Frame) :
    tryDecode (wire frame ++ rest) output limits =
      (frameReady (wire frame).length, rest, frame) := by
  have hfixed : kFixedHeaderBytes ≤ (wire frame).length := by
    rw [wire_length]
    omega
  have hlength : kFixedHeaderBytes ≤ (wire frame ++ rest).length := by
    rw [List.length_append]
    omega
  have htake : (wire frame ++ rest).take kFixedHeaderBytes = (wire frame).take kFixedHeaderBytes :=
    List.take_append_of_le_length hfixed
  have hheader := headerReads_of_take_eq haccepts htake
  have hmetadata : ((wire frame ++ rest).drop kFixedHeaderBytes).take frame.metadata.length =
      frame.metadata := by
    rw [wire, List.append_assoc, List.append_assoc,
      List.drop_left' (writeHeader_length frame _ _), List.take_left' rfl]
  have hpayload : ((wire frame ++ rest).drop (kFixedHeaderBytes + frame.metadata.length)).take
      frame.payload.length = frame.payload := by
    rw [wire, List.append_assoc _ _ rest, List.drop_left' (by simp), List.take_left' rfl]
  rw [tryDecode_of_headerReads hlength haccepts hheader, if_neg (by simp), hmetadata, hpayload,
    List.drop_left' rfl]

theorem tryDecode_cut (haccepts : Accepts limits frame) (hpre : buffer <+: wire frame)
    (hne : buffer ≠ wire frame) (output : Frame) :
    tryDecode buffer output limits = (needMoreData, buffer, output) := by
  have hshort : buffer.length < (wire frame).length := by
    refine Nat.lt_of_le_of_ne hpre.length_le fun heq => hne ?_
    exact hpre.eq_of_length heq
  by_cases hlength : buffer.length < kFixedHeaderBytes
  · exact if_pos hlength
  · obtain ⟨rest, hrest⟩ := hpre
    have htake : buffer.take kFixedHeaderBytes = (wire frame).take kFixedHeaderBytes := by
      rw [← hrest, List.take_append_of_le_length (by omega)]
    have hheader := headerReads_of_take_eq haccepts htake
    rw [tryDecode_of_headerReads (by omega) haccepts hheader, if_pos hshort]

/-- One call of `tryDecode` as a look at the buffer; the output frame starts out default. -/
def outcome (limits : ProtocolLimits) (buffer : List UInt8) :
    StreamDecoder.Outcome UInt8 Frame FrameDecodeError :=
  let (result, rest, frame) := tryDecode buffer {} limits
  match result.status with
  | .frameReady => .ready frame rest
  | .needMoreData => .needMore
  | .protocolError => .failed result.error

theorem outcome_shrinks {rest : List UInt8} (h : outcome limits buffer = .ready frame rest) :
    rest.length < buffer.length := by
  rcases tryDecode_cases buffer {} limits with ⟨result, hstatus, hdecode⟩ | ⟨decoded, -, hpre, hdecode⟩
  · rw [outcome, hdecode] at h
    dsimp only at h
    split at h <;> simp_all
  · obtain ⟨-, rfl⟩ : decoded = frame ∧ buffer.drop (wire decoded).length = rest := by
      simpa [outcome, hdecode, frameReady] using h
    have hlength := hpre.length_le
    have hwire := wire_length decoded
    have hfixed : 0 < kFixedHeaderBytes := by decide
    rw [List.length_drop]
    omega

def decoder (limits : ProtocolLimits) : StreamDecoder.Decoder UInt8 Frame FrameDecodeError where
  decode := outcome limits
  shrinks := outcome_shrinks

def encoder (limits : ProtocolLimits) (frame : Frame) : Option (List UInt8) :=
  (encode frame limits).toOption

theorem encoder_eq_some {bytes : List UInt8} :
    encoder limits frame = some bytes ↔ Accepts limits frame ∧ bytes = wire frame := by
  rw [← encode_eq_ok, encoder]
  cases encode frame limits <;> simp [Except.toOption]

theorem decoder_selfDelimiting (limits : ProtocolLimits) :
    (decoder limits).SelfDelimiting (encoder limits) where
  whole := by
    intro frame bytes hbytes rest
    obtain ⟨haccepts, rfl⟩ := encoder_eq_some.mp hbytes
    simp [decoder, outcome, tryDecode_wire haccepts, frameReady]
  cut := by
    intro frame bytes buffer hbytes hpre hne
    obtain ⟨haccepts, rfl⟩ := encoder_eq_some.mp hbytes
    simp [decoder, outcome, tryDecode_cut haccepts hpre hne, needMoreData]
  empty := rfl

/-- **The frame codec is self-delimiting.** However the encodings of a list of frames are cut into
pieces, appending the pieces to a buffer and decoding until more data is needed yields exactly that
list and an empty buffer; every status but a ready frame leaves the buffer and the output frame
unchanged; and a decoded frame re-encodes to exactly the bytes consumed. -/
theorem frameCodec_selfDelimiting (limits : ProtocolLimits) :
    (∀ (frames : List Frame) (encodings pieces : List (List UInt8)),
        frames.map (encode · limits) = encodings.map .ok →
        pieces.flatten = encodings.flatten →
        (decoder limits).feed pieces = ⟨frames, [], none⟩) ∧
      ∀ (buffer : List UInt8) (output : Frame),
        ((tryDecode buffer output limits).1.status ≠ .frameReady →
          (tryDecode buffer output limits).2 = (buffer, output)) ∧
        ((tryDecode buffer output limits).1.status = .frameReady →
          ∃ bytes, encode (tryDecode buffer output limits).2.2 limits = .ok bytes ∧
            bytes.length = (tryDecode buffer output limits).1.consumedBytes ∧
            buffer = bytes ++ (tryDecode buffer output limits).2.1) := by
  refine ⟨?_, fun buffer output => ?_⟩
  · intro frames encodings pieces hencode hpieces
    have hstream : StreamDecoder.Decoder.stream (encoder limits) frames = some pieces.flatten := by
      rw [hpieces]
      clear hpieces
      induction frames generalizing encodings with
      | nil =>
        obtain rfl : encodings = [] := by simpa using hencode.symm
        rfl
      | cons frame frames ih =>
        cases encodings with
        | nil => simp at hencode
        | cons bytes encodings =>
          obtain ⟨hframe, hframes⟩ := List.cons.inj hencode
          rw [List.flatten_cons, StreamDecoder.Decoder.stream_cons_eq_some]
          exact ⟨bytes, encodings.flatten, by simp [encoder, hframe, Except.toOption],
            ih encodings hframes, rfl⟩
    exact (decoder_selfDelimiting limits).feed_stream hstream
  · rcases tryDecode_cases buffer output limits with
      ⟨result, hstatus, hdecode⟩ | ⟨frame, haccepts, ⟨rest, rfl⟩, hdecode⟩
    · rw [hdecode]
      exact ⟨fun _ => rfl, fun hready => absurd hready hstatus⟩
    · rw [hdecode]
      refine ⟨fun hnot => absurd rfl hnot, fun _ => ⟨wire frame, ?_, rfl, ?_⟩⟩
      · exact encode_eq_ok.mpr ⟨haccepts, rfl⟩
      · rw [List.drop_left' rfl]

/-- A goodbye frame cut inside its header and inside its metadata. -/
theorem frameCodec_selfDelimiting_goodbye :
    (decoder {}).feed
        [[0x52, 0x44, 0x46, 0x54, 0, 1, 0x7f, 0xff, 0, 0, 0, 4, 0, 0, 0],
          [2, 0, 0, 0, 0, 0, 0, 0, 0, 0, 0, 0, 0, 0, 0, 0, 0, 0xa1], [0x00]] =
      ⟨[{ type := .goodbye, flags := FrameFlag.final, metadata := [0xa1, 0x00] }], [], none⟩ :=
  (frameCodec_selfDelimiting {}).1
    [{ type := .goodbye, flags := FrameFlag.final, metadata := [0xa1, 0x00] }]
    [[0x52, 0x44, 0x46, 0x54, 0, 1, 0x7f, 0xff, 0, 0, 0, 4, 0, 0, 0, 2, 0, 0, 0, 0, 0, 0, 0, 0,
      0, 0, 0, 0, 0, 0, 0, 0, 0xa1, 0x00]]
    _ rfl rfl

end FrameCodec

end DeskflowPlus.Transfer
