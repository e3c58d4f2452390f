import DeskflowPlus.Transfer.QtTypes

/-!
# The file messages and their codec

FILE_BEGIN, FILE_CHUNK, FILE_CHECKPOINT, FILE_END and FILE_RESULT travel as one CBOR map each, under
integer keys. Encoding validates a message before it writes it, and decoding repeats the checks on
what it reads.
-/

namespace DeskflowPlus.Transfer

inductive FileResultCode where
  | ok
  | hashMismatch
  | sizeMismatch
  | sourceChanged
  | targetExists
  | diskFull
  | permissionDenied
  | pathInvalid
  | ioError
  | cancelled
  deriving DecidableEq

def FileResultCode.toNat : FileResultCode → Nat
  | .ok => 0
  | .hashMismatch => 1
  | .sizeMismatch => 2
  | .sourceChanged => 3
  | .targetExists => 4
  | .diskFull => 5
  | .permissionDenied => 6
  | .pathInvalid => 7
  | .ioError => 8
  | .cancelled => 9

def FileResultCode.ofNat? (code : Nat) : Option FileResultCode :=
  [.ok, .hashMismatch, .sizeMismatch, .sourceChanged, .targetExists, .diskFull, .permissionDenied,
    .pathInvalid, .ioError, .cancelled][code]?

structure FileBeginMessage where
  transferId : TransferId
  fileId : FileId
  size : Nat
  startOffset : Nat
  chunkBytes : Nat
  expectedSha256 : QByteArray

structure FileChunkMessage where
  transferId : TransferId
  fileId : FileId
  offset : Nat
  sequence : Nat
  deriving DecidableEq

structure FileCheckpointMessage where
  transferId : TransferId
  fileId : FileId
  durableOffset : Nat

structure FileEndMessage where
  transferId : TransferId
  fileId : FileId
  size : Nat
  sha256 : QByteArray
  deriving DecidableEq

structure FileResultMessage where
  transferId : TransferId
  fileId : FileId
  code : FileResultCode
  diagnostic : QString

inductive FileControlMessage where
  | begin (message : FileBeginMessage)
  | chunk (message : FileChunkMessage)
  | checkpoint (message : FileCheckpointMessage)
  | finish (message : FileEndMessage)
  | result (message : FileResultMessage)

def fileMessageType : FileControlMessage → MessageType
  | .begin _ => .fileBegin
  | .chunk _ => .fileChunk
  | .checkpoint _ => .fileCheckpoint
  | .finish _ => .fileEnd
  | .result _ => .fileResult

inductive FileMessageCodecError where
  | unsupportedMessageType
  | malformedCbor
  | invalidFields
  | invalidTransferId
  | invalidFileId
  | invalidInteger
  | invalidChunkSize
  | invalidHash
  | invalidResult

namespace FileMessageCodec

def kMaximumDiagnosticUtf8Bytes : Nat := 4096
def kMaximumChunkBytes : Nat := 4 * 1024 * 1024
def qint64Max : Nat := 2 ^ 63 - 1

def wireInteger (value : Nat) : Bool := value ≤ qint64Max

def validateBegin (message : FileBeginMessage) : Except String Unit :=
  if ¬ wireInteger message.size ∨ ¬ wireInteger message.startOffset ∨
      message.startOffset > message.size then
    .error "FILE_BEGIN size and offset are invalid"
  else if message.chunkBytes = 0 ∨ message.chunkBytes > kMaximumChunkBytes then
    .error "FILE_BEGIN chunk bytes exceed the RDFT hard limit"
  else if message.expectedSha256.length ≠ kSha256Bytes then
    .error "FILE_BEGIN expected hash must be SHA-256"
  else .ok ()

def validateChunk (message : FileChunkMessage) : Except String Unit :=
  if ¬ wireInteger message.offset ∨ ¬ wireInteger message.sequence then
    .error "FILE_CHUNK offset or sequence exceeds the wire integer range"
  else .ok ()

def validateCheckpoint (message : FileCheckpointMessage) : Except String Unit :=
  if ¬ wireInteger message.durableOffset then
    .error "FILE_CHECKPOINT durable offset exceeds the wire integer range"
  else .ok ()

def validateEnd (message : FileEndMessage) : Except String Unit :=
  if ¬ wireInteger message.size then .error "FILE_END size exceeds the wire integer range"
  else if message.sha256.length ≠ kSha256Bytes then .error "FILE_END hash must be SHA-256"
  else .ok ()

def validateResult (message : FileResultMessage) : Except String Unit :=
  if message.code = .ok ∧ message.diagnostic ≠ [] then
    .error "successful FILE_RESULT cannot contain a diagnostic"
  else if message.code ≠ .ok ∧ (message.diagnostic = [] ∨
      message.diagnostic.toUtf8.length > kMaximumDiagnosticUtf8Bytes) then
    .error "failed FILE_RESULT requires a bounded diagnostic"
  else .ok ()

def validate : FileControlMessage → Except String Unit
  | .begin message => validateBegin message
  | .chunk message => validateChunk message
  | .checkpoint message => validateCheckpoint message
  | .finish message => validateEnd message
  | .result message => validateResult message

def insertUnsigned (field : Nat) (value : Nat) : QCborValue × QCborValue :=
  (.integer field, .integer value)

def insertBytes (field : Nat) (value : QByteArray) : QCborValue × QCborValue :=
  (.integer field, .bytes value)

def fields : FileControlMessage → QCborMap
  | .begin message => [
      insertBytes 1 message.transferId.toBytes, insertBytes 2 message.fileId.toBytes,
      insertUnsigned 3 message.size, insertUnsigned 4 message.startOffset,
      insertUnsigned 5 message.chunkBytes, insertBytes 6 message.expectedSha256]
  | .chunk message => [
      insertBytes 1 message.transferId.toBytes, insertBytes 2 message.fileId.toBytes,
      insertUnsigned 3 message.offset, insertUnsigned 4 message.sequence]
  | .checkpoint message => [
      insertBytes 1 message.transferId.toBytes, insertBytes 2 message.fileId.toBytes,
      insertUnsigned 3 message.durableOffset]
  | .finish message => [
      insertBytes 1 message.transferId.toBytes, insertBytes 2 message.fileId.toBytes,
      insertUnsigned 3 message.size, insertBytes 4 message.sha256]
  | .result message => [
      insertBytes 1 message.transferId.toBytes, insertBytes 2 message.fileId.toBytes,
      insertUnsigned 3 message.code.toNat]
      ++ if message.diagnostic ≠ [] then [(.integer 4, .text message.diagnostic.toUtf8)] else []

def encode (message : FileControlMessage) : Except String QByteArray :=
  match validate message with
  | .error diagnostic => .error diagnostic
  | .ok () => .ok (QCborMap.toCbor (fields message))

def hasExactKeys (map : QCborMap) (expected : List Int) : Bool :=
  map.length = expected.length && map.all fun entry =>
    match QCborValue.isInteger entry.1 with
    | some key => key ∈ expected
    | none => false

def readBytes (map : QCborMap) (field : Int) : Option QByteArray :=
  (map.value field).bind QCborValue.isByteArray

def readUuid {α : Type} (fromBytes : QByteArray → Option α) (map : QCborMap) (field : Int) :
    Option α :=
  (readBytes map field).bind fromBytes

def readUnsigned (map : QCborMap) (field : Int) : Option Nat :=
  match (map.value field).bind QCborValue.isInteger with
  | some value => if value < 0 then none else some value.toNat
  | none => none

abbrev DecodeResult := Except (FileMessageCodecError × String) FileControlMessage

def expectedKeys (type : MessageType) (map : QCborMap) : List Int :=
  if type = .fileBegin then [1, 2, 3, 4, 5, 6]
  else if type = .fileChunk ∨ type = .fileEnd then [1, 2, 3, 4]
  else if type = .fileCheckpoint then [1, 2, 3]
  else if map.contains 4 then [1, 2, 3, 4]
  else [1, 2, 3]

def decodeBegin (transferId : TransferId) (fileId : FileId) (map : QCborMap) : DecodeResult :=
  match readUnsigned map 3, readUnsigned map 4 with
  | some size, some offset =>
    if offset > size then .error (.invalidInteger, "FILE_BEGIN size or offset is invalid")
    else
      match readUnsigned map 5 with
      | none => .error (.invalidChunkSize, "FILE_BEGIN chunk size is invalid")
      | some chunkBytes =>
        if chunkBytes = 0 ∨ chunkBytes > kMaximumChunkBytes then
          .error (.invalidChunkSize, "FILE_BEGIN chunk size is invalid")
        else
          match readBytes map 6 with
          | none => .error (.invalidHash, "FILE_BEGIN hash is invalid")
          | some hash =>
            if hash.length ≠ kSha256Bytes then .error (.invalidHash, "FILE_BEGIN hash is invalid")
            else .ok (.begin ⟨transferId, fileId, size, offset, chunkBytes, hash⟩)
  | _, _ => .error (.invalidInteger, "FILE_BEGIN size or offset is invalid")

def decodeChunk (transferId : TransferId) (fileId : FileId) (map : QCborMap) : DecodeResult :=
  match readUnsigned map 3, readUnsigned map 4 with
  | some offset, some sequence => .ok (.chunk ⟨transferId, fileId, offset, sequence⟩)
  | _, _ => .error (.invalidInteger, "FILE_CHUNK position is invalid")

def decodeCheckpoint (transferId : TransferId) (fileId : FileId) (map : QCborMap) : DecodeResult :=
  match readUnsigned map 3 with
  | some offset => .ok (.checkpoint ⟨transferId, fileId, offset⟩)
  | none => .error (.invalidInteger, "FILE_CHECKPOINT offset is invalid")

def decodeEnd (transferId : TransferId) (fileId : FileId) (map : QCborMap) : DecodeResult :=
  match readUnsigned map 3 with
  | none => .error (.invalidInteger, "FILE_END size is invalid")
  | some size =>
    match readBytes map 4 with
    | none => .error (.invalidHash, "FILE_END hash is invalid")
    | some hash =>
      if hash.length ≠ kSha256Bytes then .error (.invalidHash, "FILE_END hash is invalid")
      else .ok (.finish ⟨transferId, fileId, size, hash⟩)

def decodeResult (transferId : TransferId) (fileId : FileId) (map : QCborMap) : DecodeResult :=
  match (readUnsigned map 3).bind FileResultCode.ofNat? with
  | none => .error (.invalidResult, "FILE_RESULT code is invalid")
  | some code =>
    let diagnostic : Option QString :=
      match map.value 4 with
      | none => some []
      | some value =>
        match QCborValue.isString value with
        | none => none
        | some text =>
          if text = [] ∨ text.toUtf8.length > kMaximumDiagnosticUtf8Bytes then none else some text
    match diagnostic with
    | none => .error (.invalidResult, "FILE_RESULT diagnostic is invalid")
    | some diagnostic =>
      if ¬ (code = .ok ↔ diagnostic = []) then
        .error (.invalidResult, "FILE_RESULT status and diagnostic disagree")
      else .ok (.result ⟨transferId, fileId, code, diagnostic⟩)

def decode (type : MessageType) (metadata : QByteArray) : DecodeResult :=
  if type ∉ [MessageType.fileBegin, .fileChunk, .fileCheckpoint, .fileEnd, .fileResult] then
    .error (.unsupportedMessageType, "metadata is not a file control message")
  else
    match (Cbor.decode metadata).bind QCborValue.isMap with
    | none => .error (.malformedCbor, "file control metadata is not one CBOR map")
    | some map =>
      if ¬ hasExactKeys map (expectedKeys type map) then
        .error (.invalidFields, "file control fields are missing or unknown")
      else
        match readUuid TransferId.fromBytes map 1, readUuid FileId.fromBytes map 2 with
        | some transferId, some fileId =>
          if type = .fileBegin then decodeBegin transferId fileId map
          else if type = .fileChunk then decodeChunk transferId fileId map
          else if type = .fileCheckpoint then decodeCheckpoint transferId fileId map
          else if type = .fileEnd then decodeEnd transferId fileId map
          else decodeResult transferId fileId map
        | some _, none => .error (.invalidFileId, "file control identifier is invalid")
        | none, _ => .error (.invalidTransferId, "file control identifier is invalid")

variable {metadata : QByteArray}

theorem encode_eq_ok {message : FileControlMessage} :
    encode message = .ok metadata ↔
      validate message = .ok () ∧ metadata = QCborMap.toCbor (fields message) := by
  unfold encode
  cases validate message <;> simp [eq_comm]

theorem validateBegin_eq_ok {message : FileBeginMessage} :
    validateBegin message = .ok () ↔
      message.size ≤ qint64Max ∧ message.startOffset ≤ message.size ∧ 0 < message.chunkBytes ∧
        message.chunkBytes ≤ kMaximumChunkBytes ∧
        message.expectedSha256.length = kSha256Bytes := by
  unfold validateBegin
  simp only [wireInteger, decide_eq_true_eq]
  split_ifs <;> simp only [true_iff, false_iff] <;> omega

theorem validateChunk_eq_ok {message : FileChunkMessage} :
    validateChunk message = .ok () ↔
      message.offset ≤ qint64Max ∧ message.sequence ≤ qint64Max := by
  unfold validateChunk
  simp only [wireInteger, decide_eq_true_eq]
  split_ifs <;> simp only [true_iff, false_iff] <;> omega

theorem validateCheckpoint_eq_ok {message : FileCheckpointMessage} :
    validateCheckpoint message = .ok () ↔ message.durableOffset ≤ qint64Max := by
  unfold validateCheckpoint
  simp only [wireInteger, decide_eq_true_eq]
  split_ifs <;> simp only [true_iff, false_iff] <;> omega

theorem validateEnd_eq_ok {message : FileEndMessage} :
    validateEnd message = .ok () ↔
      message.size ≤ qint64Max ∧ message.sha256.length = kSha256Bytes := by
  unfold validateEnd
  simp only [wireInteger, decide_eq_true_eq]
  split_ifs <;> simp only [true_iff, false_iff] <;> omega

theorem isInteger_ofNat {value : Nat} (h : value ≤ qint64Max) :
    QCborValue.isInteger (.integer value) = some (value : Int) := by
  simp only [qint64Max] at h
  rw [QCborValue.isInteger, if_pos ⟨by omega, by omega⟩]

@[simp]
theorem length_toRfc4122 (value : BitVec 128) : (toRfc4122 value).length = 16 :=
  BigEndian.encode_length ..

theorem encodable_insertUnsigned {field value : Nat} (hfield : field < 2 ^ 64)
    (h : value ≤ qint64Max) : Cbor.EncodableEntry (insertUnsigned field value) := by
  simp only [qint64Max] at h
  simp only [insertUnsigned, Cbor.EncodableEntry, Cbor.Encodable]
  omega

theorem encodable_insertBytes {field : Nat} {value : QByteArray} (hfield : field < 2 ^ 64)
    (h : value.length < 2 ^ 64) : Cbor.EncodableEntry (insertBytes field value) := by
  simp only [insertBytes, Cbor.EncodableEntry, Cbor.Encodable]
  omega

theorem hasExactKeys_of_keys {map : QCborMap} {expected : List Int}
    (h : (map.map fun entry => QCborValue.isInteger entry.1) = expected.map some) :
    hasExactKeys map expected = true := by
  have hlength : map.length = expected.length := by simpa using congrArg List.length h
  simp only [hasExactKeys, hlength, decide_true, Bool.true_and, List.all_eq_true]
  intro entry hentry
  have hkey : QCborValue.isInteger entry.1 ∈ expected.map some := by
    rw [← h]
    exact List.mem_map_of_mem hentry
  obtain ⟨key, hmem, hsome⟩ := List.mem_map.mp hkey
  simp [← hsome, hmem]

section

variable {map : QCborMap}

theorem readUnsigned_of_value {value : Nat} {field : Int}
    (h : map.value field = some (.integer value)) (hvalue : value ≤ qint64Max) :
    readUnsigned map field = some value := by
  rw [readUnsigned, h, Option.bind_some, isInteger_ofNat hvalue]
  simp

theorem readBytes_of_value {value : QByteArray} {field : Int}
    (h : map.value field = some (.bytes value)) : readBytes map field = some value := by
  rw [readBytes, h, Option.bind_some, QCborValue.isByteArray]

end

theorem decode_of_map {type : MessageType} {map : QCborMap} {transferId : TransferId}
    {fileId : FileId}
    (htype : type ∈ [MessageType.fileBegin, .fileChunk, .fileCheckpoint, .fileEnd, .fileResult])
    (hmap : Cbor.decode metadata = some (.map map))
    (hkeys : (map.map fun entry => QCborValue.isInteger entry.1) = (expectedKeys type map).map some)
    (htransfer : map.value 1 = some (.bytes transferId.toBytes))
    (hfile : map.value 2 = some (.bytes fileId.toBytes)) :
    decode type metadata =
      if type = .fileBegin then decodeBegin transferId fileId map
      else if type = .fileChunk then decodeChunk transferId fileId map
      else if type = .fileCheckpoint then decodeCheckpoint transferId fileId map
      else if type = .fileEnd then decodeEnd transferId fileId map
      else decodeResult transferId fileId map := by
  have hreadTransfer : readUuid TransferId.fromBytes map 1 = some transferId := by
    simp only [readUuid, readBytes, htransfer, Option.bind_some, QCborValue.isByteArray,
      TransferId.fromBytes_toBytes]
  have hreadFile : readUuid FileId.fromBytes map 2 = some fileId := by
    simp only [readUuid, readBytes, hfile, Option.bind_some, QCborValue.isByteArray,
      FileId.fromBytes_toBytes]
  rw [decode, if_neg (not_not_intro htype), hmap]
  simp only [Option.bind_some, QCborValue.isMap, hasExactKeys_of_keys hkeys, hreadTransfer,
    hreadFile, not_true_eq_false, if_false]

theorem decode_toCbor {map : QCborMap} (hlength : map.length < 2 ^ 64)
    (hentries : Cbor.EncodableEntries map) :
    Cbor.decode (QCborMap.toCbor map) = some (.map map) :=
  Cbor.decode_encode ⟨hlength, hentries⟩

theorem decode_toCbor_begin {message : FileBeginMessage}
    (hvalid : validateBegin message = .ok ()) :
    decode .fileBegin (QCborMap.toCbor (fields (.begin message))) = .ok (.begin message) := by
  obtain ⟨hsize, hoffset, hpositive, hchunk, hhash⟩ := validateBegin_eq_ok.mp hvalid
  have hchunkFits : message.chunkBytes ≤ qint64Max := by
    simp only [kMaximumChunkBytes, qint64Max] at hchunk ⊢
    omega
  have hhashEntry : Cbor.EncodableEntry (insertBytes 6 message.expectedSha256) :=
    encodable_insertBytes (by omega) (by rw [hhash, kSha256Bytes]; omega)
  have hmap := @decode_toCbor (fields (.begin message)) (by simp [fields]) (by
    simp [fields, Cbor.EncodableEntries, encodable_insertBytes, encodable_insertUnsigned, hsize,
      hoffset.trans hsize, hchunkFits, hhashEntry, TransferId.toBytes, FileId.toBytes])
  have h3 : readUnsigned (fields (.begin message)) 3 = some message.size :=
    readUnsigned_of_value rfl hsize
  have h4 : readUnsigned (fields (.begin message)) 4 = some message.startOffset :=
    readUnsigned_of_value rfl (hoffset.trans hsize)
  have h5 : readUnsigned (fields (.begin message)) 5 = some message.chunkBytes :=
    readUnsigned_of_value rfl hchunkFits
  have h6 : readBytes (fields (.begin message)) 6 = some message.expectedSha256 :=
    readBytes_of_value rfl
  have hbounds : ¬ (message.chunkBytes = 0 ∨ message.chunkBytes > kMaximumChunkBytes) := by omega
  rw [decode_of_map (by decide) hmap rfl rfl rfl, if_pos rfl, decodeBegin, h3, h4]
  dsimp only
  rw [if_neg (Nat.not_lt.mpr hoffset), h5]
  dsimp only
  rw [if_neg hbounds, h6]
  exact if_neg (not_not_intro hhash)

theorem decode_toCbor_chunk {message : FileChunkMessage}
    (hvalid : validateChunk message = .ok ()) :
    decode .fileChunk (QCborMap.toCbor (fields (.chunk message))) = .ok (.chunk message) := by
  obtain ⟨hoffset, hsequence⟩ := validateChunk_eq_ok.mp hvalid
  have hmap := @decode_toCbor (fields (.chunk message)) (by simp [fields]) (by
    simp [fields, Cbor.EncodableEntries, encodable_insertBytes, encodable_insertUnsigned, hoffset,
      hsequence, TransferId.toBytes, FileId.toBytes])
  have h3 : readUnsigned (fields (.chunk message)) 3 = some message.offset :=
    readUnsigned_of_value rfl hoffset
  have h4 : readUnsigned (fields (.chunk message)) 4 = some message.sequence :=
    readUnsigned_of_value rfl hsequence
  rw [decode_of_map (by decide) hmap rfl rfl rfl, if_neg (by decide), if_pos rfl, decodeChunk,
    h3, h4]

theorem decode_toCbor_checkpoint {message : FileCheckpointMessage}
    (hvalid : validateCheckpoint message = .ok ()) :
    decode .fileCheckpoint (QCborMap.toCbor (fields (.checkpoint message))) =
      .ok (.checkpoint message) := by
  have hoffset := validateCheckpoint_eq_ok.mp hvalid
  have hmap := @decode_toCbor (fields (.checkpoint message)) (by simp [fields]) (by
    simp [fields, Cbor.EncodableEntries, encodable_insertBytes, encodable_insertUnsigned, hoffset,
      TransferId.toBytes, FileId.toBytes])
  have h3 : readUnsigned (fields (.checkpoint message)) 3 = some message.durableOffset :=
    readUnsigned_of_value rfl hoffset
  rw [decode_of_map (by decide) hmap rfl rfl rfl, if_neg (by decide), if_neg (by decide),
    if_pos rfl, decodeCheckpoint, h3]

theorem decode_toCbor_end {message : FileEndMessage} (hvalid : validateEnd message = .ok ()) :
    decode .fileEnd (QCborMap.toCbor (fields (.finish message))) = .ok (.finish message) := by
  obtain ⟨hsize, hhash⟩ := validateEnd_eq_ok.mp hvalid
  have hhashEntry : Cbor.EncodableEntry (insertBytes 4 message.sha256) :=
    encodable_insertBytes (by omega) (by rw [hhash, kSha256Bytes]; omega)
  have hmap := @decode_toCbor (fields (.finish message)) (by simp [fields]) (by
    simp [fields, Cbor.EncodableEntries, encodable_insertBytes, encodable_insertUnsigned, hsize,
      hhashEntry, TransferId.toBytes, FileId.toBytes])
  have h3 : readUnsigned (fields (.finish message)) 3 = some message.size :=
    readUnsigned_of_value rfl hsize
  have h4 : readBytes (fields (.finish message)) 4 = some message.sha256 := readBytes_of_value rfl
  rw [decode_of_map (by decide) hmap rfl rfl rfl, if_neg (by decide), if_neg (by decide),
    if_neg (by decide), if_pos rfl, decodeEnd, h3, h4]
  exact if_neg (not_not_intro hhash)

theorem decode_encode {message : FileControlMessage} (h : encode message = .ok metadata)
    (hresult : ∀ result, message ≠ .result result) :
    decode (fileMessageType message) metadata = .ok message := by
  obtain ⟨hvalid, rfl⟩ := encode_eq_ok.mp h
  cases message with
  | begin message => exact decode_toCbor_begin hvalid
  | chunk message => exact decode_toCbor_chunk hvalid
  | checkpoint message => exact decode_toCbor_checkpoint hvalid
  | finish message => exact decode_toCbor_end hvalid
  | result message => exact absurd rfl (hresult message)

end FileMessageCodec

end DeskflowPlus.Transfer
