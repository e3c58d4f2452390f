import DeskflowPlus.Transfer.QCborFields
import DeskflowPlus.Transfer.ResumeValidity
import DeskflowPlus.Transfer.SessionMessageCodec

/-!
# Resume states on the disk

A resume state is kept in a file of its own, as one CBOR map under integer keys. The current schema
lists the resolved targets after the other fields; a file of the schema before it has no such list
and is read as one without resolved targets. Reading repeats the validation of writing.
-/

namespace DeskflowPlus.Transfer

open Checks

def kLegacyResumeStateSchemaVersion : Nat := 1
def kResumeStateSchemaVersion : Nat := 2
def kUuidBytes : Nat := 16

namespace ResumeStore

open FileMessageCodec SessionMessageCodec

def directionName : ResumeDirection → QString
  | .sending => QString.literal "sending"
  | .receiving => QString.literal "receiving"

def directionFromName (name : QString) : Option ResumeDirection :=
  if name = QString.literal "sending" then some .sending
  else if name = QString.literal "receiving" then some .receiving
  else none

def decisionValue : IncomingConflictDecision → Nat
  | .overwrite => 0
  | .autoRename => 1
  | .skip => 2
  | .cancelTransfer => 3

def decisionOfValue? (value : Nat) : Option IncomingConflictDecision :=
  [.overwrite, .autoRename, .skip, .cancelTransfer][value]?

def fileMap (file : ResumeFileState) : QCborMap :=
  [(.integer 1, .bytes file.fileId.toBytes), (.integer 2, .text file.relativeProtocolPath.toUtf8),
    (.integer 3, .integer file.durableOffset), (.integer 4, .integer file.totalBytes),
    (.integer 5, .text file.partRelativePath.toUtf8)]

def targetMap (target : ResolvedTargetState) : QCborMap :=
  [(.integer 1, .bytes target.fileId.toBytes), (.integer 2, .text target.relativeTargetPath.toUtf8),
    (.integer 3, .integer target.size), (.integer 4, .bytes target.sha256),
    (.integer 5, .integer (decisionValue target.decision))]

def sharedFields (schema : Nat) (state : ResumeState) : QCborMap :=
  [(.integer 1, .integer schema), (.integer 2, .bytes state.transferId.toBytes),
    (.integer 3, .bytes state.peerDeviceId.toBytes), (.integer 4, .bytes state.manifestSha256),
    (.integer 5, .text (directionName state.direction).toUtf8),
    (.integer 6, .array (state.files.map fun file => .map (fileMap file))),
    (.integer 7, .integer state.updatedUtc.toMSecsSinceEpoch)]

def stateMap (state : ResumeState) : QCborMap :=
  sharedFields kResumeStateSchemaVersion state ++
    [(.integer 8, .array (state.resolvedTargets.map fun target => .map (targetMap target)))]

def encodeState (state : ResumeState) : QByteArray := QCborMap.toCbor (stateMap state)

/-- The file that the schema before wrote. -/
def encodeLegacyState (state : ResumeState) : QByteArray :=
  QCborMap.toCbor (sharedFields kLegacyResumeStateSchemaVersion state)

def readString (map : QCborMap) (field : Int) : Option QString :=
  (map.value field).bind QCborValue.isString

def readArray (map : QCborMap) (field : Int) : Option (List QCborValue) :=
  (map.value field).bind QCborValue.isArray

def readUuidBytes (map : QCborMap) (field : Int) : Option QByteArray :=
  (readBytes map field).bind fun bytes => if bytes.length = kUuidBytes then some bytes else none

def readSha256 (map : QCborMap) (field : Int) : Option QByteArray :=
  (readBytes map field).bind fun bytes => if bytes.length = kSha256Bytes then some bytes else none

def readTimestamp (map : QCborMap) (field : Int) : Option Int :=
  ((map.value field).bind QCborValue.isInteger).bind fun value =>
    if value ≤ 0 then none else some value

def decodeFile (encodedFile : QCborValue) : ResumeStoreResult ResumeFileState := do
  let fileMap ← present encodedFile.isMap (.invalidFields, "resume file entry is not a map")
  require (hasExactIntegerKeys fileMap [1, 2, 3, 4, 5])
    (.invalidFields, "resume file entry fields are invalid")
  let types := (.invalidFields, "resume file entry types are invalid")
  let fileBytes ← present (readUuidBytes fileMap 1) types
  let relativeProtocolPath ← present (readString fileMap 2) types
  let durableOffset ← present (readUnsigned fileMap 3) types
  let totalBytes ← present (readUnsigned fileMap 4) types
  let partRelativePath ← present (readString fileMap 5) types
  let fileId ← present (FileId.fromBytes fileBytes)
    (.invalidFields, "resume file ID is invalid")
  return { fileId, relativeProtocolPath, durableOffset, totalBytes, partRelativePath }

def decodeTarget (encodedTarget : QCborValue) : ResumeStoreResult ResolvedTargetState := do
  let targetMap ← present encodedTarget.isMap
    (.invalidFields, "resolved target entry is not a map")
  require (hasExactIntegerKeys targetMap [1, 2, 3, 4, 5])
    (.invalidFields, "resolved target fields are invalid")
  let types := (.invalidFields, "resolved target types are invalid")
  let fileBytes ← present (readUuidBytes targetMap 1) types
  let relativeTargetPath ← present (readString targetMap 2) types
  let size ← present (readUnsigned targetMap 3) types
  let sha256 ← present (readSha256 targetMap 4) types
  let decision ← present ((readUnsigned targetMap 5).bind decisionOfValue?) types
  let fileId ← present (FileId.fromBytes fileBytes)
    (.invalidFields, "resolved target file ID is invalid")
  return { fileId, relativeTargetPath, size, sha256, decision }

def decodeFiles : List QCborValue → ResumeStoreResult (List ResumeFileState)
  | [] => .ok []
  | encodedFile :: encodedFiles => do
    let file ← decodeFile encodedFile
    let files ← decodeFiles encodedFiles
    return file :: files

def decodeTargets : List QCborValue → ResumeStoreResult (List ResolvedTargetState)
  | [] => .ok []
  | encodedTarget :: encodedTargets => do
    let target ← decodeTarget encodedTarget
    let targets ← decodeTargets encodedTargets
    return target :: targets

variable (qt : QtText)

def decodeState (encoded : QByteArray) (limits : ResumeStoreLimits) :
    ResumeStoreResult (ResumeState × Nat) := do
  require (encoded ≠ [] ∧ encoded.length ≤ limits.maximumEncodedBytes)
    (.stateTooLarge, "resume state is empty or exceeds the limit")
  let map ← present ((Cbor.decode encoded).bind QCborValue.isMap)
    (.malformedCbor, "resume state is not exactly one CBOR map")
  let schema ← present ((map.value 1).bind QCborValue.isInteger)
    (.invalidFields, "resume state schema field is invalid")
  require (schema = kLegacyResumeStateSchemaVersion ∨ schema = kResumeStateSchemaVersion)
    (.unsupportedSchema, "resume state schema is unsupported")
  let legacy : Bool := schema = kLegacyResumeStateSchemaVersion
  require (hasExactIntegerKeys map
      (if legacy then [1, 2, 3, 4, 5, 6, 7] else [1, 2, 3, 4, 5, 6, 7, 8]))
    (.invalidFields, "resume state contains missing, duplicate, or unknown fields")
  let types := (.invalidFields, "resume state contains invalid field types")
  let transferBytes ← present (readUuidBytes map 2) types
  let peerBytes ← present (readBytes map 3) types
  let manifestSha256 ← present (readSha256 map 4) types
  let directionValue ← present (readString map 5) types
  let encodedFiles ← present (readArray map 6) types
  let updatedAt ← present (readTimestamp map 7) types
  let encodedTargets ← present (if legacy then some [] else readArray map 8) types
  let identity := (.invalidFields, "resume identity or direction is invalid")
  let transferId ← present (TransferId.fromBytes transferBytes) identity
  let peerDeviceId ← present (DeviceId.fromBytes peerBytes) identity
  let direction ← present (directionFromName directionValue) identity
  require (limits.maximumFiles ≠ 0 ∧
      encodedFiles.length + encodedTargets.length ≤ limits.maximumFiles)
    (.tooManyFiles, "resume file count exceeds the limit")
  let files ← decodeFiles encodedFiles
  let resolvedTargets ← decodeTargets encodedTargets
  let state : ResumeState :=
    { transferId, peerDeviceId, manifestSha256, direction, files, resolvedTargets
      updatedUtc := ⟨some updatedAt⟩ }
  validateState qt state limits
  return (state, schema.toNat)

section RoundTrip

variable {qt : QtText} {limits : ResumeStoreLimits}

theorem directionFromName_directionName (direction : ResumeDirection) :
    directionFromName (directionName direction) = some direction := by
  cases direction <;> decide

theorem isWellFormed_directionName (direction : ResumeDirection) :
    QString.isWellFormed (directionName direction) = true := by
  cases direction <;> decide

theorem directionName_length (direction : ResumeDirection) :
    (directionName direction).toUtf8.length < 2 ^ 64 := by
  have hshort : (directionName direction).toUtf8.length = 7 ∨
      (directionName direction).toUtf8.length = 9 := by
    cases direction with
    | sending => exact .inl rfl
    | receiving => exact .inr rfl
  omega

theorem decisionOfValue_decisionValue (decision : IncomingConflictDecision) :
    decisionOfValue? (decisionValue decision) = some decision := by
  cases decision <;> rfl

theorem decisionValue_le (decision : IncomingConflictDecision) :
    decisionValue decision ≤ FileMessageCodec.qint64Max := by
  cases decision <;> decide

section Fields

variable {map : QCborMap} {field : Int}

theorem readString_of_value {text : QString} (htext : QString.isWellFormed text = true)
    (h : map.value field = some (.text text.toUtf8)) : readString map field = some text := by
  rw [readString, h]
  exact QCborValue.isString_toUtf8 htext

theorem readUuidBytes_of_value {id : BitVec 128}
    (h : map.value field = some (.bytes (toRfc4122 id))) :
    readUuidBytes map field = some (toRfc4122 id) := by
  have hlength : (toRfc4122 id).length = kUuidBytes := BigEndian.encode_length ..
  rw [readUuidBytes, readBytes_of_value h, Option.bind_some, if_pos hlength]

theorem readSha256_of_value {sha256 : QByteArray} (hlength : sha256.length = kSha256Bytes)
    (h : map.value field = some (.bytes sha256)) : readSha256 map field = some sha256 := by
  rw [readSha256, readBytes_of_value h, Option.bind_some, if_pos hlength]

theorem readTimestamp_of_value {time : Int} (hpositive : 0 < time) (hbound : time < 2 ^ 63)
    (h : map.value field = some (.integer time)) : readTimestamp map field = some time := by
  have hinteger : QCborValue.isInteger (.integer time) = some time :=
    if_pos ⟨by omega, hbound⟩
  rw [readTimestamp, h, Option.bind_some, hinteger]
  exact if_neg (Int.not_le.mpr hpositive)

end Fields

theorem decodeFile_fileMap {file : ResumeFileState} (h : ValidFile qt limits file) :
    decodeFile (.map (fileMap file)) = .ok file := by
  have hkeys : hasExactIntegerKeys (fileMap file) [1, 2, 3, 4, 5] = true := rfl
  have hid : readUuidBytes (fileMap file) 1 = some file.fileId.toBytes :=
    readUuidBytes_of_value rfl
  have hprotocol : readString (fileMap file) 2 = some file.relativeProtocolPath :=
    readString_of_value h.protocolPath.wellFormed rfl
  have hoffset : readUnsigned (fileMap file) 3 = some file.durableOffset :=
    readUnsigned_of_value rfl (h.offset.trans h.total)
  have htotal : readUnsigned (fileMap file) 4 = some file.totalBytes :=
    readUnsigned_of_value rfl h.total
  have hpart : readString (fileMap file) 5 = some file.partRelativePath :=
    readString_of_value h.partPath.wellFormed rfl
  unfold decodeFile
  dsimp only
  show present (some (fileMap file)) _ >>= _ = _
  rw [present_some, ok_bind, require_of hkeys, ok_bind, hid, present_some, ok_bind, hprotocol,
    present_some, ok_bind, hoffset, present_some, ok_bind, htotal, present_some, ok_bind, hpart,
    present_some, ok_bind, FileId.fromBytes_toBytes, present_some, ok_bind]
  rfl

theorem decodeTarget_targetMap {target : ResolvedTargetState} (h : ValidTarget qt limits target) :
    decodeTarget (.map (targetMap target)) = .ok target := by
  have hkeys : hasExactIntegerKeys (targetMap target) [1, 2, 3, 4, 5] = true := rfl
  have hid : readUuidBytes (targetMap target) 1 = some target.fileId.toBytes :=
    readUuidBytes_of_value rfl
  have hpath : readString (targetMap target) 2 = some target.relativeTargetPath :=
    readString_of_value h.wellFormed rfl
  have hsize : readUnsigned (targetMap target) 3 = some target.size :=
    readUnsigned_of_value rfl h.size
  have hsha256 : readSha256 (targetMap target) 4 = some target.sha256 :=
    readSha256_of_value h.sha256 rfl
  have hdecision : readUnsigned (targetMap target) 5 = some (decisionValue target.decision) :=
    readUnsigned_of_value rfl (decisionValue_le _)
  unfold decodeTarget
  dsimp only
  show present (some (targetMap target)) _ >>= _ = _
  rw [present_some, ok_bind, require_of hkeys, ok_bind, hid, present_some, ok_bind, hpath,
    present_some, ok_bind, hsize, present_some, ok_bind, hsha256, present_some, ok_bind,
    hdecision, Option.bind_some, decisionOfValue_decisionValue, present_some, ok_bind,
    FileId.fromBytes_toBytes, present_some, ok_bind]
  rfl

theorem decodeFiles_map {files : List ResumeFileState}
    (h : ∀ file ∈ files, ValidFile qt limits file) :
    decodeFiles (files.map fun file => .map (fileMap file)) = .ok files := by
  induction files with
  | nil => rfl
  | cons file files ih =>
    obtain ⟨hfile, hfiles⟩ := List.forall_mem_cons.mp h
    rw [List.map_cons, decodeFiles, decodeFile_fileMap hfile, ok_bind, ih hfiles]
    rfl

theorem decodeTargets_map {targets : List ResolvedTargetState}
    (h : ∀ target ∈ targets, ValidTarget qt limits target) :
    decodeTargets (targets.map fun target => .map (targetMap target)) = .ok targets := by
  induction targets with
  | nil => rfl
  | cons target targets ih =>
    obtain ⟨htarget, htargets⟩ := List.forall_mem_cons.mp h
    rw [List.map_cons, decodeTargets, decodeTarget_targetMap htarget, ok_bind, ih htargets]
    rfl

/-! A valid state can be written: every string spells characters and every number fits. -/

theorem encodable_fileMap {file : ResumeFileState} (h : ValidFile qt limits file) :
    Cbor.Encodable (.map (fileMap file)) := by
  have hoffset := h.offset
  have htotal := h.total
  unfold qint64Max at htotal
  exact ⟨by simp [fileMap], QCborMap.encodable_bytes (by decide) (length_toBytes_lt _),
    QCborMap.encodable_text (by decide) h.protocolPath.length h.protocolPath.wellFormed,
    QCborMap.encodable_unsigned (by decide) (by omega),
    QCborMap.encodable_unsigned (by decide) (by omega),
    QCborMap.encodable_text (by decide) h.partPath.length h.partPath.wellFormed, trivial⟩

theorem encodable_targetMap {target : ResolvedTargetState} (h : ValidTarget qt limits target) :
    Cbor.Encodable (.map (targetMap target)) := by
  have hsize := h.size
  have hdecision := decisionValue_le target.decision
  have hsha256 : target.sha256.length < 2 ^ 64 := by
    rw [h.sha256, kSha256Bytes]
    omega
  unfold qint64Max at hsize
  unfold FileMessageCodec.qint64Max at hdecision
  exact ⟨by simp [targetMap], QCborMap.encodable_bytes (by decide) (length_toBytes_lt _),
    QCborMap.encodable_text (by decide) h.path_length h.wellFormed,
    QCborMap.encodable_unsigned (by decide) (by omega),
    QCborMap.encodable_bytes (by decide) hsha256,
    QCborMap.encodable_unsigned (by decide) (by omega), trivial⟩

variable {state : ResumeState}

theorem encodable_sharedFields {schema : Nat} (h : ValidState qt limits state)
    (hschema : schema < 2 ^ 63) (htime : state.updatedUtc.toMSecsSinceEpoch < 2 ^ 63)
    (hfiles : state.files.length < 2 ^ 64) :
    ∀ entry ∈ sharedFields schema state, Cbor.EncodableEntry entry := by
  have hpositive := h.timePositive
  have hsha256 : state.manifestSha256.length < 2 ^ 64 := by
    rw [h.manifestSha256, kSha256Bytes]
    omega
  have hitems : Cbor.EncodableItems (state.files.map fun file => .map (fileMap file)) := by
    apply QCborMap.encodableItems_of_forall
    intro item hitem
    obtain ⟨file, hfile, rfl⟩ := List.mem_map.mp hitem
    exact encodable_fileMap (h.files file hfile)
  have harray : Cbor.EncodableEntry
      (.integer 6, .array (state.files.map fun file => .map (fileMap file))) :=
    ⟨QCborMap.IsKey.encodable (by decide), by rwa [List.length_map], hitems⟩
  have hupdated : Cbor.EncodableEntry
      (.integer 7, .integer state.updatedUtc.toMSecsSinceEpoch) := by
    refine ⟨QCborMap.IsKey.encodable (by decide), ?_⟩
    constructor <;> omega
  unfold sharedFields
  simp only [List.forall_mem_cons]
  exact ⟨QCborMap.encodable_unsigned (by decide) hschema,
    QCborMap.encodable_bytes (by decide) (length_toBytes_lt _),
    QCborMap.encodable_bytes (by decide) (length_toBytes_lt _),
    QCborMap.encodable_bytes (by decide) hsha256,
    QCborMap.encodable_text (by decide) (directionName_length _) (isWellFormed_directionName _),
    harray, hupdated, nofun⟩

theorem ValidState.updatedUtc_eq (h : ValidState qt limits state) :
    state.updatedUtc = ⟨some state.updatedUtc.toMSecsSinceEpoch⟩ := by
  have hvalid := h.timeValid
  cases htime : state.updatedUtc with
  | mk msecs =>
    rw [htime] at hvalid
    cases msecs with
    | none => exact absurd hvalid nofun
    | some msecs => rfl

theorem decodeState_sharedFields {schema : Nat} {extra : QCborMap} {encoded : QByteArray}
    (h : ValidState qt limits state) (htime : state.updatedUtc.toMSecsSinceEpoch < 2 ^ 63)
    (hschema : schema = kLegacyResumeStateSchemaVersion ∨ schema = kResumeStateSchemaVersion)
    (hne : encoded ≠ []) (hlength : encoded.length ≤ limits.maximumEncodedBytes)
    (hmap : Cbor.decode encoded = some (.map (sharedFields schema state ++ extra)))
    (hkeys : hasExactIntegerKeys (sharedFields schema state ++ extra)
      (if decide ((schema : Int) = kLegacyResumeStateSchemaVersion) = true then
        [1, 2, 3, 4, 5, 6, 7] else [1, 2, 3, 4, 5, 6, 7, 8]) = true)
    (htargets : (if decide ((schema : Int) = kLegacyResumeStateSchemaVersion) = true then some []
        else readArray (sharedFields schema state ++ extra) 8) =
      some (state.resolvedTargets.map fun target => .map (targetMap target))) :
    decodeState qt encoded limits = .ok (state, schema) := by
  have hsmall : schema < 2 ^ 63 := by
    unfold kLegacyResumeStateSchemaVersion kResumeStateSchemaVersion at hschema
    omega
  have hversion : (sharedFields schema state ++ extra).value 1 = some (.integer schema) := rfl
  have hsupported : (schema : Int) = kLegacyResumeStateSchemaVersion ∨
      (schema : Int) = kResumeStateSchemaVersion := by
    rcases hschema with rfl | rfl
    · exact .inl rfl
    · exact .inr rfl
  have htransfer : readUuidBytes (sharedFields schema state ++ extra) 2 =
      some state.transferId.toBytes := readUuidBytes_of_value rfl
  have hpeer : readBytes (sharedFields schema state ++ extra) 3 =
      some state.peerDeviceId.toBytes := readBytes_of_value rfl
  have hdigest : readSha256 (sharedFields schema state ++ extra) 4 = some state.manifestSha256 :=
    readSha256_of_value h.manifestSha256 rfl
  have hdirection : readString (sharedFields schema state ++ extra) 5 =
      some (directionName state.direction) :=
    readString_of_value (isWellFormed_directionName _) rfl
  have hfiles : readArray (sharedFields schema state ++ extra) 6 =
      some (state.files.map fun file => .map (fileMap file)) := rfl
  have hupdated : readTimestamp (sharedFields schema state ++ extra) 7 =
      some state.updatedUtc.toMSecsSinceEpoch := readTimestamp_of_value h.timePositive htime rfl
  have hcount : limits.maximumFiles ≠ 0 ∧
      (state.files.map fun file => Cbor.Value.map (fileMap file)).length +
        (state.resolvedTargets.map fun target => Cbor.Value.map (targetMap target)).length ≤
          limits.maximumFiles := by
    rw [List.length_map, List.length_map]
    exact ⟨h.maximumFiles, h.count⟩
  unfold decodeState
  rw [require_of ⟨hne, hlength⟩, ok_bind, hmap, Option.bind_some]
  show present (some (sharedFields schema state ++ extra)) _ >>= _ = _
  rw [present_some, ok_bind, hversion, Option.bind_some, QCborValue.isInteger_natCast hsmall,
    present_some, ok_bind, require_of hsupported, ok_bind]
  dsimp only
  rw [require_of hkeys, ok_bind, htransfer, present_some, ok_bind, hpeer, present_some, ok_bind,
    hdigest, present_some, ok_bind, hdirection, present_some, ok_bind, hfiles, present_some,
    ok_bind, hupdated, present_some, ok_bind, htargets, present_some, ok_bind,
    TransferId.fromBytes_toBytes, present_some, ok_bind, DeviceId.fromBytes_toBytes, present_some,
    ok_bind, directionFromName_directionName, present_some, ok_bind, require_of hcount, ok_bind,
    decodeFiles_map h.files, ok_bind, decodeTargets_map h.targets, ok_bind, ← h.updatedUtc_eq]
  rw [validateState_eq_ok.mpr h]
  rfl

/-- **A state that is written is read back.** -/
theorem decodeState_encodeState (h : ValidState qt limits state)
    (htime : state.updatedUtc.toMSecsSinceEpoch < 2 ^ 63) (hmaximum : limits.maximumFiles < 2 ^ 64)
    (hlength : (encodeState state).length ≤ limits.maximumEncodedBytes) :
    decodeState qt (encodeState state) limits = .ok (state, kResumeStateSchemaVersion) := by
  have hcount := h.count
  have htargets : Cbor.EncodableItems
      (state.resolvedTargets.map fun target => .map (targetMap target)) := by
    apply QCborMap.encodableItems_of_forall
    intro item hitem
    obtain ⟨target, htarget, rfl⟩ := List.mem_map.mp hitem
    exact encodable_targetMap (h.targets target htarget)
  have hentries : ∀ entry ∈ stateMap state, Cbor.EncodableEntry entry := by
    intro entry hentry
    obtain hshared | hlast := List.mem_append.mp hentry
    · exact encodable_sharedFields h (by decide) htime (by omega) entry hshared
    · rw [List.mem_singleton.mp hlast]
      exact ⟨QCborMap.IsKey.encodable (by decide), by rw [List.length_map]; omega, htargets⟩
  have hmap : Cbor.decode (encodeState state) = some (.map (stateMap state)) :=
    QCborMap.decode_toCbor (by simp [stateMap, sharedFields])
      (QCborMap.encodableEntries_of_forall hentries)
  exact decodeState_sharedFields h htime (.inr rfl) (QCborMap.toCbor_ne_nil _) hlength hmap rfl rfl

/-- **Whatever is read is valid**, and of the schema before only without resolved targets. -/
theorem validState_of_decodeState {encoded : QByteArray} {schema : Nat}
    (h : decodeState qt encoded limits = .ok (state, schema)) :
    ValidState qt limits state ∧
      (schema = kResumeStateSchemaVersion ∨
        schema = kLegacyResumeStateSchemaVersion ∧ state.resolvedTargets = []) := by
  unfold decodeState at h
  obtain ⟨-, h⟩ := require_bind_eq_ok.mp h
  obtain ⟨map, -, h⟩ := present_bind_eq_ok.mp h
  obtain ⟨version, -, h⟩ := present_bind_eq_ok.mp h
  obtain ⟨hversion, h⟩ := require_bind_eq_ok.mp h
  obtain ⟨-, h⟩ := require_bind_eq_ok.mp h
  obtain ⟨transferBytes, -, h⟩ := present_bind_eq_ok.mp h
  obtain ⟨peerBytes, -, h⟩ := present_bind_eq_ok.mp h
  obtain ⟨manifestSha256, -, h⟩ := present_bind_eq_ok.mp h
  obtain ⟨directionValue, -, h⟩ := present_bind_eq_ok.mp h
  obtain ⟨encodedFiles, -, h⟩ := present_bind_eq_ok.mp h
  obtain ⟨updatedAt, -, h⟩ := present_bind_eq_ok.mp h
  obtain ⟨encodedTargets, htargets, h⟩ := present_bind_eq_ok.mp h
  obtain ⟨transferId, -, h⟩ := present_bind_eq_ok.mp h
  obtain ⟨peerDeviceId, -, h⟩ := present_bind_eq_ok.mp h
  obtain ⟨direction, -, h⟩ := present_bind_eq_ok.mp h
  obtain ⟨-, h⟩ := require_bind_eq_ok.mp h
  obtain ⟨files, -, h⟩ := bind_eq_ok.mp h
  obtain ⟨resolvedTargets, hresolved, h⟩ := bind_eq_ok.mp h
  obtain ⟨hvalid, h⟩ := unit_bind_eq_ok.mp h
  cases h
  refine ⟨validateState_eq_ok.mp hvalid, ?_⟩
  rcases hversion with rfl | rfl
  · right
    rw [if_pos (by decide), Option.some.injEq] at htargets
    subst htargets
    cases hresolved
    exact ⟨rfl, rfl⟩
  · exact .inl rfl

end RoundTrip

end ResumeStore

end DeskflowPlus.Transfer
