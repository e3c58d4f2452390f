import DeskflowPlus.Lib.Checks
import DeskflowPlus.Lib.SortUnique
import DeskflowPlus.Transfer.PathPolicy
import DeskflowPlus.Transfer.TransferControlStateMachine
import DeskflowPlus.Trust.DeviceIdText

/-!
# The history of transfers

The history is a file with one JSON object a line. Every operation loads the valid rows of three
schemas, drops the rows that are too old, sorts the others newest first, drops adjacent rows of one
transfer and cuts the list to length; appending and compacting write what is left in the current
schema. How a JSON text is read is a parameter; how an object is written is not.
-/

namespace DeskflowPlus.Transfer

open Checks

inductive QJsonValue where
  | null
  | bool (value : Bool)
  | number (integer : Option Int)
  | string (text : QString)
  | array
  | object

abbrev QJsonObject := List (QString × QJsonValue)

/-- `QJsonDocument::fromJson`, for documents that are objects. -/
abbrev QJsonParser := QByteArray → Option QJsonObject

namespace QJson

def ascii (text : String) : QByteArray := text.toList.map fun c => UInt8.ofNat c.toNat

def hexdig (digit : Nat) : UInt8 :=
  UInt8.ofNat (if digit < 10 then 0x30 + digit else 0x61 + (digit - 10))

/-- `\u` and four digits. -/
def escapedCode (unit : UInt16) : QByteArray :=
  [0x5c, 0x75, hexdig (unit.toNat / 0x1000), hexdig (unit.toNat / 0x100 % 0x10),
    hexdig (unit.toNat / 0x10 % 0x10), hexdig (unit.toNat % 0x10)]

def escapedUnit (unit : UInt16) : QByteArray :=
  if unit = 0x22 then [0x5c, 0x22]
  else if unit = 0x5c then [0x5c, 0x5c]
  else if unit = 0x08 then [0x5c, 0x62]
  else if unit = 0x0c then [0x5c, 0x66]
  else if unit = 0x0a then [0x5c, 0x6e]
  else if unit = 0x0d then [0x5c, 0x72]
  else if unit = 0x09 then [0x5c, 0x74]
  else if unit < 0x20 then escapedCode unit
  else if QString.isHighSurrogate unit || QString.isLowSurrogate unit then escapedCode unit
  else QString.unitToUtf8 unit

def escapedString : QString → QByteArray
  | [] => []
  | [unit] => escapedUnit unit
  | unit :: next :: rest =>
    if QString.isHighSurrogate unit && QString.isLowSurrogate next then
      QString.toUtf8 [unit, next] ++ escapedString rest
    else escapedUnit unit ++ escapedString (next :: rest)

def decimal (value : Nat) : QByteArray :=
  (Nat.toDigits 10 value).map fun c => UInt8.ofNat c.toNat

/-- What the records hold. -/
inductive Scalar where
  | integer (value : Nat)
  | string (text : QString)

def quoted (text : QString) : QByteArray := 0x22 :: (escapedString text ++ [0x22])

def scalar : Scalar → QByteArray
  | .integer value => decimal value
  | .string text => quoted text

def member (name : String) (value : Scalar) : QByteArray :=
  0x22 :: (ascii name ++ 0x22 :: 0x3a :: scalar value)

/-- `QJsonDocument::toJson` in the compact format, for an object in the order of its keys. -/
def toJson (members : List (String × Scalar)) : QByteArray :=
  0x7b :: ([0x2c].intercalate (members.map fun entry => member entry.1 entry.2) ++ [0x7d])

end QJson

namespace QJsonObject

def value (object : QJsonObject) (name : String) : Option QJsonValue :=
  (object.find? fun entry => entry.1 = QString.literal name).map Prod.snd

def contains (object : QJsonObject) (name : String) : Bool := (object.value name).isSome

def text (object : QJsonObject) (name : String) : QString :=
  match object.value name with
  | some (.string text) => text
  | _ => []

def isString (object : QJsonObject) (name : String) : Bool :=
  match object.value name with
  | some (.string _) => true
  | _ => false

end QJsonObject

inductive HistoryDirection where
  | sending
  | receiving
  deriving DecidableEq

inductive HistoryStatus where
  | completed
  | rejected
  | cancelled
  | failed
  deriving DecidableEq

structure TransferHistoryRecord where
  transferId : TransferId
  peerDeviceId : DeviceId
  peerDisplayName : QString
  displayName : QString
  direction : HistoryDirection := .sending
  fileCount : Nat := 0
  totalBytes : Nat := 0
  startedUtc : QDateTime
  finishedUtc : QDateTime
  status : HistoryStatus := .completed
  errorCode : TransferErrorCode := .none
  completedRelativePath : QString
  topLevelTargetRelativePath : QString
  deriving DecidableEq

structure TransferHistoryLimits where
  maximumEntries : Nat := 1000
  maximumAgeDays : Nat := 90
  maximumFileBytes : Nat := 16 * 1024 * 1024
  maximumLineBytes : Nat := 64 * 1024
  deriving DecidableEq

inductive TransferHistoryError where
  | invalidStorePath
  | invalidLimits
  | invalidRecord
  | directoryCreateFailed
  | openFailed
  | readFailed
  | fileTooLarge
  | writeFailed
  | commitFailed
  | removeFailed
  deriving DecidableEq

structure TransferHistoryIssue where
  line : Nat := 0
  diagnostic : String
  deriving DecidableEq

structure TransferHistoryPage where
  records : List TransferHistoryRecord
  issues : List TransferHistoryIssue
  totalValidEntries : Nat := 0

abbrev TransferHistoryResult (α : Type) := Except (TransferHistoryError × String) α

def TransferId.fromString (text : QString) : Option TransferId :=
  match DeviceId.canonicalGroups text with
  | none => none
  | some groups =>
    let value := BitVec.ofNat 128 (QString.hexValue groups.flatten)
    if h : value ≠ 0 then some ⟨value, h⟩ else none

theorem TransferId.fromString_toString (id : TransferId) :
    TransferId.fromString id.toString = some id := by
  have hvalue : BigEndian.decode (toRfc4122 id.value) = id.value.toNat :=
    BigEndian.decode_encode id.value.isLt
  have hgroups := DeviceId.canonicalGroups_toString ⟨id.value, id.nonNull⟩
  unfold TransferId.fromString
  rw [show id.toString = DeviceId.toString ⟨id.value, id.nonNull⟩ from rfl, hgroups]
  dsimp only
  rw [QString.flatten_map_hex, DeviceId.flatten_groupBytes, QString.hexValue_hex, hvalue,
    BitVec.ofNat_toNat, BitVec.setWidth_eq]
  exact dif_pos id.nonNull

def TransferErrorCode.ofNat? (code : Nat) : Option TransferErrorCode :=
  [.none, .manifestBuildFailed, .offerFailed, .senderFailed, .peerRejected, .peerFileFailed,
    .diskFull, .unsafePath, .sourceUnreadable, .connectionLost, .hashMismatch,
    .internalError].find? fun known => known.toNat = code

namespace TransferHistoryStore

def kTransferHistorySchemaVersion : Nat := 3
def kMaximumDisplayNameUtf8Bytes : Nat := 4096
def qint64Max : Nat := 2 ^ 63 - 1

def directionName : HistoryDirection → QString
  | .sending => QString.literal "send"
  | .receiving => QString.literal "receive"

def parseDirection (direction : QString) : Option HistoryDirection :=
  if direction = QString.literal "send" then some .sending
  else if direction = QString.literal "receive" then some .receiving
  else none

def statusName : HistoryStatus → QString
  | .completed => QString.literal "completed"
  | .rejected => QString.literal "rejected"
  | .cancelled => QString.literal "cancelled"
  | .failed => QString.literal "failed"

def parseStatus (status : QString) : Option HistoryStatus :=
  if status = QString.literal "completed" then some .completed
  else if status = QString.literal "rejected" then some .rejected
  else if status = QString.literal "cancelled" then some .cancelled
  else if status = QString.literal "failed" then some .failed
  else none

def validLimits (limits : TransferHistoryLimits) : Bool :=
  limits.maximumEntries > 0 ∧ limits.maximumAgeDays > 0 ∧ limits.maximumFileBytes > 0 ∧
    limits.maximumLineBytes > 0 ∧ limits.maximumLineBytes ≤ limits.maximumFileBytes

variable (qt : QtText)

def validTargets (record : TransferHistoryRecord) : Bool :=
  if record.completedRelativePath = [] ∧ record.topLevelTargetRelativePath = [] then true
  else if record.completedRelativePath = [] ∧
      record.topLevelTargetRelativePath = QString.literal "." then true
  else
    (PathPolicy.validateRelative qt record.completedRelativePath).ok ∧
      (PathPolicy.validateRelative qt record.topLevelTargetRelativePath).ok ∧
      0x2f ∉ record.topLevelTargetRelativePath ∧
      record.completedRelativePath.takeWhile (· ≠ 0x2f) = record.topLevelTargetRelativePath

def validRecord (record : TransferHistoryRecord) : Bool :=
  if record.peerDeviceId.value = 0 ∨ record.displayName = [] ∨
      record.displayName.toUtf8.length > kMaximumDisplayNameUtf8Bytes ∨
      record.peerDisplayName.toUtf8.length > kMaximumDisplayNameUtf8Bytes ∨
      ¬ record.startedUtc.isValid ∨ ¬ record.finishedUtc.isValid ∨
      record.startedUtc.toMSecsSinceEpoch ≤ 0 ∨
      record.finishedUtc.toMSecsSinceEpoch < record.startedUtc.toMSecsSinceEpoch then false
  else if record.totalBytes > qint64Max ∨ record.fileCount > qint64Max then false
  else
    match record.status with
    | .completed => record.errorCode = .none && validTargets qt record
    | .failed => isKnownTransferErrorCode record.errorCode
    | _ => record.errorCode = .none

/-- The members of a row, in the order of their names. -/
def encodeRecord (record : TransferHistoryRecord) : QByteArray :=
  QJson.toJson [
    ("completedRelativePath", .string record.completedRelativePath),
    ("direction", .string (directionName record.direction)),
    ("displayName", .string record.displayName),
    ("errorCode", .integer record.errorCode.toNat),
    ("fileCount", .integer record.fileCount),
    ("finishedAtMs", .integer record.finishedUtc.toMSecsSinceEpoch.toNat),
    ("peerDeviceId", .string record.peerDeviceId.toString),
    ("peerDisplayName", .string record.peerDisplayName),
    ("schemaVersion", .integer kTransferHistorySchemaVersion),
    ("startedAtMs", .integer record.startedUtc.toMSecsSinceEpoch.toNat),
    ("status", .string (statusName record.status)),
    ("topLevelTargetRelativePath", .string record.topLevelTargetRelativePath),
    ("totalBytes", .integer record.totalBytes),
    ("transferId", .string record.transferId.toString)]

def integerField (object : QJsonObject) (name : String) : Option Int :=
  match object.value name with
  | some (.number (some number)) => if number = -2 ^ 63 then none else some number
  | _ => none

def requiredNames (schemaVersion : Int) : List String :=
  ["schemaVersion", "transferId", "peerDeviceId", "peerDisplayName", "displayName", "direction",
    "fileCount", "totalBytes", "startedAtMs", "finishedAtMs", "status", "errorCode"] ++
    (if schemaVersion = 1 then ["errorMessageKey"] else []) ++
    (if schemaVersion = 3 then ["completedRelativePath", "topLevelTargetRelativePath"] else [])

def stableError (object : QJsonObject) (schemaVersion : Int) (status : HistoryStatus)
    (errorCode : Int) : Option TransferErrorCode :=
  if status = .failed then
    if schemaVersion = 1 then
      if ¬ object.isString "errorMessageKey" ∨ object.text "errorMessageKey" = [] then none
      else some .internalError
    else TransferErrorCode.ofNat? errorCode.toNat
  else if errorCode ≠ 0 then none
  else some .none

def guardSome (condition : Prop) [Decidable condition] : Option Unit :=
  if condition then some () else none

def decodeRecord (fromJson : QJsonParser) (line : QByteArray) : Option TransferHistoryRecord := do
  let object ← fromJson line
  let schemaVersion ← integerField object "schemaVersion"
  guardSome (schemaVersion = 1 ∨ schemaVersion = 2 ∨ schemaVersion = 3)
  let required := requiredNames schemaVersion
  guardSome (object.length = required.length ∧
    required.all fun name => QJsonObject.contains object name)
  guardSome (schemaVersion = 3 → QJsonObject.isString object "completedRelativePath" ∧
    QJsonObject.isString object "topLevelTargetRelativePath")
  let fileCount ← integerField object "fileCount"
  let totalBytes ← integerField object "totalBytes"
  let startedAt ← integerField object "startedAtMs"
  let finishedAt ← integerField object "finishedAtMs"
  let errorCode ← integerField object "errorCode"
  guardSome (0 ≤ fileCount ∧ 0 ≤ totalBytes ∧ 0 < startedAt ∧ 0 < finishedAt ∧ 0 ≤ errorCode ∧
    errorCode ≤ quint32Max)
  let transferId ← TransferId.fromString (QJsonObject.text object "transferId")
  let peerDeviceId ← DeviceId.fromString (QJsonObject.text object "peerDeviceId")
  let direction ← parseDirection (QJsonObject.text object "direction")
  let status ← parseStatus (QJsonObject.text object "status")
  let errorCode ← stableError object schemaVersion status errorCode
  let record : TransferHistoryRecord := {
    transferId, peerDeviceId
    peerDisplayName := QJsonObject.text object "peerDisplayName"
    displayName := QJsonObject.text object "displayName"
    direction
    fileCount := fileCount.toNat
    totalBytes := totalBytes.toNat
    startedUtc := ⟨some startedAt⟩
    finishedUtc := ⟨some finishedAt⟩
    status, errorCode
    completedRelativePath := QJsonObject.text object "completedRelativePath"
    topLevelTargetRelativePath := QJsonObject.text object "topLevelTargetRelativePath" }
  guardSome (validRecord qt record)
  return record

def newestFirst (left right : TransferHistoryRecord) : Bool :=
  if left.finishedUtc.toMSecsSinceEpoch ≠ right.finishedUtc.toMSecsSinceEpoch then
    left.finishedUtc.toMSecsSinceEpoch > right.finishedUtc.toMSecsSinceEpoch
  else left.transferId.toBytes < right.transferId.toBytes

/-- Days before a time; a time that 64 bits do not hold is invalid. -/
def daysBefore (now : QDateTime) (days : Nat) : QDateTime :=
  match now.msecs with
  | none => {}
  | some msecs =>
    let shifted := msecs - days * 86400000
    if -2 ^ 63 ≤ shifted ∧ shifted < 2 ^ 63 then ⟨some shifted⟩ else {}

/-- Whether a row is not too old. Without a valid cutoff none is. -/
def isFresh (limits : TransferHistoryLimits) (now : QDateTime)
    (record : TransferHistoryRecord) : Bool :=
  let cutoff := daysBefore now limits.maximumAgeDays
  !(cutoff.isValid && record.finishedUtc.toMSecsSinceEpoch < cutoff.toMSecsSinceEpoch)

variable (sort : StdSort newestFirst)

def pruneRecords (records : List TransferHistoryRecord) (limits : TransferHistoryLimits)
    (now : QDateTime) : List TransferHistoryRecord :=
  let records := sort.sort (records.filter (isFresh limits now))
  (StdUnique.unique (·.transferId) records).take limits.maximumEntries

def loadLine (fromJson : QJsonParser) (limits : TransferHistoryLimits) (index : Nat)
    (line : QByteArray) : List TransferHistoryRecord × List TransferHistoryIssue :=
  let line := if line.getLast? = some 0x0d then line.dropLast else line
  if line = [] then ([], [])
  else if line.length > limits.maximumLineBytes then
    ([], [{ line := index + 1, diagnostic := "history row exceeds the limit" }])
  else
    match decodeRecord qt fromJson line with
    | none => ([], [{ line := index + 1, diagnostic := "history row is invalid" }])
    | some record => ([record], [])

def loadLines (fromJson : QJsonParser) (limits : TransferHistoryLimits) :
    Nat → List QByteArray → List TransferHistoryRecord × List TransferHistoryIssue
  | _, [] => ([], [])
  | index, line :: lines =>
    let loaded := loadLine qt fromJson limits index line
    let later := loadLines fromJson limits (index + 1) lines
    (loaded.1 ++ later.1, loaded.2 ++ later.2)

def encodeRecords (limits : TransferHistoryLimits) :
    QByteArray → List TransferHistoryRecord → TransferHistoryResult QByteArray
  | contents, [] => .ok contents
  | contents, record :: records => do
    let line := encodeRecord record
    require (line.length ≤ limits.maximumLineBytes)
      (.invalidRecord, "encoded history row is too large")
    require (contents.length + line.length + 1 ≤ limits.maximumFileBytes)
      (.fileTooLarge, "encoded history exceeds the limit")
    encodeRecords limits (contents ++ line ++ [0x0a]) records

end TransferHistoryStore

/-- What an operation meets on the disk: no fault, or the step that fails. -/
abbrev HistoryFault := Option (TransferHistoryError × String)

/-- The history file, if there is one, with the settings of the store. -/
structure TransferHistoryStore where
  pathIsAbsolute : Bool := true
  limits : TransferHistoryLimits := {}
  contents : Option QByteArray
  deriving DecidableEq

namespace TransferHistoryStore

variable (qt : QtText) (fromJson : QJsonParser) (sort : StdSort newestFirst)

def loadAll (store : TransferHistoryStore) (fault : HistoryFault) :
    TransferHistoryResult (List TransferHistoryRecord × List TransferHistoryIssue) :=
  match store.contents with
  | none => .ok ([], [])
  | some contents => do
    require (store.limits.maximumFileBytes ≠ 0 ∧
        contents.length ≤ store.limits.maximumFileBytes)
      (.fileTooLarge, "history file exceeds the configured limit")
    match fault with
    | some failure => .error failure
    | none => .ok (loadLines qt fromJson store.limits 0 (contents.splitOn 0x0a))

def writeAll (store : TransferHistoryStore) (records : List TransferHistoryRecord)
    (fault : HistoryFault) : TransferHistoryResult TransferHistoryStore := do
  let contents ← encodeRecords store.limits [] records
  match fault with
  | some failure => .error failure
  | none => .ok { store with contents := some contents }

def append (store : TransferHistoryStore) (record : TransferHistoryRecord) (now : QDateTime)
    (readFault writeFault : HistoryFault) : TransferHistoryResult TransferHistoryStore := do
  require store.pathIsAbsolute (.invalidStorePath, "history path must be absolute")
  require (validLimits store.limits) (.invalidLimits, "history limits are invalid")
  require (validRecord qt record) (.invalidRecord, "history record is invalid")
  let loaded ← store.loadAll qt fromJson readFault
  let records := loaded.1.filter (fun earlier => earlier.transferId ≠ record.transferId) ++ [record]
  store.writeAll (pruneRecords sort records store.limits now) writeFault

def compact (store : TransferHistoryStore) (now : QDateTime)
    (readFault writeFault : HistoryFault) : TransferHistoryResult TransferHistoryStore := do
  require store.pathIsAbsolute (.invalidStorePath, "history path must be absolute")
  require (validLimits store.limits) (.invalidLimits, "history limits are invalid")
  if store.contents = none then return store
  let loaded ← store.loadAll qt fromJson readFault
  store.writeAll (pruneRecords sort loaded.1 store.limits now) writeFault

def page (store : TransferHistoryStore) (offset limit : Int) (now : QDateTime)
    (readFault : HistoryFault) : TransferHistoryResult TransferHistoryPage := do
  require store.pathIsAbsolute (.invalidStorePath, "history path must be absolute")
  require (validLimits store.limits ∧ 0 ≤ offset ∧ 0 < limit ∧
      limit ≤ store.limits.maximumEntries)
    (.invalidLimits, "history limits or page range are invalid")
  let loaded ← store.loadAll qt fromJson readFault
  let records := pruneRecords sort loaded.1 store.limits now
  let first := min offset.toNat records.length
  let last := min records.length (first + limit.toNat)
  return {
    records := (records.drop first).take (last - first)
    issues := loaded.2
    totalValidEntries := records.length }

end TransferHistoryStore

end DeskflowPlus.Transfer
