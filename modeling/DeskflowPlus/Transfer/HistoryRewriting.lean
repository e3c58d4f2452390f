import DeskflowPlus.Transfer.HistoryListing
import DeskflowPlus.Transfer.QStringUtf8

/-!
# Writing rows again

Rows of three schemas are read, and all of them are written in the third. A row of an older schema
grows by the two members it lacks, and any row may have been spelled shorter than it is written. One
row that no longer fits a line fails the writing of all of them.
-/

namespace DeskflowPlus.Transfer

namespace QJson

/-- A character that JSON writes as it is. -/
def isPlain (unit : UInt16) : Bool :=
  0x20 ≤ unit && unit < 0x7f && unit ≠ 0x22 && unit ≠ 0x5c

theorem length_escapedUnit_of_plain {unit : UInt16} (h : isPlain unit = true) :
    (escapedUnit unit).length = 1 := by
  have hall : ∀ value : Fin 0x7f, isPlain (UInt16.ofNat value) = true →
      (escapedUnit (UInt16.ofNat value)).length = 1 := by decide
  have hbound : unit.toNat < 0x7f := by
    unfold isPlain at h
    rw [Bool.and_eq_true, Bool.and_eq_true, Bool.and_eq_true, decide_eq_true_iff,
      decide_eq_true_iff] at h
    exact UInt16.lt_iff_toNat_lt.mp h.1.1.2
  have hunit := hall ⟨unit.toNat, hbound⟩
  rw [UInt16.ofNat_toNat] at hunit
  exact hunit h

theorem not_isHighSurrogate_of_plain {unit : UInt16} (h : isPlain unit = true) :
    QString.isHighSurrogate unit = false := by
  rw [← Bool.not_eq_true, QString.isHighSurrogate_iff]
  unfold isPlain at h
  rw [Bool.and_eq_true, Bool.and_eq_true, Bool.and_eq_true, decide_eq_true_iff,
    decide_eq_true_iff] at h
  have hbound : unit.toNat < 0x7f := UInt16.lt_iff_toNat_lt.mp h.1.1.2
  omega

theorem length_escapedString_of_plain {text : QString} (h : ∀ unit ∈ text, isPlain unit = true) :
    (escapedString text).length = text.length := by
  fun_induction escapedString text with
  | case1 => rfl
  | case2 unit => exact length_escapedUnit_of_plain (h unit List.mem_cons_self)
  | case3 unit next rest hpair ih =>
    rw [not_isHighSurrogate_of_plain (h unit List.mem_cons_self)] at hpair
    cases hpair
  | case4 unit next rest hpair ih =>
    rw [List.length_append, length_escapedUnit_of_plain (h unit List.mem_cons_self),
      ih fun unit hunit => h unit (List.mem_cons_of_mem _ hunit)]
    exact Nat.add_comm _ _

theorem length_intercalate_singleton {α : Type*} (separator : α) (parts : List (List α)) :
    ([separator].intercalate parts).length + 1 =
      (parts.map List.length).sum + max parts.length 1 := by
  induction parts with
  | nil => rfl
  | cons part parts ih =>
    cases parts with
    | nil => simp [List.intercalate]
    | cons next parts =>
      have hstep : [separator].intercalate (part :: next :: parts) =
          part ++ separator :: [separator].intercalate (next :: parts) := by
        simp [List.intercalate]
      rw [hstep, List.length_append, List.length_cons, List.map_cons, List.sum_cons]
      simp only [List.length_cons] at ih ⊢
      omega

theorem length_member (name : String) (value : Scalar) :
    (member name value).length = (ascii name).length + 3 + (scalar value).length := by
  unfold member
  rw [List.length_cons, List.length_append, List.length_cons, List.length_cons]
  omega

theorem length_toJson {members : List (String × Scalar)} (h : members ≠ []) :
    (toJson members).length = (members.map fun entry => (ascii entry.1).length).sum +
      (members.map fun entry => (scalar entry.2).length).sum + 4 * members.length + 1 := by
  have hlength := length_intercalate_singleton (0x2c : UInt8)
    (members.map fun entry => member entry.1 entry.2)
  have hmembers : ((members.map fun entry => member entry.1 entry.2).map List.length).sum =
      (members.map fun entry => (ascii entry.1).length).sum +
        (members.map fun entry => (scalar entry.2).length).sum + 3 * members.length := by
    clear hlength h
    induction members with
    | nil => rfl
    | cons entry members ih =>
      simp only [List.map_cons, List.sum_cons, List.length_cons, length_member] at ih ⊢
      omega
  have hcount := List.length_pos_of_ne_nil h
  unfold toJson
  rw [List.length_cons, List.length_append, List.length_singleton]
  rw [List.length_map] at hlength
  omega

theorem length_quoted (text : QString) :
    (quoted text).length = (escapedString text).length + 2 := by
  unfold quoted
  rw [List.length_cons, List.length_append, List.length_singleton]

end QJson

theorem isPlain_of_mem_uuidToString {value : BitVec 128} {unit : UInt16}
    (h : unit ∈ uuidToString value) : QJson.isPlain unit = true := by
  rw [DeviceId.uuidToString_eq] at h
  rcases PathSegments.mem_of_mem_intercalate h with hdash | ⟨group, hgroup, hunit⟩
  · rw [hdash]
    decide
  · obtain ⟨bytes, -, rfl⟩ := List.mem_map.mp hgroup
    obtain ⟨byte, -, hdigit⟩ := List.mem_flatMap.mp hunit
    have hall : ∀ digit : Fin 16, QJson.isPlain (QString.hexDigit digit) = true := by decide
    have hbyte := byte.toNat_lt
    rcases List.mem_cons.mp hdigit with rfl | hlow
    · exact hall ⟨byte.toNat / 16, by omega⟩
    · rw [List.mem_singleton.mp hlow]
      exact hall ⟨byte.toNat % 16, by omega⟩

theorem length_uuidToString (value : BitVec 128) : (uuidToString value).length = 36 := by
  have hlength : (toRfc4122 value).length = 16 := BigEndian.encode_length ..
  rw [DeviceId.uuidToString_eq]
  simp [DeviceId.groupBytes, List.intercalate, QString.hex_length, hlength]

theorem length_scalar_uuid (value : BitVec 128) :
    (QJson.scalar (.string (uuidToString value))).length = 38 := by
  show (QJson.quoted (uuidToString value)).length = 38
  rw [QJson.length_quoted,
    QJson.length_escapedString_of_plain fun _ => isPlain_of_mem_uuidToString, length_uuidToString]

namespace TransferHistoryStore

/-- The bytes of a row as it is written: its texts, its numbers, and what is the same in all. -/
def rowLength (record : TransferHistoryRecord) : Nat :=
  320 + (directionName record.direction).length + (statusName record.status).length +
    (QJson.escapedString record.peerDisplayName).length +
    (QJson.escapedString record.displayName).length +
    (QJson.escapedString record.completedRelativePath).length +
    (QJson.escapedString record.topLevelTargetRelativePath).length +
    (QJson.decimal record.errorCode.toNat).length + (QJson.decimal record.fileCount).length +
    (QJson.decimal record.totalBytes).length +
    (QJson.decimal record.startedUtc.toMSecsSinceEpoch.toNat).length +
    (QJson.decimal record.finishedUtc.toMSecsSinceEpoch.toNat).length

theorem length_names :
    ((requiredNames 3).map fun name => (QJson.ascii name).length).sum = 174 := by decide

theorem length_encodeRecord (record : TransferHistoryRecord) :
    (encodeRecord record).length = rowLength record := by
  have hdirection : (QJson.escapedString (directionName record.direction)).length =
      (directionName record.direction).length := by
    cases record.direction <;> rfl
  have hstatus : (QJson.escapedString (statusName record.status)).length =
      (statusName record.status).length := by
    cases record.status <;> rfl
  have hversion : (QJson.decimal kTransferHistorySchemaVersion).length = 1 := rfl
  have hpeer : (QJson.scalar (.string record.peerDeviceId.toString)).length = 38 :=
    length_scalar_uuid _
  have htransfer : (QJson.scalar (.string record.transferId.toString)).length = 38 :=
    length_scalar_uuid _
  unfold encodeRecord rowLength
  rw [QJson.length_toJson (List.cons_ne_nil _ _)]
  simp only [List.map_cons, List.map_nil, List.sum_cons, List.sum_nil, hpeer, htransfer]
  simp only [QJson.scalar, QJson.length_quoted, hdirection, hstatus, hversion, List.length_cons,
    List.length_nil]
  have hnames := length_names
  simp only [requiredNames, List.map_cons, List.map_nil, List.sum_cons, List.sum_nil,
    List.cons_append, List.nil_append, if_pos, reduceIte, Int.reduceEq] at hnames
  omega

variable {limits : TransferHistoryLimits} {record : TransferHistoryRecord}
  {records : List TransferHistoryRecord} {message : String}

theorem exists_of_encodeRecords_invalid {contents : QByteArray}
    (h : encodeRecords limits contents records = .error (.invalidRecord, message)) :
    ∃ record ∈ records, limits.maximumLineBytes < rowLength record := by
  induction records generalizing contents with
  | nil => cases h
  | cons record records ih =>
    unfold encodeRecords at h
    rcases Checks.bind_eq_error.mp h with hline | ⟨-, -, h⟩
    · obtain ⟨hline, -⟩ := Checks.require_eq_error.mp hline
      rw [length_encodeRecord] at hline
      exact ⟨record, List.mem_cons_self, Nat.lt_of_not_le hline⟩
    · rcases Checks.bind_eq_error.mp h with hfile | ⟨-, -, h⟩
      · obtain ⟨-, heq⟩ := Checks.require_eq_error.mp hfile
        cases heq
      · obtain ⟨record, hmem, hline⟩ := ih h
        exact ⟨record, List.mem_cons_of_mem _ hmem, hline⟩

theorem encodeRecords_of_lt {contents : QByteArray}
    (h : limits.maximumLineBytes < rowLength record) :
    encodeRecords limits contents (record :: records) =
      .error (.invalidRecord, "encoded history row is too large") := by
  unfold encodeRecords
  rw [← length_encodeRecord] at h
  exact Checks.bind_eq_error.mpr (.inl (Checks.require_eq_error.mpr ⟨Nat.not_le_of_lt h, rfl⟩))

variable (qt : QtText) (fromJson : QJsonParser) (sort : StdSort newestFirst)

/-- Rows that the file holds never make a new record invalid, and can be written again. A write
fails with errors of its own. -/
structure Rewrites (store : TransferHistoryStore) (now : QDateTime) : Prop where
  append : ∀ loaded, store.loadAll qt fromJson none = .ok loaded →
    ∀ record, validRecord qt record = true →
      (encodeRecord record).length ≤ store.limits.maximumLineBytes →
      ∀ writeFault : HistoryFault,
        (∀ failure, writeFault = some failure → failure.1 ≠ .invalidRecord) →
        ∀ message, store.append qt fromJson sort record now none writeFault ≠
          .error (.invalidRecord, message)
  row : ∀ loaded, store.loadAll qt fromJson none = .ok loaded → ∀ row ∈ loaded.1,
    ∀ message, encodeRecords store.limits [] [row] ≠ .error (.invalidRecord, message)

variable {qt fromJson sort} {store : TransferHistoryStore} {now : QDateTime}

theorem exists_of_append_invalid {writeFault : HistoryFault}
    (hvalid : validRecord qt record = true)
    (hfault : ∀ failure, writeFault = some failure → failure.1 ≠ .invalidRecord)
    {loaded : List TransferHistoryRecord × List TransferHistoryIssue}
    (hloaded : store.loadAll qt fromJson none = .ok loaded)
    (h : store.append qt fromJson sort record now none writeFault =
      .error (.invalidRecord, message)) :
    ∃ row, (row ∈ loaded.1 ∨ row = record) ∧ store.limits.maximumLineBytes < rowLength row := by
  unfold TransferHistoryStore.append at h
  rcases Checks.bind_eq_error.mp h with hpath | ⟨-, -, h⟩
  · cases (Checks.require_eq_error.mp hpath).2
  rcases Checks.bind_eq_error.mp h with hlimits | ⟨-, -, h⟩
  · cases (Checks.require_eq_error.mp hlimits).2
  rcases Checks.bind_eq_error.mp h with hrecord | ⟨-, -, h⟩
  · exact absurd hvalid (Checks.require_eq_error.mp hrecord).1
  rcases Checks.bind_eq_error.mp h with hload | ⟨value, hvalue, h⟩
  · rw [hloaded] at hload
    cases hload
  obtain rfl : loaded = value := Except.ok.inj (hloaded.symm.trans hvalue)
  unfold TransferHistoryStore.writeAll at h
  rcases Checks.bind_eq_error.mp h with hrows | ⟨contents, -, h⟩
  · obtain ⟨row, hrow, hline⟩ := exists_of_encodeRecords_invalid hrows
    have hmem := mem_of_mem_pruneRecords hrow
    rcases List.mem_append.mp hmem with hold | hnew
    · exact ⟨row, .inl (List.mem_of_mem_filter hold), hline⟩
    · exact ⟨row, .inr (List.mem_singleton.mp hnew), hline⟩
  · cases hcases : writeFault with
    | none =>
      rw [hcases] at h
      cases h
    | some failure =>
      rw [hcases] at h
      obtain rfl := Except.error.inj h
      exact absurd rfl (hfault _ hcases)

/-- Old rows stand in no append's way, and all of them can be written again, exactly if each fits a
line as it is written now. -/
theorem rewrites_iff (qt : QtText) (fromJson : QJsonParser) (sort : StdSort newestFirst)
    (store : TransferHistoryStore) (now : QDateTime) :
    Rewrites qt fromJson sort store now ↔
      ∀ loaded, store.loadAll qt fromJson none = .ok loaded →
        ∀ row ∈ loaded.1, rowLength row ≤ store.limits.maximumLineBytes := by
  refine ⟨fun h loaded hloaded row hrow => ?_, fun h => ⟨?_, ?_⟩⟩
  · by_contra hline
    exact h.row loaded hloaded row hrow _ (encodeRecords_of_lt (Nat.lt_of_not_le hline))
  · intro loaded hloaded record hvalid hfits writeFault hfault message happend
    obtain ⟨row, hrow | rfl, hline⟩ := exists_of_append_invalid hvalid hfault hloaded happend
    · exact Nat.not_le_of_lt hline (h loaded hloaded row hrow)
    · rw [length_encodeRecord] at hfits
      exact Nat.not_le_of_lt hline hfits
  · intro loaded hloaded row hrow message hinvalid
    obtain ⟨other, hother, hline⟩ := exists_of_encodeRecords_invalid hinvalid
    rw [List.mem_singleton.mp hother] at hline
    exact Nat.not_le_of_lt hline (h loaded hloaded row hrow)

def longRow : TransferHistoryRecord :=
  { sampleRow ⟨1, one_nonNull⟩ 4 with displayName := List.replicate 80 0x6e }

/-- The row as the second schema has it, without the two paths. -/
def legacyLine : QByteArray :=
  QJson.toJson [
    ("direction", .string (directionName longRow.direction)),
    ("displayName", .string longRow.displayName),
    ("errorCode", .integer longRow.errorCode.toNat),
    ("fileCount", .integer longRow.fileCount),
    ("finishedAtMs", .integer longRow.finishedUtc.toMSecsSinceEpoch.toNat),
    ("peerDeviceId", .string longRow.peerDeviceId.toString),
    ("peerDisplayName", .string longRow.peerDisplayName),
    ("schemaVersion", .integer 2),
    ("startedAtMs", .integer longRow.startedUtc.toMSecsSinceEpoch.toNat),
    ("status", .string (statusName longRow.status)),
    ("totalBytes", .integer longRow.totalBytes),
    ("transferId", .string longRow.transferId.toString)]

def legacyParser : QJsonParser := fun line =>
  if line = legacyLine then
    some ([("direction", .string (directionName longRow.direction)),
      ("displayName", .string longRow.displayName),
      ("errorCode", .number (some longRow.errorCode.toNat)),
      ("fileCount", .number (some longRow.fileCount)),
      ("finishedAtMs", .number (some longRow.finishedUtc.toMSecsSinceEpoch)),
      ("peerDeviceId", .string longRow.peerDeviceId.toString),
      ("peerDisplayName", .string longRow.peerDisplayName),
      ("schemaVersion", .number (some 2)),
      ("startedAtMs", .number (some longRow.startedUtc.toMSecsSinceEpoch)),
      ("status", .string (statusName longRow.status)),
      ("totalBytes", .number (some longRow.totalBytes)),
      ("transferId", .string longRow.transferId.toString)].map
        fun entry => (QString.literal entry.1, entry.2))
  else none

def legacyStore : TransferHistoryStore where
  limits := { maximumLineBytes := legacyLine.length }
  contents := some (legacyLine ++ [0x0a])

theorem loadAll_legacyStore :
    legacyStore.loadAll QtText.ascii legacyParser none = .ok ([longRow], []) := by
  decide +kernel

theorem append_legacyStore :
    legacyStore.append QtText.ascii legacyParser insertionRows (sampleRow ⟨2, two_nonNull⟩ 3) ⟨some 5⟩
      none none = .error (.invalidRecord, "encoded history row is too large") := by
  decide +kernel

theorem legacyStore_not_rewrites :
    ¬ Rewrites QtText.ascii legacyParser insertionRows legacyStore ⟨some 5⟩ := by
  intro h
  have hfits : (encodeRecord (sampleRow ⟨2, two_nonNull⟩ 3)).length ≤
      legacyStore.limits.maximumLineBytes := by decide +kernel
  exact h.append _ loadAll_legacyStore _ rfl hfits none nofun _ append_legacyStore

end TransferHistoryStore

end DeskflowPlus.Transfer
