import DeskflowPlus.Lib.Checks
import DeskflowPlus.Transfer.QStringUtf8
import DeskflowPlus.Transfer.TransferTypes

/-!
# The pages of a manifest

A sender plans how its manifest is cut into pages, and encodes each page as one CBOR map. The plan
checks every entry, the order and the uniqueness of paths and identifiers, the sizes, the summary
and its digest; the digest is over the canonical form of the entries, which is hashed as it is
built.
-/

namespace DeskflowPlus.Transfer

open Checks

def kMaxManifestPageMetadataBytes : Nat := 1 * 1024 * 1024
def kMaxManifestEntriesPerPage : Nat := 100000
def kMaxManifestPageCount : Nat := 100000
def kMaxPagedManifestEntries : Nat := 100000
def kMaxPagedManifestMetadataBytes : Nat := 64 * 1024 * 1024

structure ManifestPagingLimits where
  maxPageMetadataBytes : Nat := 1 * 1024 * 1024
  maxEntriesPerPage : Nat := 4096
  maxPages : Nat := 100000
  maxEntries : Nat := 100000
  maxManifestMetadataBytes : Nat := 64 * 1024 * 1024
  pathLimits : PathLimits := {}

structure ManifestPage where
  transferId : TransferId
  pageIndex : Nat := 0
  pageCount : Nat := 0
  entries : List ManifestEntry

structure ManifestComplete where
  transferId : TransferId
  canonicalSha256 : QByteArray

inductive ManifestPageError where
  | unsupportedVersion
  | invalidLimits
  | emptyManifest
  | tooManyEntries
  | tooManyPages
  | entryTooLarge
  | pageMetadataTooLarge
  | manifestMetadataTooLarge
  | invalidManifestOrder
  | invalidManifestEntry
  | malformedCbor
  | metadataNotMap
  | nonIntegerKey
  | missingField
  | invalidFieldType
  | invalidFieldValue
  | transferMismatch
  | pageCountMismatch
  | duplicatePage
  | outOfOrderPage
  | missingPage
  | entryCountMismatch
  | digestMismatch
  | protocolPathCollision
  | duplicateFileId
  | alreadyComplete
  deriving DecidableEq

namespace ManifestPageCodec

abbrev Result (α : Type) := Except (ManifestPageError × String) α

def kMaxWireInteger : Nat := 2 ^ 63 - 1

def limitsAreValid (limits : ManifestPagingLimits) : Bool :=
  limits.maxPageMetadataBytes > 0 ∧
    limits.maxPageMetadataBytes ≤ kMaxManifestPageMetadataBytes ∧
    limits.maxEntriesPerPage > 0 ∧ limits.maxEntriesPerPage ≤ kMaxManifestEntriesPerPage ∧
    limits.maxPages > 0 ∧ limits.maxPages ≤ kMaxManifestPageCount ∧
    limits.maxEntries > 0 ∧ limits.maxEntries ≤ kMaxPagedManifestEntries ∧
    limits.maxManifestMetadataBytes > 0 ∧
    limits.maxManifestMetadataBytes ≤ kMaxPagedManifestMetadataBytes

def isWireInteger (value : Nat) : Bool := value ≤ kMaxWireInteger

def unsignedCborBytes (value : Nat) : Nat :=
  if value < 24 then 1
  else if value ≤ 2 ^ 8 - 1 then 2
  else if value ≤ 2 ^ 16 - 1 then 3
  else if value ≤ 2 ^ 32 - 1 then 5
  else 9

def arrayHeader (count : Nat) : QByteArray :=
  if count < 24 then [UInt8.ofNat (0x80 + count)]
  else if count ≤ 2 ^ 8 - 1 then 0x98 :: BigEndian.encode 1 count
  else if count ≤ 2 ^ 16 - 1 then 0x99 :: BigEndian.encode 2 count
  else if count ≤ 2 ^ 32 - 1 then 0x9a :: BigEndian.encode 4 count
  else 0x9b :: BigEndian.encode 8 count

def insertUnsigned (field value : Nat) : QCborValue × QCborValue :=
  (.integer field, .integer value)

def typeValue : ManifestEntryType → Nat
  | .file => 0
  | .directory => 1

def entryMap (entry : ManifestEntry) : QCborMap :=
  [(.integer 1, .bytes entry.id.toBytes), (.integer 2, .text entry.relativeProtocolPath.toUtf8),
    insertUnsigned 3 (typeValue entry.type), insertUnsigned 4 entry.size,
    (.integer 5, .integer entry.modifiedUtc.toMSecsSinceEpoch), (.integer 6, .bytes entry.sha256),
    insertUnsigned 7 entry.flags.toNat]

def canonicalEntryBytes (entry : ManifestEntry) : QByteArray := QCborMap.toCbor (entryMap entry)

def entryLess (left right : ManifestEntry) : Bool :=
  let leftPath := left.relativeProtocolPath.toUtf8
  let rightPath := right.relativeProtocolPath.toUtf8
  if leftPath ≠ rightPath then leftPath < rightPath
  else if left.type ≠ right.type then typeValue left.type < typeValue right.type
  else left.id.toBytes < right.id.toBytes

def follows (previous : Option ManifestEntry) (entry : ManifestEntry) : Bool :=
  previous.all (entryLess · entry)

variable (qt : QtText)

def validateEntry (entry : ManifestEntry) (pathLimits : PathLimits) : Result Unit := do
  let path := PathPolicy.validateRelative qt entry.relativeProtocolPath pathLimits
  require (path.ok ∧ path.normalized = entry.relativeProtocolPath) (.invalidManifestEntry,
    "manifest path must already be a safe normalized RDFT/1 path")
  let modified := entry.modifiedUtc.toMSecsSinceEpoch
  require (entry.modifiedUtc.isValid ∧ isWireInteger entry.size ∧ 0 ≤ modified ∧
      isWireInteger modified.toNat) (.invalidManifestEntry,
    "manifest numeric field exceeds the Qt CBOR integer range")
  if entry.type = .directory then
    require (entry.size = 0 ∧ entry.sha256 = []) (.invalidManifestEntry,
      "directory entries must have zero size and no SHA-256")
  else
    require (entry.sha256 = [] ∨ entry.sha256.length = kSha256Bytes) (.invalidManifestEntry,
      "file SHA-256 must be absent or contain 32 bytes")

def collisionKey (entry : ManifestEntry) (pathLimits : PathLimits) : QString :=
  (PathPolicy.validateRelative qt entry.relativeProtocolPath pathLimits).collisionKey

/-- The map around the entries of a page. -/
def pageEnvelopeBytes (pageIndex pageCount entryCount : Nat) : Nat :=
  1 + 18 + 1 + unsignedCborBytes pageIndex + 1 + unsignedCborBytes pageCount + 1 +
    (arrayHeader entryCount).length

def pageForRange (manifest : TransferManifest) (plan : ManifestPagePlan) (pageIndex : Nat) :
    ManifestPage :=
  let range := plan.ranges[pageIndex]?.getD {}
  { transferId := plan.transferId
    pageIndex
    pageCount := plan.pageCount
    entries := ((manifest.entries.drop range.firstEntry).take range.entryCount).map
      PreparedManifestEntry.entry }

/-- The ranges follow one another from here to the end. -/
def rangesMatch (entryCount maxEntriesPerPage : Nat) : Nat → List ManifestPageRange → Bool
  | expectedFirst, [] => expectedFirst = entryCount
  | expectedFirst, range :: ranges =>
    range.firstEntry = expectedFirst ∧ 0 < range.entryCount ∧
      range.entryCount ≤ maxEntriesPerPage ∧ range.entryCount ≤ entryCount - expectedFirst ∧
      rangesMatch entryCount maxEntriesPerPage (expectedFirst + range.entryCount) ranges

def planMatchesManifest (manifest : TransferManifest) (plan : ManifestPagePlan)
    (limits : ManifestPagingLimits) : Bool :=
  plan.transferId = manifest.summary.id ∧ plan.ranges ≠ [] ∧ plan.pageCount ≤ limits.maxPages ∧
    plan.entryCount = manifest.entries.length ∧
    rangesMatch manifest.entries.length limits.maxEntriesPerPage 0 plan.ranges

def pageMap (page : ManifestPage) : QCborMap :=
  [(.integer 1, .bytes page.transferId.toBytes), insertUnsigned 2 page.pageIndex,
    insertUnsigned 3 page.pageCount,
    (.integer 4, .array (page.entries.map fun entry => .map (entryMap entry)))]

def validateEntries (pathLimits : PathLimits) : List ManifestEntry → Result Unit
  | [] => .ok ()
  | entry :: entries => do
    validateEntry qt entry pathLimits
    validateEntries pathLimits entries

def encode (page : ManifestPage) (limits : ManifestPagingLimits) : Except String QByteArray := do
  require (limitsAreValid limits) "manifest paging limits exceed RDFT/1"
  require (page.pageCount ≠ 0 ∧ page.pageCount ≤ limits.maxPages ∧ page.pageIndex < page.pageCount)
    "manifest page identity or index is invalid"
  require (page.entries.length ≤ limits.maxEntriesPerPage) "manifest page entry limit exceeded"
  (validateEntries qt limits.pathLimits page.entries).mapError Prod.snd
  let encoded := QCborMap.toCbor (pageMap page)
  require (encoded.length ≤ limits.maxPageMetadataBytes) "manifest page metadata limit exceeded"
  return encoded

def encodePage (manifest : TransferManifest) (plan : ManifestPagePlan) (pageIndex : Nat)
    (limits : ManifestPagingLimits) : Except String QByteArray := do
  require (limitsAreValid limits ∧ planMatchesManifest manifest plan limits ∧
      pageIndex < plan.pageCount) "manifest page plan does not match the requested page"
  encode qt (pageForRange manifest plan pageIndex) limits

def mapKeysAreIntegers (map : QCborMap) : Bool :=
  map.all fun entry => entry.1.isInteger.any (0 ≤ ·)

def missingField (field : Nat) : ManifestPageError × String :=
  (.missingField, s!"required field {field} is missing")

def invalidType (field : Nat) (expected : String) : ManifestPageError × String :=
  (.invalidFieldType, s!"field {field} must be {expected}")

def invalidValue (field : Nat) (reason : String) : ManifestPageError × String :=
  (.invalidFieldValue, s!"field {field} is invalid: {reason}")

def requiredValue (map : QCborMap) (field : Nat) : Result QCborValue :=
  present (map.value field) (missingField field)

def readUnsigned (map : QCborMap) (field : Nat) : Result Nat := do
  let value ← requiredValue map field
  let integer ← present value.isInteger (invalidType field "an unsigned integer")
  require (0 ≤ integer) (invalidValue field "integer must not be negative")
  return integer.toNat

def readUuid {α : Type} (fromBytes : QByteArray → Option α) (map : QCborMap) (field : Nat) :
    Result α := do
  let value ← requiredValue map field
  let bytes ← present value.isByteArray (invalidType field "a 16-byte UUID byte string")
  present (fromBytes bytes) (invalidValue field "UUID must contain 16 non-null bytes")

def typeOfValue? (value : Nat) : Option ManifestEntryType :=
  if value = 0 then some .file else if value = 1 then some .directory else none

def readOptionalBytes (map : QCborMap) (field : Nat) : Result QByteArray :=
  match map.value field with
  | none => .ok []
  | some value => present value.isByteArray (invalidType field "a byte string")

def readFlags (map : QCborMap) : Result UInt32 :=
  if map.contains 7 then do
    let flags ← readUnsigned map 7
    require (flags ≤ 2 ^ 32 - 1) (invalidValue 7 "flags exceed uint32")
    return UInt32.ofNat flags
  else .ok 0

def decodeEntry (value : QCborValue) (limits : ManifestPagingLimits) : Result ManifestEntry := do
  let map ← present value.isMap (.invalidFieldType, "manifest entry must be a CBOR map")
  require (mapKeysAreIntegers map)
    (.nonIntegerKey, "manifest entry keys must be non-negative integers")
  let id ← readUuid FileId.fromBytes map 1
  let path ← requiredValue map 2
  let relativeProtocolPath ← present path.isString (invalidType 2 "a UTF-8 text string")
  let type ← readUnsigned map 3
  let size ← readUnsigned map 4
  let modifiedAtMs ← readUnsigned map 5
  let type ← present (typeOfValue? type) (invalidValue 3 "entry type is not defined by RDFT/1")
  let sha256 ← readOptionalBytes map 6
  let flags ← readFlags map
  let entry : ManifestEntry :=
    { id, relativeProtocolPath, type, size, modifiedUtc := ⟨some modifiedAtMs⟩, sha256, flags }
  validateEntry qt entry limits.pathLimits
  return entry

def decodeEntries (limits : ManifestPagingLimits) : List QCborValue → Result (List ManifestEntry)
  | [] => .ok []
  | value :: values => do
    let entry ← decodeEntry qt value limits
    let entries ← decodeEntries limits values
    return entry :: entries

def decodeMap (map : QCborMap) (limits : ManifestPagingLimits) : Result ManifestPage := do
  require (mapKeysAreIntegers map)
    (.nonIntegerKey, "manifest page keys must be non-negative integers")
  let transferId ← readUuid TransferId.fromBytes map 1
  let pageIndex ← readUnsigned map 2
  let pageCount ← readUnsigned map 3
  require (pageCount ≠ 0 ∧ pageCount ≤ limits.maxPages)
    (invalidValue 3 "page count is zero or exceeds the local limit")
  require (pageIndex < pageCount) (invalidValue 2 "page index must be less than page count")
  let entriesValue ← requiredValue map 4
  let values ← present entriesValue.isArray (invalidType 4 "an array of manifest entries")
  require (values.length ≤ limits.maxEntriesPerPage ∧ values.length ≤ limits.maxEntries)
    (invalidValue 4 "page entry count exceeds the local limit")
  let entries ← decodeEntries qt limits values
  return { transferId, pageIndex, pageCount, entries }

def decode (protocolVersion : UInt16) (metadata : QByteArray) (limits : ManifestPagingLimits) :
    Result ManifestPage := do
  require (protocolVersion = kProtocolMajorVersion)
    (.unsupportedVersion, "unsupported RDFT protocol version")
  require (limitsAreValid limits) (.invalidLimits, "manifest paging limits exceed RDFT/1")
  require (metadata ≠ []) (.malformedCbor, "manifest page metadata is empty")
  require (metadata.length ≤ limits.maxPageMetadataBytes)
    (.pageMetadataTooLarge, "manifest page metadata limit exceeded")
  let value ← present (Cbor.decode metadata)
    (.malformedCbor, "malformed or trailing CBOR metadata")
  let map ← present (QCborValue.isMap value)
    (.metadataNotMap, "manifest page must be one CBOR map")
  decodeMap qt map limits

variable (sha : Sha256)

def canonicalFrom (added : QByteArray) (previous : Option ManifestEntry) :
    List ManifestEntry → Except String QByteArray
  | [] => .ok added
  | entry :: entries => do
    (validateEntry qt entry {}).mapError Prod.snd
    require (follows previous entry) "canonical manifest entries are not strictly sorted"
    canonicalFrom (added ++ canonicalEntryBytes entry) (some entry) entries

def canonicalSha256 (entries : List ManifestEntry) : Except String QByteArray := do
  let added ← canonicalFrom qt (arrayHeader entries.length) none entries
  return sha.hash added

/-- What the plan has gathered from the entries it has gone through. -/
structure PlanScan where
  encodedEntrySizes : List Nat := []
  previous : Option ManifestEntry := none
  canonicalBytes : Nat
  hashed : QByteArray
  collisionKeys : List QString := []
  fileIds : List QByteArray := []
  fileCount : Nat := 0
  directoryCount : Nat := 0
  totalBytes : Nat := 0

def countEntry (entry : ManifestEntry) (scan : PlanScan) : Result PlanScan :=
  if entry.type = .file then do
    require (entry.size ≤ quint64Max - scan.totalBytes)
      (.invalidManifestEntry, "manifest total byte count overflows uint64")
    return { scan with
      fileCount := scan.fileCount + 1, totalBytes := scan.totalBytes + entry.size }
  else .ok { scan with directoryCount := scan.directoryCount + 1 }

def scanEntry (limits : ManifestPagingLimits) (scan : PlanScan) (prepared : PreparedManifestEntry) :
    Result PlanScan := do
  let entry := prepared.entry
  validateEntry qt entry limits.pathLimits
  require (follows scan.previous entry) (.invalidManifestOrder,
    "manifest entries must be strictly sorted by UTF-8 path, type, and fileId")
  let key := collisionKey qt entry limits.pathLimits
  require (key ∉ scan.collisionKeys)
    (.protocolPathCollision, "manifest contains a portable path collision")
  require (entry.id.toBytes ∉ scan.fileIds)
    (.duplicateFileId, "manifest contains a duplicate fileId")
  let scan := { scan with
    collisionKeys := scan.collisionKeys ++ [key], fileIds := scan.fileIds ++ [entry.id.toBytes] }
  let scan ← countEntry entry scan
  let encoded := canonicalEntryBytes entry
  require (encoded.length ≤ limits.maxPageMetadataBytes)
    (.entryTooLarge, "one manifest entry cannot fit in a page")
  require (encoded.length ≤ quint64Max - scan.canonicalBytes)
    (.manifestMetadataTooLarge, "canonical manifest size overflow")
  return { scan with
    encodedEntrySizes := scan.encodedEntrySizes ++ [encoded.length], previous := some entry
    canonicalBytes := scan.canonicalBytes + encoded.length, hashed := scan.hashed ++ encoded }

def fitEntries (limits : ManifestPagingLimits) : List Nat → Nat → Nat → Nat
  | [], count, _ => count
  | nextBytes :: sizes, count, entryBytes =>
    let envelope := pageEnvelopeBytes (limits.maxPages - 1) limits.maxPages (count + 1)
    if count ≥ limits.maxEntriesPerPage then count
    else if nextBytes > quint64Max - entryBytes ∨ envelope > limits.maxPageMetadataBytes ∨
        entryBytes + nextBytes > limits.maxPageMetadataBytes - envelope then count
    else fitEntries limits sizes (count + 1) (entryBytes + nextBytes)

/-- Cut what is left into pages; every page takes an entry, so one turn for each is enough. -/
def planRanges (limits : ManifestPagingLimits) :
    Nat → Nat → List Nat → List ManifestPageRange → Result (List ManifestPageRange)
  | 0, _, _, ranges => .ok ranges
  | fuel + 1, first, sizes, ranges =>
    if sizes = [] then .ok ranges
    else do
      let count := fitEntries limits sizes 0 0
      require (count ≠ 0) (.entryTooLarge, "one manifest entry cannot fit in a page")
      require (ranges.length < limits.maxPages)
        (.tooManyPages, "manifest page count limit exceeded")
      planRanges limits fuel (first + count) (sizes.drop count)
        (ranges ++ [{ firstEntry := first, entryCount := count }])

def pageBytes (manifest : TransferManifest) (plan : ManifestPagePlan)
    (limits : ManifestPagingLimits) : List Nat → Nat → Result Nat
  | [], totalMetadataBytes => .ok totalMetadataBytes
  | index :: indices, totalMetadataBytes => do
    let encoded ← (encode qt (pageForRange manifest plan index) limits).mapError
      fun error => (.pageMetadataTooLarge, error)
    require (encoded.length ≤ quint64Max - totalMetadataBytes ∧
        totalMetadataBytes + encoded.length ≤ limits.maxManifestMetadataBytes)
      (.manifestMetadataTooLarge, "paged manifest metadata limit exceeded")
    pageBytes manifest plan limits indices (totalMetadataBytes + encoded.length)

def plan (manifest : TransferManifest) (limits : ManifestPagingLimits) :
    Result ManifestPagePlan := do
  require (limitsAreValid limits) (.invalidLimits, "manifest paging limits exceed RDFT/1")
  require (manifest.entries ≠ []) (.emptyManifest, "manifest must contain at least one entry")
  require (manifest.entries.length ≤ limits.maxEntries)
    (.tooManyEntries, "manifest entry limit exceeded")
  let header := arrayHeader manifest.entries.length
  let scan ← manifest.entries.foldlM (scanEntry qt limits)
    { canonicalBytes := header.length, hashed := header }
  require (scan.canonicalBytes ≤ limits.maxManifestMetadataBytes)
    (.manifestMetadataTooLarge, "canonical manifest metadata limit exceeded")
  require (manifest.summary.fileCount = scan.fileCount ∧
      manifest.summary.directoryCount = scan.directoryCount ∧
      manifest.summary.totalBytes = scan.totalBytes)
    (.invalidManifestEntry, "manifest summary counts do not match its entries")
  let ranges ← planRanges limits scan.encodedEntrySizes.length 0 scan.encodedEntrySizes []
  let output : ManifestPagePlan :=
    { transferId := manifest.summary.id, ranges, entryCount := manifest.entries.length }
  let totalMetadataBytes ← pageBytes qt manifest output limits (List.range output.pageCount) 0
  require (sha.hash scan.hashed = manifest.summary.canonicalSha256)
    (.digestMismatch, "manifest summary digest does not match its entries")
  return { output with totalMetadataBytes }

end ManifestPageCodec

end DeskflowPlus.Transfer
