import DeskflowPlus.Transfer.ManifestPageReassembler

/-!
# From a plan to the entries at the other end

The pages of a plan cover the manifest, each of them is encoded and decoded back, and a reassembler
with the same limits takes them all. Its last check is the one that is not the planner's: the digest
is computed over entries that are valid under the default path limits, whatever the limits of the
plan.
-/

namespace DeskflowPlus.Transfer.ManifestPageCodec

open Checks

variable {qt : QtText} {sha : Sha256} {limits : ManifestPagingLimits}

theorem encodable_unsigned {field value : Nat} (hfield : field < 2 ^ 63) (hvalue : value < 2 ^ 63) :
    Cbor.EncodableEntry (insertUnsigned field value) := by
  constructor
  · constructor <;> omega
  · constructor <;> omega

theorem encodable_bytes {field : Int} {content : QByteArray}
    (hfield : -2 ^ 64 ≤ field ∧ field < 2 ^ 64) (hcontent : content.length < 2 ^ 64) :
    Cbor.EncodableEntry (.integer field, .bytes content) :=
  ⟨hfield, hcontent⟩

theorem readUnsigned_of_value {map : QCborMap} {field value : Nat} (hbound : value < 2 ^ 63)
    (h : map.value field = some (.integer value)) : readUnsigned map field = .ok value := by
  have hinteger : QCborValue.isInteger (.integer value) = some (value : Int) := by
    rw [QCborValue.isInteger, if_pos ⟨by omega, by omega⟩]
  unfold readUnsigned requiredValue
  rw [h, present_some, ok_bind, hinteger, present_some, ok_bind,
    require_of (Int.natCast_nonneg value), ok_bind]
  rfl

theorem readUuid_of_value {α : Type} {fromBytes : QByteArray → Option α} {map : QCborMap}
    {field : Nat} {bytes : QByteArray} {id : α} (h : map.value field = some (.bytes bytes))
    (hid : fromBytes bytes = some id) : readUuid fromBytes map field = .ok id := by
  unfold readUuid requiredValue
  rw [h, present_some, ok_bind]
  show present (some bytes) _ >>= _ = _
  rw [present_some, ok_bind, hid, present_some]

theorem typeOfValue_typeValue (type : ManifestEntryType) :
    typeOfValue? (typeValue type) = some type := by
  cases type <;> rfl

theorem typeValue_lt (type : ManifestEntryType) : typeValue type < 2 ^ 63 := by
  cases type <;> decide

variable {pathLimits : PathLimits}

theorem ValidEntry.modifiedUtc_eq {entry : ManifestEntry} (h : ValidEntry qt pathLimits entry) :
    entry.modifiedUtc = ⟨some (entry.modifiedUtc.toMSecsSinceEpoch.toNat : Int)⟩ := by
  have hvalid := h.timeValid
  have hnonneg := h.timeNonNegative
  cases htime : entry.modifiedUtc with
  | mk msecs =>
    rw [htime] at hvalid hnonneg
    cases msecs with
    | none => exact absurd hvalid nofun
    | some msecs => rw [Int.toNat_of_nonneg hnonneg]; rfl

theorem readFlags_entryMap (entry : ManifestEntry) :
    readFlags (entryMap entry) = .ok entry.flags := by
  have hbound : entry.flags.toNat ≤ 2 ^ 32 - 1 := Nat.le_pred_of_lt entry.flags.toNat_lt
  have hread : readUnsigned (entryMap entry) 7 = .ok entry.flags.toNat :=
    readUnsigned_of_value (by omega) rfl
  have hcontains : (entryMap entry).contains 7 = true := rfl
  unfold readFlags
  rw [if_pos hcontains, hread, ok_bind, require_of hbound, ok_bind]
  show Except.ok (UInt32.ofNat entry.flags.toNat) = _
  rw [UInt32.ofNat_toNat]

theorem decodeEntry_entryMap {entry : ManifestEntry} (h : ValidEntry qt limits.pathLimits entry) :
    decodeEntry qt (.map (entryMap entry)) limits = .ok entry := by
  have hkeys : mapKeysAreIntegers (entryMap entry) = true := rfl
  have hid : readUuid FileId.fromBytes (entryMap entry) 1 = .ok entry.id :=
    readUuid_of_value rfl entry.id.fromBytes_toBytes
  have hpath : requiredValue (entryMap entry) 2 = .ok (.text entry.relativeProtocolPath.toUtf8) :=
    rfl
  have htext : QCborValue.isString (.text entry.relativeProtocolPath.toUtf8) =
      some entry.relativeProtocolPath :=
    congrArg some (QString.fromUtf8_toUtf8 h.wellFormed)
  have htype : readUnsigned (entryMap entry) 3 = .ok (typeValue entry.type) :=
    readUnsigned_of_value (typeValue_lt _) rfl
  have hsize : readUnsigned (entryMap entry) 4 = .ok entry.size :=
    readUnsigned_of_value h.sizeBound rfl
  have hmodified : readUnsigned (entryMap entry) 5 =
      .ok entry.modifiedUtc.toMSecsSinceEpoch.toNat := by
    have hbound := h.timeBound
    have hnonneg := h.timeNonNegative
    refine readUnsigned_of_value (by omega) ?_
    rw [Int.toNat_of_nonneg hnonneg]
    rfl
  have hsha256 : readOptionalBytes (entryMap entry) 6 = .ok entry.sha256 := rfl
  unfold decodeEntry
  show present (some (entryMap entry)) _ >>= _ = _
  rw [present_some, ok_bind, require_of hkeys, ok_bind, hid, ok_bind, hpath, ok_bind, htext,
    present_some, ok_bind, htype, ok_bind, hsize, ok_bind, hmodified, ok_bind,
    typeOfValue_typeValue, present_some, ok_bind, hsha256, ok_bind, readFlags_entryMap, ok_bind,
    ← h.modifiedUtc_eq]
  dsimp only
  rw [validateEntry_eq_ok.mpr h]
  rfl

theorem decodeEntries_map {entries : List ManifestEntry}
    (h : ∀ entry ∈ entries, ValidEntry qt limits.pathLimits entry) :
    decodeEntries qt limits (entries.map fun entry => .map (entryMap entry)) = .ok entries := by
  induction entries with
  | nil => rfl
  | cons entry entries ih =>
    rw [List.map_cons, decodeEntries, decodeEntry_entryMap (h entry List.mem_cons_self), ok_bind,
      ih fun later hlater => h later (List.mem_cons_of_mem _ hlater)]
    rfl

theorem encodable_entryMap {entry : ManifestEntry} (h : ValidEntry qt pathLimits entry) :
    Cbor.Encodable (.map (entryMap entry)) := by
  have hpath : entry.relativeProtocolPath.toUtf8.length < 2 ^ 64 :=
    Nat.lt_trans h.path_length (by omega)
  have hid : entry.id.toBytes.length < 2 ^ 64 := by
    rw [FileId.toBytes, toRfc4122, BigEndian.encode_length]
    omega
  have hsha256 : entry.sha256.length < 2 ^ 64 := by
    rcases h.digest with hempty | hlength
    · rw [hempty]
      exact Nat.two_pow_pos 64
    · rw [hlength, kSha256Bytes]
      omega
  have hflags : entry.flags.toNat < 2 ^ 63 :=
    Nat.lt_trans entry.flags.toNat_lt (by omega)
  have hnonneg := h.timeNonNegative
  have hbound := h.timeBound
  have htime : Cbor.Encodable (.integer entry.modifiedUtc.toMSecsSinceEpoch) := by
    constructor <;> omega
  refine ⟨by simp [entryMap], encodable_bytes (by omega) hid, ⟨?_, hpath,
    QString.isValidUtf8_toUtf8 h.wellFormed⟩, encodable_unsigned (by omega) (typeValue_lt _),
    encodable_unsigned (by omega) h.sizeBound, ⟨?_, htime⟩, encodable_bytes (by omega) hsha256,
    encodable_unsigned (by omega) hflags, trivial⟩
  · constructor <;> omega
  · constructor <;> omega

theorem encodableItems_map {entries : List ManifestEntry}
    (h : ∀ entry ∈ entries, ValidEntry qt pathLimits entry) :
    Cbor.EncodableItems (entries.map fun entry => .map (entryMap entry)) := by
  induction entries with
  | nil => trivial
  | cons entry entries ih =>
    exact ⟨encodable_entryMap (h entry List.mem_cons_self),
      ih fun later hlater => h later (List.mem_cons_of_mem _ hlater)⟩

theorem validateEntries_eq_ok {entries : List ManifestEntry} :
    validateEntries qt pathLimits entries = .ok () ↔
      ∀ entry ∈ entries, ValidEntry qt pathLimits entry := by
  induction entries with
  | nil => exact iff_of_true rfl nofun
  | cons entry entries ih =>
    rw [validateEntries, unit_bind_eq_ok, validateEntry_eq_ok, ih, List.forall_mem_cons]

/-- What the encoder checks. -/
structure Encodes (qt : QtText) (limits : ManifestPagingLimits) (page : ManifestPage)
    (encoded : QByteArray) : Prop where
  limitsValid : limitsAreValid limits = true
  pageCount : page.pageCount ≠ 0 ∧ page.pageCount ≤ limits.maxPages
  pageIndex : page.pageIndex < page.pageCount
  entryCount : page.entries.length ≤ limits.maxEntriesPerPage
  valid : ∀ entry ∈ page.entries, ValidEntry qt limits.pathLimits entry
  bytes : encoded = QCborMap.toCbor (pageMap page)
  length : encoded.length ≤ limits.maxPageMetadataBytes

theorem encodes_of_encode {page : ManifestPage} {encoded : QByteArray}
    (h : encode qt page limits = .ok encoded) : Encodes qt limits page encoded := by
  unfold encode at h
  obtain ⟨hlimits, h⟩ := require_bind_eq_ok.mp h
  obtain ⟨hidentity, h⟩ := require_bind_eq_ok.mp h
  obtain ⟨hcount, h⟩ := require_bind_eq_ok.mp h
  obtain ⟨hvalid, h⟩ := unit_bind_eq_ok.mp h
  obtain ⟨hlength, h⟩ := require_bind_eq_ok.mp h
  cases h
  exact ⟨hlimits, ⟨hidentity.1, hidentity.2.1⟩, hidentity.2.2, hcount,
    validateEntries_eq_ok.mp (mapError_eq_ok.mp hvalid), rfl, hlength⟩

theorem limits_le (h : limitsAreValid limits = true) :
    limits.maxEntriesPerPage ≤ 100000 ∧ limits.maxPages ≤ 100000 ∧ limits.maxEntries ≤ 100000 ∧
      limits.maxManifestMetadataBytes ≤ 64 * 1024 * 1024 := by
  unfold limitsAreValid kMaxManifestEntriesPerPage kMaxManifestPageCount kMaxPagedManifestEntries
    kMaxPagedManifestMetadataBytes at h
  rw [decide_eq_true_iff] at h
  omega

/-- **An encoded page is read back.** -/
theorem decode_encode {page : ManifestPage} {encoded : QByteArray}
    (h : encode qt page limits = .ok encoded) (hentries : page.entries.length ≤ limits.maxEntries) :
    decode qt kProtocolMajorVersion encoded limits = .ok page := by
  have hpage := encodes_of_encode h
  have hlimits := limits_le hpage.limitsValid
  have hcount := hpage.pageCount.2
  have hindex := hpage.pageIndex
  have hperPage := hpage.entryCount
  have hid : page.transferId.toBytes.length < 2 ^ 64 := by
    rw [TransferId.toBytes, toRfc4122, BigEndian.encode_length]
    omega
  have hlength : (page.entries.map fun entry => Cbor.Value.map (entryMap entry)).length < 2 ^ 64 := by
    rw [List.length_map]
    omega
  have hcbor : Cbor.decode encoded = some (.map (pageMap page)) := by
    rw [hpage.bytes]
    refine Cbor.decode_encode ⟨by simp [pageMap], encodable_bytes (by omega) hid,
      encodable_unsigned (by omega) (by omega), encodable_unsigned (by omega) (by omega),
      ⟨?_, hlength, encodableItems_map hpage.valid⟩, trivial⟩
    constructor <;> omega
  have hne : encoded ≠ [] := by
    rw [hpage.bytes]
    exact Cbor.encode_ne_nil _
  have hkeys : mapKeysAreIntegers (pageMap page) = true := rfl
  have hread1 : readUuid TransferId.fromBytes (pageMap page) 1 = .ok page.transferId :=
    readUuid_of_value rfl page.transferId.fromBytes_toBytes
  have hread2 : readUnsigned (pageMap page) 2 = .ok page.pageIndex :=
    readUnsigned_of_value (by omega) rfl
  have hread3 : readUnsigned (pageMap page) 3 = .ok page.pageCount :=
    readUnsigned_of_value (by omega) rfl
  have hread4 : requiredValue (pageMap page) 4 =
      .ok (.array (page.entries.map fun entry => .map (entryMap entry))) := rfl
  have hfits : (page.entries.map fun entry => Cbor.Value.map (entryMap entry)).length ≤
        limits.maxEntriesPerPage ∧
      (page.entries.map fun entry => Cbor.Value.map (entryMap entry)).length ≤
        limits.maxEntries := by
    rw [List.length_map]
    exact ⟨hperPage, hentries⟩
  unfold decode
  rw [require_of rfl, ok_bind, require_of hpage.limitsValid, ok_bind, require_of hne, ok_bind,
    require_of hpage.length, ok_bind, hcbor, present_some, ok_bind]
  show present (some (pageMap page)) _ >>= _ = _
  rw [present_some, ok_bind]
  unfold decodeMap
  rw [require_of hkeys, ok_bind, hread1, ok_bind, hread2, ok_bind, hread3, ok_bind,
    require_of hpage.pageCount, ok_bind, require_of hindex, ok_bind, hread4, ok_bind]
  show present (some _) _ >>= _ = _
  rw [present_some, ok_bind, require_of hfits, ok_bind, decodeEntries_map hpage.valid, ok_bind]
  rfl

/-- A scan that went through these entries. -/
structure ScanOf (qt : QtText) (limits : ManifestPagingLimits) (header : QByteArray)
    (held : List ManifestEntry) (scan : PlanScan) : Prop where
  canonical : Canonical qt limits.pathLimits held
  previous : scan.previous = held.getLast?
  keys : scan.collisionKeys = held.map (collisionKey qt · limits.pathLimits)
  ids : scan.fileIds = held.map (·.id.toBytes)
  sizes : scan.encodedEntrySizes.length = held.length
  counts : scan.fileCount + scan.directoryCount = held.length
  hashed : scan.hashed = header ++ held.flatMap canonicalEntryBytes

theorem ScanOf.start (qt : QtText) (limits : ManifestPagingLimits) (header : QByteArray) :
    ScanOf qt limits header [] { canonicalBytes := header.length, hashed := header } :=
  ⟨Canonical.nil, rfl, rfl, rfl, rfl, rfl, (List.append_nil _).symm⟩

theorem countEntry_ok {entry : ManifestEntry} {scan counted : PlanScan}
    (h : countEntry entry scan = .ok counted) :
    counted.fileCount + counted.directoryCount = scan.fileCount + scan.directoryCount + 1 ∧
      counted.encodedEntrySizes = scan.encodedEntrySizes ∧
      counted.collisionKeys = scan.collisionKeys ∧ counted.fileIds = scan.fileIds ∧
      counted.hashed = scan.hashed := by
  unfold countEntry at h
  split at h
  · obtain ⟨-, h⟩ := require_bind_eq_ok.mp h
    cases h
    exact ⟨Nat.add_right_comm .., rfl, rfl, rfl, rfl⟩
  · cases h
    exact ⟨(Nat.add_assoc ..).symm, rfl, rfl, rfl, rfl⟩

variable {held : List ManifestEntry}

theorem ScanOf.entry {header : QByteArray} {scan next : PlanScan} {prepared : PreparedManifestEntry}
    (hscan : ScanOf qt limits header held scan) (h : scanEntry qt limits scan prepared = .ok next) :
    ScanOf qt limits header (held ++ [prepared.entry]) next := by
  unfold scanEntry at h
  obtain ⟨hvalid, h⟩ := unit_bind_eq_ok.mp h
  obtain ⟨hfollows, h⟩ := require_bind_eq_ok.mp h
  obtain ⟨hkey, h⟩ := require_bind_eq_ok.mp h
  obtain ⟨hid, h⟩ := require_bind_eq_ok.mp h
  obtain ⟨counted, hcounted, h⟩ := bind_eq_ok.mp h
  obtain ⟨-, h⟩ := require_bind_eq_ok.mp h
  obtain ⟨-, h⟩ := require_bind_eq_ok.mp h
  cases h
  obtain ⟨hcounts, hsizes, hkeys, hids, hhashed⟩ := countEntry_ok hcounted
  have hcanonical : Canonical qt limits.pathLimits (held ++ [prepared.entry]) := by
    rw [hscan.previous] at hfollows
    rw [hscan.keys] at hkey
    rw [hscan.ids] at hid
    exact hscan.canonical.concat_iff.mpr ⟨validateEntry_eq_ok.mp hvalid, hfollows, hkey, hid⟩
  refine ⟨hcanonical, List.getLast?_concat.symm, ?_, ?_, ?_, ?_, ?_⟩
  · rw [List.map_append, ← hscan.keys]
    exact hkeys
  · rw [List.map_append, ← hscan.ids]
    exact hids
  · rw [List.length_append, List.length_append, hsizes, hscan.sizes]
    rfl
  · rw [List.length_append, ← hscan.counts]
    exact hcounts
  · rw [List.flatMap_append, ← List.append_assoc, ← hscan.hashed, List.flatMap_singleton, hhashed]

theorem ScanOf.entries {header : QByteArray} {scan last : PlanScan}
    {entries : List PreparedManifestEntry} (hscan : ScanOf qt limits header held scan)
    (h : entries.foldlM (scanEntry qt limits) scan = .ok last) :
    ScanOf qt limits header (held ++ entries.map PreparedManifestEntry.entry) last := by
  induction entries generalizing held scan with
  | nil =>
    cases h
    rwa [List.map_nil, List.append_nil]
  | cons prepared entries ih =>
    rw [List.foldlM_cons] at h
    obtain ⟨next, hnext, h⟩ := bind_eq_ok.mp h
    have hrest := ih (hscan.entry hnext) h
    rwa [List.append_assoc] at hrest

theorem fitEntries_le_length {sizes : List Nat} {count entryBytes : Nat} :
    fitEntries limits sizes count entryBytes ≤ count + sizes.length := by
  induction sizes generalizing count entryBytes with
  | nil => exact Nat.le_refl _
  | cons size sizes ih =>
    rw [fitEntries]
    split
    · exact Nat.le_add_right ..
    · split
      · exact Nat.le_add_right ..
      · refine Nat.le_trans ih (Nat.le_of_eq ?_)
        rw [List.length_cons]
        omega

theorem fitEntries_le_max {sizes : List Nat} {count entryBytes : Nat}
    (h : count ≤ limits.maxEntriesPerPage) :
    fitEntries limits sizes count entryBytes ≤ limits.maxEntriesPerPage := by
  induction sizes generalizing count entryBytes with
  | nil => exact h
  | cons size sizes ih =>
    rw [fitEntries]
    split
    · exact h
    · split
      · exact h
      · exact ih (by omega)

theorem planRanges_ok {fuel first : Nat} {sizes : List Nat}
    {ranges result : List ManifestPageRange} (hfuel : sizes.length ≤ fuel)
    (hbound : ranges.length ≤ limits.maxPages)
    (h : planRanges limits fuel first sizes ranges = .ok result) :
    result.length ≤ limits.maxPages ∧ ∃ added, result = ranges ++ added ∧
      rangesMatch (first + sizes.length) limits.maxEntriesPerPage first added = true := by
  induction fuel generalizing first sizes ranges with
  | zero =>
    cases h
    obtain rfl : sizes = [] := List.length_eq_zero_iff.mp (Nat.le_zero.mp hfuel)
    exact ⟨hbound, [], (List.append_nil _).symm, decide_eq_true rfl⟩
  | succ fuel ih =>
    rw [planRanges] at h
    split at h
    · rename_i hempty
      cases h
      subst hempty
      exact ⟨hbound, [], (List.append_nil _).symm, decide_eq_true rfl⟩
    · obtain ⟨hcount, h⟩ := require_bind_eq_ok.mp h
      obtain ⟨hpages, h⟩ := require_bind_eq_ok.mp h
      have hlength := @fitEntries_le_length limits sizes 0 0
      have hmax := @fitEntries_le_max limits sizes 0 0 (Nat.zero_le _)
      generalize fitEntries limits sizes 0 0 = count at hcount h hlength hmax
      have hdropped : (sizes.drop count).length ≤ fuel := by
        rw [List.length_drop]
        omega
      let range : ManifestPageRange := { firstEntry := first, entryCount := count }
      have hlonger : (ranges ++ [range]).length ≤ limits.maxPages := by
        rw [List.length_append, List.length_singleton]
        omega
      obtain ⟨hresult, added, hadded, hmatch⟩ := ih hdropped hlonger h
      refine ⟨hresult, range :: added, ?_, ?_⟩
      · rw [hadded, List.append_assoc, List.singleton_append]
      · have hend : first + count + (sizes.drop count).length = first + sizes.length := by
          rw [List.length_drop]
          omega
        rw [hend] at hmatch
        rw [rangesMatch, hmatch]
        refine decide_eq_true ⟨rfl, Nat.pos_of_ne_zero hcount, hmax, ?_, rfl⟩
        show count ≤ first + sizes.length - first
        omega

theorem rangesMatch_flatMap {α : Type} {entries : List α} {maxEntriesPerPage first : Nat}
    {ranges : List ManifestPageRange}
    (h : rangesMatch entries.length maxEntriesPerPage first ranges = true) :
    ranges.flatMap (fun range => (entries.drop range.firstEntry).take range.entryCount) =
      entries.drop first := by
  induction ranges generalizing first with
  | nil =>
    rw [rangesMatch, decide_eq_true_iff] at h
    rw [h, List.drop_length]
    rfl
  | cons range ranges ih =>
    rw [rangesMatch, decide_eq_true_iff] at h
    obtain ⟨hfirst, -, -, -, hrest⟩ := h
    rw [List.flatMap_cons, ih hrest, hfirst, ← List.drop_drop, List.take_append_drop]

structure Plans (qt : QtText) (sha : Sha256) (manifest : TransferManifest)
    (limits : ManifestPagingLimits) (result : ManifestPagePlan) : Prop where
  limitsValid : limitsAreValid limits = true
  entryLimit : manifest.entries.length ≤ limits.maxEntries
  canonical : Canonical qt limits.pathLimits (manifest.entries.map PreparedManifestEntry.entry)
  counts : manifest.summary.fileCount + manifest.summary.directoryCount = manifest.entries.length
  transferId : result.transferId = manifest.summary.id
  entryCount : result.entryCount = manifest.entries.length
  ranges : rangesMatch manifest.entries.length limits.maxEntriesPerPage 0 result.ranges = true
  pageCount : result.pageCount ≠ 0 ∧ result.pageCount ≤ limits.maxPages
  bytes : ∃ total, pageBytes qt manifest result limits (List.range result.pageCount) 0 = .ok total
  digest : sha.hash (arrayHeader manifest.entries.length ++
      (manifest.entries.map PreparedManifestEntry.entry).flatMap canonicalEntryBytes) =
    manifest.summary.canonicalSha256

theorem pageBytes_total {manifest : TransferManifest} {result : ManifestPagePlan} {total : Nat}
    {indices : List Nat} {start : Nat} :
    pageBytes qt manifest { result with totalMetadataBytes := total } limits indices start =
      pageBytes qt manifest result limits indices start := by
  induction indices generalizing start with
  | nil => rfl
  | cons index indices ih =>
    have hsame : pageForRange manifest { result with totalMetadataBytes := total } index =
        pageForRange manifest result index := rfl
    rw [pageBytes, pageBytes, hsame]
    exact congrArg _ (funext fun _ => congrArg _ (funext fun _ => ih))

theorem plans_of_plan {manifest : TransferManifest} {result : ManifestPagePlan}
    (h : plan qt sha manifest limits = .ok result) : Plans qt sha manifest limits result := by
  unfold plan at h
  obtain ⟨hlimits, h⟩ := require_bind_eq_ok.mp h
  obtain ⟨hne, h⟩ := require_bind_eq_ok.mp h
  obtain ⟨hcount, h⟩ := require_bind_eq_ok.mp h
  obtain ⟨scan, hscan, h⟩ := bind_eq_ok.mp h
  obtain ⟨-, h⟩ := require_bind_eq_ok.mp h
  obtain ⟨hsummary, h⟩ := require_bind_eq_ok.mp h
  obtain ⟨ranges, hranges, h⟩ := bind_eq_ok.mp h
  obtain ⟨total, htotal, h⟩ := bind_eq_ok.mp h
  obtain ⟨hdigest, h⟩ := require_bind_eq_ok.mp h
  cases h
  have hall := (ScanOf.start qt limits (arrayHeader manifest.entries.length)).entries hscan
  rw [List.nil_append] at hall
  have hsizes : scan.encodedEntrySizes.length = manifest.entries.length := by
    rw [hall.sizes, List.length_map]
  obtain ⟨hpages, added, hadded, hmatch⟩ :=
    planRanges_ok (Nat.le_refl _) (Nat.zero_le _) hranges
  rw [List.nil_append] at hadded
  subst hadded
  rw [Nat.zero_add, hsizes] at hmatch
  refine ⟨hlimits, hcount, hall.canonical, ?_, rfl, rfl, hmatch, ⟨?_, hpages⟩, ⟨total, ?_⟩, ?_⟩
  · rw [hsummary.1, hsummary.2.1, hall.counts, List.length_map]
  · -- no ranges would cover no entries
    intro hzero
    have hempty : ranges = [] := List.length_eq_zero_iff.mp hzero
    rw [hempty, rangesMatch, decide_eq_true_iff] at hmatch
    exact hne (List.length_eq_zero_iff.mp hmatch.symm)
  · rw [pageBytes_total]
    exact htotal
  · rw [← hall.hashed, hdigest]

def sendPages (qt : QtText) (manifest : TransferManifest) (plan : ManifestPagePlan)
    (limits : ManifestPagingLimits) :
    List Nat → ManifestPageReassembler → Option ManifestPageReassembler
  | [], r => some r
  | pageIndex :: indices, r =>
    match encodePage qt manifest plan pageIndex limits with
    | .error _ => none
    | .ok encoded =>
      match r.addEncodedPage qt kProtocolMajorVersion encoded with
      | (.error _, _) => none
      | (.ok (), r) => sendPages qt manifest plan limits indices r

def offeredReassembler (manifest : TransferManifest) (plan : ManifestPagePlan)
    (limits : ManifestPagingLimits) : ManifestPageReassembler :=
  { expectedTransferId := manifest.summary.id
    expectedPageCount := plan.pageCount
    expectedEntryCount := manifest.summary.fileCount + manifest.summary.directoryCount
    expectedCanonicalSha256 := manifest.summary.canonicalSha256
    limits := limits }

/-- Send all pages in order and finish; the entries at the other end, if every step succeeds. -/
def transmit (qt : QtText) (sha : Sha256) (manifest : TransferManifest) (plan : ManifestPagePlan)
    (limits : ManifestPagingLimits) : Option (List ManifestEntry) :=
  (sendPages qt manifest plan limits (List.range plan.pageCount)
    (offeredReassembler manifest plan limits)).bind fun r => (r.finish qt sha).1.toOption

def collected (qt : QtText) (r : ManifestPageReassembler) (held : List ManifestEntry)
    (pages bytes : Nat) : ManifestPageReassembler :=
  { r with
    entries := held
    collisionKeys := held.map (collisionKey qt · r.limits.pathLimits)
    fileIds := held.map (·.id.toBytes)
    nextPageIndex := pages
    receivedMetadataBytes := bytes }

theorem addEncodedPage_collected {r : ManifestPageReassembler} {pages bytes : Nat}
    {page : ManifestPage} {encoded : QByteArray} (hfinished : r.finished = false)
    (hdigest : r.expectedCanonicalSha256.length = kSha256Bytes)
    (hpageLimit : r.expectedPageCount ≤ r.limits.maxPages)
    (hentryLimit : r.expectedEntryCount ≤ r.limits.maxEntries)
    (hencode : encode qt page r.limits = .ok encoded) (hid : page.transferId = r.expectedTransferId)
    (hcount : page.pageCount = r.expectedPageCount) (hindex : page.pageIndex = pages)
    (hbytes : bytes + encoded.length ≤ r.limits.maxManifestMetadataBytes)
    (hentries : held.length + page.entries.length ≤ r.expectedEntryCount)
    (hcanonical : Canonical qt r.limits.pathLimits (held ++ page.entries)) :
    (collected qt r held pages bytes).addEncodedPage qt kProtocolMajorVersion encoded =
      (.ok (), collected qt r (held ++ page.entries) (pages + 1) (bytes + encoded.length)) := by
  have hpage := encodes_of_encode hencode
  have hlimits := limits_le hpage.limitsValid
  have hdecode : decode qt kProtocolMajorVersion encoded r.limits = .ok page :=
    decode_encode hencode (by omega)
  have hparameters : limitsAreValid r.limits ∧ r.expectedPageCount ≠ 0 ∧
      r.expectedPageCount ≤ r.limits.maxPages ∧ r.expectedEntryCount ≤ r.limits.maxEntries ∧
      r.expectedCanonicalSha256.length = kSha256Bytes :=
    ⟨hpage.limitsValid, hcount ▸ hpage.pageCount.1, hpageLimit, hentryLimit, hdigest⟩
  have hchecked := (ManifestPageReassembler.checkEntries_eq_ok
    (r := collected qt r held pages bytes) hcanonical.of_append
    (List.append_nil _) (List.append_nil _)).mpr hcanonical
  have hlimit : r.limits.maxManifestMetadataBytes ≤ 2 ^ 64 - 1 := by omega
  have hcheck : (collected qt r held pages bytes).checkPage qt page encoded.length = .ok () :=
    ManifestPageReassembler.checkPage_of hfinished hparameters hid hcount hindex hbytes hlimit
      hentries hchecked
  have happend : (collected qt r held pages bytes).appendPage qt page encoded.length =
      collected qt r (held ++ page.entries) (pages + 1) (bytes + encoded.length) := by
    unfold ManifestPageReassembler.appendPage collected
    dsimp only
    rw [List.map_append, List.map_append]
  unfold ManifestPageReassembler.addEncodedPage
  rw [show (collected qt r held pages bytes).limits = r.limits from rfl, hdecode]
  dsimp only
  unfold ManifestPageReassembler.addPageWithEncodedBytes
  rw [hcheck]
  dsimp only
  rw [happend]

section

variable {manifest : TransferManifest} {plan : ManifestPagePlan}

def entriesOf (manifest : TransferManifest) (plan : ManifestPagePlan) (indices : List Nat) :
    List ManifestEntry :=
  indices.flatMap fun index => (pageForRange manifest plan index).entries

/-- **The pages of a plan cover the manifest.** -/
theorem entriesOf_range
    (h : rangesMatch manifest.entries.length limits.maxEntriesPerPage 0 plan.ranges = true) :
    entriesOf manifest plan (List.range plan.pageCount) =
      manifest.entries.map PreparedManifestEntry.entry := by
  have hranges : (List.range plan.ranges.length).map (fun index => plan.ranges[index]?.getD {}) =
      plan.ranges := by
    refine List.ext_getElem (by rw [List.length_map, List.length_range]) ?_
    intro index hindex hbound
    rw [List.getElem_map, List.getElem_range, List.getElem?_eq_getElem hbound, Option.getD_some]
  calc entriesOf manifest plan (List.range plan.pageCount)
      = ((List.range plan.ranges.length).map fun index =>
          plan.ranges[index]?.getD {}).flatMap fun range =>
            ((manifest.entries.drop range.firstEntry).take range.entryCount).map
              PreparedManifestEntry.entry := by
        rw [List.flatMap_map]
        rfl
    _ = (plan.ranges.flatMap fun range =>
          (manifest.entries.drop range.firstEntry).take range.entryCount).map
            PreparedManifestEntry.entry := by
        rw [hranges, List.map_flatMap]
    _ = manifest.entries.map PreparedManifestEntry.entry := by
        rw [rangesMatch_flatMap h, List.drop_zero]

/-- **The pages are taken** one after the other. -/
theorem sendPages_collected (hplans : Plans qt sha manifest limits plan) {count pages bytes total : Nat}
    {held : List ManifestEntry} (hlast : pages + count = plan.pageCount)
    (hall : held ++ entriesOf manifest plan (List.range' pages count) =
      manifest.entries.map PreparedManifestEntry.entry)
    (hpages : pageBytes qt manifest plan limits (List.range' pages count) bytes = .ok total) :
    sendPages qt manifest plan limits (List.range' pages count)
        (collected qt (offeredReassembler manifest plan limits) held pages bytes) =
      some (collected qt (offeredReassembler manifest plan limits)
        (manifest.entries.map PreparedManifestEntry.entry) plan.pageCount total) := by
  induction count generalizing pages bytes held with
  | zero =>
    cases hpages
    rw [List.range'_zero, entriesOf, List.flatMap_nil, List.append_nil] at hall
    rw [← hall, ← hlast]
    rfl
  | succ count ih =>
    rw [List.range'_succ] at hall hpages ⊢
    rw [pageBytes] at hpages
    obtain ⟨encoded, hencode, hpages⟩ := bind_eq_ok.mp hpages
    replace hencode := mapError_eq_ok.mp hencode
    obtain ⟨hbytes, hpages⟩ := require_bind_eq_ok.mp hpages
    have hsplit : held ++ (pageForRange manifest plan pages).entries ++
        entriesOf manifest plan (List.range' (pages + 1) count) =
        manifest.entries.map PreparedManifestEntry.entry := by
      rw [List.append_assoc, ← hall]
      rfl
    have hmatch : planMatchesManifest manifest plan limits = true := by
      refine decide_eq_true ⟨hplans.transferId, ?_, hplans.pageCount.2, hplans.entryCount,
        hplans.ranges⟩
      intro hempty
      refine hplans.pageCount.1 ?_
      rw [ManifestPagePlan.pageCount, hempty]
      rfl
    have hencodePage : encodePage qt manifest plan pages limits = .ok encoded := by
      unfold encodePage
      rw [require_of ⟨hplans.limitsValid, hmatch, by omega⟩, ok_bind, hencode]
    have hlength : held.length + (pageForRange manifest plan pages).entries.length ≤
        manifest.summary.fileCount + manifest.summary.directoryCount := by
      have hlengths := congrArg List.length hsplit
      rw [List.length_append, List.length_append, List.length_map, ← hplans.counts] at hlengths
      omega
    have hcanonical : Canonical qt limits.pathLimits
        (held ++ (pageForRange manifest plan pages).entries) := by
      have hwhole := hplans.canonical
      rw [← hsplit] at hwhole
      exact hwhole.of_append
    have hdigest : manifest.summary.canonicalSha256.length = kSha256Bytes := by
      rw [← hplans.digest, sha.length_hash]
    have hcountLimit : manifest.summary.fileCount + manifest.summary.directoryCount ≤
        limits.maxEntries := by
      rw [hplans.counts]
      exact hplans.entryLimit
    have hindex : (pageForRange manifest plan pages).pageIndex = pages := rfl
    have hadded := addEncodedPage_collected (r := offeredReassembler manifest plan limits) rfl
      hdigest hplans.pageCount.2 hcountLimit hencode hplans.transferId rfl hindex hbytes.2 hlength
      hcanonical
    rw [sendPages, hencodePage]
    dsimp only
    rw [hadded]
    exact ih (by omega) hsplit hpages

theorem pages_taken (hplans : Plans qt sha manifest limits plan) : ∃ total,
    sendPages qt manifest plan limits (List.range plan.pageCount)
        (offeredReassembler manifest plan limits) =
      some (collected qt (offeredReassembler manifest plan limits)
        (manifest.entries.map PreparedManifestEntry.entry) plan.pageCount total) := by
  obtain ⟨total, htotal⟩ := hplans.bytes
  rw [List.range_eq_range'] at htotal ⊢
  refine ⟨total, sendPages_collected hplans (Nat.zero_add _) ?_ htotal⟩
  rw [← List.range_eq_range', List.nil_append]
  exact entriesOf_range hplans.ranges

theorem canonicalFrom_eq_ok {held entries : List ManifestEntry} {added result : QByteArray}
    (hsorted : (held ++ entries).Pairwise PathLess) :
    canonicalFrom qt added held.getLast? entries = .ok result ↔
      (∀ entry ∈ entries, ValidEntry qt {} entry) ∧
        result = added ++ entries.flatMap canonicalEntryBytes := by
  induction entries generalizing held added with
  | nil =>
    rw [canonicalFrom, List.flatMap_nil, List.append_nil, Except.ok.injEq]
    exact ⟨fun h => ⟨nofun, h.symm⟩, fun h => h.2.symm⟩
  | cons entry entries ih =>
    have hfollows : follows held.getLast? entry = true := by
      cases hlast : held.getLast? with
      | none => rfl
      | some last =>
        exact ((List.pairwise_append.mp hsorted).2.2 last (List.mem_of_getLast? hlast) entry
          List.mem_cons_self).entryLess
    have hnext : (held ++ [entry] ++ entries).Pairwise PathLess := by
      rwa [List.append_assoc]
    have hrest := @ih (held ++ [entry]) (added ++ canonicalEntryBytes entry) hnext
    rw [List.getLast?_concat] at hrest
    rw [canonicalFrom, unit_bind_eq_ok, mapError_eq_ok, validateEntry_eq_ok, require_bind_eq_ok,
      hrest, List.forall_mem_cons, List.flatMap_cons, List.append_assoc, and_assoc]
    exact ⟨fun h => ⟨h.1, h.2.2⟩, fun h => ⟨h.1, hfollows, h.2⟩⟩

theorem canonicalSha256_eq_ok {entries : List ManifestEntry} {digest : QByteArray}
    (hsorted : entries.Pairwise PathLess) :
    canonicalSha256 qt sha entries = .ok digest ↔
      (∀ entry ∈ entries, ValidEntry qt {} entry) ∧
        digest = sha.hash (arrayHeader entries.length ++ entries.flatMap canonicalEntryBytes) := by
  have hcanonical (result : QByteArray) :=
    @canonicalFrom_eq_ok qt [] entries (arrayHeader entries.length) result hsorted
  unfold canonicalSha256
  rw [bind_eq_ok]
  constructor
  · rintro ⟨added, hadded, h⟩
    cases h
    obtain ⟨hvalid, rfl⟩ := (hcanonical added).mp hadded
    exact ⟨hvalid, rfl⟩
  · rintro ⟨hvalid, rfl⟩
    exact ⟨_, (hcanonical _).mpr ⟨hvalid, rfl⟩, rfl⟩

theorem finish_collected (hplans : Plans qt sha manifest limits plan) {total : Nat} :
    ((collected qt (offeredReassembler manifest plan limits)
        (manifest.entries.map PreparedManifestEntry.entry) plan.pageCount total).finish qt
          sha).1.toOption = some (manifest.entries.map PreparedManifestEntry.entry) ↔
      ∀ entry ∈ manifest.entries.map PreparedManifestEntry.entry, ValidEntry qt {} entry := by
  have hsorted := hplans.canonical.sorted
  have hdigest := hplans.digest
  have hcounts := hplans.counts
  rw [← List.length_map PreparedManifestEntry.entry] at hdigest hcounts
  generalize manifest.entries.map PreparedManifestEntry.entry = entries at hsorted hdigest hcounts ⊢
  let r := collected qt (offeredReassembler manifest plan limits) entries plan.pageCount total
  have hcheck : r.checkFinish qt sha = .ok () ↔ ∀ entry ∈ entries, ValidEntry qt {} entry := by
    constructor
    · intro h
      exact ((canonicalSha256_eq_ok hsorted).mp
        (ManifestPageReassembler.completes_of_checkFinish h).digest).1
    · intro hvalid
      have hcomputed : canonicalSha256 qt sha r.entries = .ok r.expectedCanonicalSha256 :=
        (canonicalSha256_eq_ok hsorted).mpr ⟨hvalid, hdigest.symm⟩
      have hfinished : r.finished = false := rfl
      have hpages : r.nextPageIndex = r.expectedPageCount := rfl
      have hentries : r.entryCount = r.expectedEntryCount := hcounts.symm
      have hne : r.expectedCanonicalSha256 ≠ [] := by
        intro hempty
        have hlength := sha.length_hash
          (arrayHeader entries.length ++ entries.flatMap canonicalEntryBytes)
        rw [hdigest, show manifest.summary.canonicalSha256 = [] from hempty] at hlength
        exact absurd hlength nofun
      unfold ManifestPageReassembler.checkFinish
      rw [require_of hfinished, ok_bind, require_of hpages, ok_bind, require_of hentries, ok_bind,
        hcomputed]
      exact require_of ⟨hne, rfl⟩
  rw [← hcheck]
  show (r.finish qt sha).1.toOption = some entries ↔ r.checkFinish qt sha = .ok ()
  unfold ManifestPageReassembler.finish
  cases r.checkFinish qt sha with
  | error error => exact iff_of_false nofun nofun
  | ok _ => exact iff_of_true rfl rfl

theorem transmit_planned (hplans : Plans qt sha manifest limits plan) :
    transmit qt sha manifest plan limits = some (manifest.entries.map PreparedManifestEntry.entry) ↔
      ∀ entry ∈ manifest.entries.map PreparedManifestEntry.entry, ValidEntry qt {} entry := by
  obtain ⟨total, htaken⟩ := pages_taken hplans
  unfold transmit
  rw [htaken, Option.bind_some, finish_collected hplans]

/-- **The round trip.** The entries of a planned manifest arrive exactly when each of them is also
valid under the default path limits, which the digest is computed with. -/
theorem transmit_iff (h : ManifestPageCodec.plan qt sha manifest limits = .ok plan) :
    transmit qt sha manifest plan limits = some (manifest.entries.map PreparedManifestEntry.entry) ↔
      ∀ prepared ∈ manifest.entries, validateEntry qt prepared.entry {} = .ok () := by
  rw [transmit_planned (plans_of_plan h)]
  simp only [List.forall_mem_map, validateEntry_eq_ok]

end

/-! A manifest of one empty file, with a name of one byte, or with one of as many bytes as the first
limits allow and one more than the default limits do. -/

def wideLimits : ManifestPagingLimits :=
  { pathLimits := { maxComponentUtf8Bytes := 256 } }

def namedManifest (nameLength : Nat) (digest : QByteArray) : TransferManifest :=
  { entries := [
      { canonicalSourcePath := QString.literal "/home/a"
        protocolCollisionKey := List.replicate nameLength 0x61
        entry :=
          { id := ⟨1, one_nonNull⟩
            relativeProtocolPath := List.replicate nameLength 0x61
            size := 0
            modifiedUtc := ⟨some 0⟩
            sha256 := [] } }]
    summary :=
      { id := ⟨7, seven_nonNull⟩
        displayName := QString.literal "a"
        fileCount := 1
        canonicalSha256 := digest } }

def shortNameDigest : QByteArray :=
  [0x19, 0xbc, 0xc3, 0x03, 0xe3, 0x01, 0x84, 0x60, 0xf8, 0x9f, 0xbf, 0x4c, 0x0d, 0xb3, 0x03,
    0xb5, 0xaf, 0x49, 0xca, 0xb7, 0xeb, 0x17, 0x79, 0x2c, 0x54, 0x53, 0x69, 0xd9, 0x04, 0x63,
    0x23, 0x1e]

def longNameDigest : QByteArray :=
  [0x18, 0x4d, 0x73, 0x5b, 0x02, 0x1f, 0x7c, 0x7d, 0x07, 0x88, 0x3b, 0x61, 0x4d, 0x80, 0x5b,
    0x53, 0x3a, 0x66, 0xf5, 0xdb, 0xdd, 0xbf, 0x5f, 0x8f, 0x92, 0x6e, 0x51, 0x06, 0xba, 0x61,
    0xaf, 0xb6]

def canonicalBytes (nameLength : Nat) : QByteArray :=
  0x81 :: (namedManifest nameLength []).entries.flatMap fun prepared =>
    canonicalEntryBytes prepared.entry

def namedSha256 : Sha256 where
  hash bytes :=
    if bytes = canonicalBytes 1 then shortNameDigest
    else if bytes = canonicalBytes 256 then longNameDigest
    else List.replicate 32 0
  length_hash bytes := by
    split
    · rfl
    · split <;> rfl

def namedPlan (totalMetadataBytes : Nat) : ManifestPagePlan :=
  { transferId := ⟨7, seven_nonNull⟩
    ranges := [{ firstEntry := 0, entryCount := 1 }]
    entryCount := 1
    totalMetadataBytes }

/-- The long name is planned, and the manifest does not get through. -/
theorem planned_manifest_refused :
    ManifestPageCodec.plan QtText.ascii namedSha256 (namedManifest 256 longNameDigest)
        wideLimits = .ok (namedPlan 314) ∧
      transmit QtText.ascii namedSha256 (namedManifest 256 longNameDigest) (namedPlan 314)
          wideLimits ≠
        some ((namedManifest 256 longNameDigest).entries.map PreparedManifestEntry.entry) := by
  have hplan : ManifestPageCodec.plan QtText.ascii namedSha256 (namedManifest 256 longNameDigest)
      wideLimits = .ok (namedPlan 314) := by
    decide +kernel
  refine ⟨hplan, fun harrived => ?_⟩
  have hvalid := (transmit_planned (plans_of_plan hplan)).mp harrived _ List.mem_cons_self
  exact absurd (validateEntry_eq_ok.mpr hvalid) (by decide +kernel)

theorem transmit_iff_short_name :
    transmit QtText.ascii namedSha256 (namedManifest 1 shortNameDigest) (namedPlan 57) wideLimits =
      some ((namedManifest 1 shortNameDigest).entries.map PreparedManifestEntry.entry) :=
  (transmit_iff (by decide +kernel)).mpr (by decide +kernel)

end DeskflowPlus.Transfer.ManifestPageCodec
