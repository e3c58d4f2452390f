import DeskflowPlus.Transfer.ManifestPaging

/-!
# The sizes of planned pages

The planner does not encode a page to see whether it fits: it adds up the entries it has encoded and
the widths of the heads around them. The sum is the size of the page, and where the planner does not
know a number yet it takes the widest one, so a page that it plans always fits.
-/

namespace DeskflowPlus.Transfer.ManifestPageCodec

open Checks

variable {qt : QtText} {sha : Sha256} {limits : ManifestPagingLimits}

/-- The size of a page whose entries have these sizes, as the planner adds it up. -/
def pageSize (pageIndex pageCount : Nat) (entrySizes : List Nat) : Nat :=
  pageEnvelopeBytes pageIndex pageCount entrySizes.length + entrySizes.sum

def entrySize (entry : ManifestEntry) : Nat := (canonicalEntryBytes entry).length

theorem head_length (major argument : Nat) :
    (Cbor.head major argument).length = unsignedCborBytes argument := by
  unfold Cbor.head unsignedCborBytes
  split_ifs <;> simp only [List.length_cons, List.length_nil, BigEndian.encode_length] <;> omega

@[simp]
theorem arrayHeader_length (count : Nat) :
    (arrayHeader count).length = unsignedCborBytes count := by
  unfold arrayHeader unsignedCborBytes
  split_ifs <;> simp only [List.length_cons, List.length_nil, BigEndian.encode_length]

theorem unsignedCborBytes_mono {small large : Nat} (h : small ≤ large) :
    unsignedCborBytes small ≤ unsignedCborBytes large := by
  unfold unsignedCborBytes
  split_ifs <;> omega

theorem encodeItems_length (entries : List ManifestEntry) :
    (Cbor.encodeItems (entries.map fun entry => .map (entryMap entry))).length =
      (entries.map entrySize).sum := by
  induction entries with
  | nil => rfl
  | cons entry entries ih =>
    rw [List.map_cons, Cbor.encodeItems, List.length_append, ih, List.map_cons, List.sum_cons]
    rfl

/-- **The planner's sum is the size of the page.** -/
theorem pageMap_length (page : ManifestPage) :
    (QCborMap.toCbor (pageMap page)).length =
      pageSize page.pageIndex page.pageCount (page.entries.map entrySize) := by
  have hid : page.transferId.toBytes.length = 16 := BigEndian.encode_length ..
  have hsmall (field : Nat) (h : field < 24) : unsignedCborBytes field = 1 := if_pos h
  calc (QCborMap.toCbor (pageMap page)).length
      = unsignedCborBytes 4 +
          ((unsignedCborBytes 1 + (unsignedCborBytes 16 + 16)) +
            ((unsignedCborBytes 2 + unsignedCborBytes page.pageIndex) +
              ((unsignedCborBytes 3 + unsignedCborBytes page.pageCount) +
                ((unsignedCborBytes 4 + (unsignedCborBytes page.entries.length +
                  (page.entries.map entrySize).sum)) + 0)))) := by
        simp only [QCborMap.toCbor, pageMap, insertUnsigned, Cbor.encode, Cbor.encodeEntries,
          Cbor.encodeEntry, List.length_append, head_length, encodeItems_length, hid]
        simp [head_length]
    _ = pageSize page.pageIndex page.pageCount (page.entries.map entrySize) := by
        simp only [pageSize, pageEnvelopeBytes, arrayHeader_length, List.length_map]
        rw [hsmall 1 (by omega), hsmall 2 (by omega), hsmall 3 (by omega), hsmall 4 (by omega),
          hsmall 16 (by omega)]
        omega

theorem pageSize_mono {index index' count count' : Nat} (hindex : index ≤ index')
    (hcount : count ≤ count') (sizes : List Nat) :
    pageSize index count sizes ≤ pageSize index' count' sizes := by
  have hindexBytes := unsignedCborBytes_mono hindex
  have hcountBytes := unsignedCborBytes_mono hcount
  unfold pageSize pageEnvelopeBytes
  omega

def Fits (limits : ManifestPagingLimits) (sizes : List Nat) : Prop :=
  pageSize (limits.maxPages - 1) limits.maxPages sizes ≤ limits.maxPageMetadataBytes

theorem fitEntries_fits {taken sizes : List Nat} (htaken : taken = [] ∨ Fits limits taken) :
    ∃ more, fitEntries limits sizes taken.length taken.sum = taken.length + more ∧
      (taken ++ sizes.take more = [] ∨ Fits limits (taken ++ sizes.take more)) := by
  have hstop (rest : List Nat) {held : List Nat} (hheld : held = [] ∨ Fits limits held) :
      held ++ rest.take 0 = [] ∨ Fits limits (held ++ rest.take 0) := by
    rwa [List.take_zero, List.append_nil]
  induction sizes generalizing taken with
  | nil => exact ⟨0, rfl, hstop [] htaken⟩
  | cons size sizes ih =>
    rw [fitEntries]
    split
    · exact ⟨0, rfl, hstop _ htaken⟩
    · split
      · exact ⟨0, rfl, hstop _ htaken⟩
      · rename_i hroom
        have hnext : Fits limits (taken ++ [size]) := by
          unfold Fits pageSize
          rw [List.length_append, List.length_singleton, List.sum_append, List.sum_singleton]
          omega
        obtain ⟨more, hmore, hfits⟩ := ih (.inr hnext)
        rw [List.length_append, List.length_singleton, List.sum_append, List.sum_singleton] at hmore
        rw [List.append_assoc, List.singleton_append] at hfits
        exact ⟨more + 1, hmore.trans (by omega), hfits⟩

def RangeFits (limits : ManifestPagingLimits) (sizes : List Nat) (range : ManifestPageRange) :
    Prop :=
  Fits limits ((sizes.drop range.firstEntry).take range.entryCount)

theorem planRanges_fit {sizes : List Nat} {fuel first : Nat}
    {ranges result : List ManifestPageRange}
    (hranges : ∀ range ∈ ranges, RangeFits limits sizes range)
    (h : planRanges limits fuel first (sizes.drop first) ranges = .ok result) :
    ∀ range ∈ result, RangeFits limits sizes range := by
  induction fuel generalizing first ranges with
  | zero =>
    cases h
    exact hranges
  | succ fuel ih =>
    rw [planRanges] at h
    split at h
    · cases h
      exact hranges
    · rename_i hne
      obtain ⟨hcount, h⟩ := require_bind_eq_ok.mp h
      obtain ⟨-, h⟩ := require_bind_eq_ok.mp h
      obtain ⟨more, hmore, hfits⟩ := @fitEntries_fits limits [] (sizes.drop first) (.inl rfl)
      rw [List.length_nil, List.sum_nil, Nat.zero_add] at hmore
      rw [hmore] at hcount h
      rw [List.nil_append] at hfits
      rw [List.drop_drop] at h
      refine ih (fun range hrange => ?_) h
      obtain hold | hnew := List.mem_append.mp hrange
      · exact hranges range hold
      · obtain rfl := List.mem_singleton.mp hnew
        refine hfits.resolve_left fun hempty => ?_
        exact (List.take_eq_nil_iff.mp hempty).elim hcount hne

theorem encodedEntrySizes_eq {entries : List PreparedManifestEntry} {scan last : PlanScan}
    (h : entries.foldlM (scanEntry qt limits) scan = .ok last) :
    last.encodedEntrySizes =
      scan.encodedEntrySizes ++ entries.map fun prepared => entrySize prepared.entry := by
  induction entries generalizing scan with
  | nil =>
    cases h
    exact (List.append_nil _).symm
  | cons prepared entries ih =>
    rw [List.foldlM_cons] at h
    obtain ⟨next, hnext, h⟩ := bind_eq_ok.mp h
    have hsizes : next.encodedEntrySizes =
        scan.encodedEntrySizes ++ [entrySize prepared.entry] := by
      unfold scanEntry at hnext
      obtain ⟨-, hnext⟩ := unit_bind_eq_ok.mp hnext
      obtain ⟨-, hnext⟩ := require_bind_eq_ok.mp hnext
      obtain ⟨-, hnext⟩ := require_bind_eq_ok.mp hnext
      obtain ⟨-, hnext⟩ := require_bind_eq_ok.mp hnext
      obtain ⟨counted, hcounted, hnext⟩ := bind_eq_ok.mp hnext
      obtain ⟨-, hnext⟩ := require_bind_eq_ok.mp hnext
      obtain ⟨-, hnext⟩ := require_bind_eq_ok.mp hnext
      cases hnext
      rw [(countEntry_ok hcounted).2.1]
      rfl
    rw [ih h, hsizes, List.append_assoc, List.map_cons, List.singleton_append]

section Planned

variable {manifest : TransferManifest} {planned : ManifestPagePlan}

theorem pageForRange_sizes (manifest : TransferManifest) (planned : ManifestPagePlan)
    (index : Nat) :
    (pageForRange manifest planned index).entries.map entrySize =
      ((manifest.entries.map fun prepared => entrySize prepared.entry).drop
        (planned.ranges[index]?.getD {}).firstEntry).take
          (planned.ranges[index]?.getD {}).entryCount := by
  unfold pageForRange
  rw [List.map_map, List.map_take, List.map_drop]
  rfl

/-- What the planner knows of its ranges before it encodes them. -/
structure Ranges (qt : QtText) (manifest : TransferManifest) (limits : ManifestPagingLimits)
    (planned : ManifestPagePlan) : Prop where
  limitsValid : limitsAreValid limits = true
  valid : ∀ prepared ∈ manifest.entries, ValidEntry qt limits.pathLimits prepared.entry
  covered : rangesMatch manifest.entries.length limits.maxEntriesPerPage 0 planned.ranges = true
  pageCount : planned.pageCount ≠ 0 ∧ planned.pageCount ≤ limits.maxPages
  fit : ∀ range ∈ planned.ranges,
    RangeFits limits (manifest.entries.map fun prepared => entrySize prepared.entry) range

theorem rangesMatch_entryCount {entryCount maxEntriesPerPage first : Nat}
    {ranges : List ManifestPageRange}
    (h : rangesMatch entryCount maxEntriesPerPage first ranges = true) :
    ∀ range ∈ ranges, 0 < range.entryCount ∧ range.entryCount ≤ maxEntriesPerPage := by
  induction ranges generalizing first with
  | nil => exact nofun
  | cons range ranges ih =>
    rw [rangesMatch, decide_eq_true_iff] at h
    obtain ⟨-, hpositive, hmax, -, hrest⟩ := h
    exact List.forall_mem_cons.mpr ⟨⟨hpositive, hmax⟩, ih hrest⟩

/-- **A planned page fits.** -/
theorem Ranges.encode (h : Ranges qt manifest limits planned) {index : Nat}
    (hindex : index < planned.pageCount) :
    encode qt (pageForRange manifest planned index) limits =
      .ok (QCborMap.toCbor (pageMap (pageForRange manifest planned index))) := by
  have hbound : index < planned.ranges.length := hindex
  have hrange : planned.ranges[index]?.getD {} ∈ planned.ranges := by
    rw [List.getElem?_eq_getElem hbound, Option.getD_some]
    exact List.getElem_mem hbound
  have hentries : (pageForRange manifest planned index).entries.length ≤
      limits.maxEntriesPerPage := by
    unfold pageForRange
    rw [List.length_map, List.length_take]
    exact Nat.le_trans (Nat.min_le_left ..) (rangesMatch_entryCount h.covered _ hrange).2
  have hvalid : ∀ entry ∈ (pageForRange manifest planned index).entries,
      ValidEntry qt limits.pathLimits entry := by
    intro entry hentry
    obtain ⟨prepared, hprepared, rfl⟩ := List.mem_map.mp hentry
    exact h.valid prepared (List.mem_of_mem_drop (List.mem_of_mem_take hprepared))
  have hlength : (QCborMap.toCbor (pageMap (pageForRange manifest planned index))).length ≤
      limits.maxPageMetadataBytes := by
    rw [pageMap_length, pageForRange_sizes]
    refine Nat.le_trans (pageSize_mono ?_ h.pageCount.2 _) (h.fit _ hrange)
    exact Nat.le_pred_of_lt (Nat.lt_of_lt_of_le hindex h.pageCount.2)
  unfold ManifestPageCodec.encode
  rw [require_of h.limitsValid, ok_bind,
    require_of ⟨h.pageCount.1, h.pageCount.2, hindex⟩, ok_bind, require_of hentries, ok_bind,
    mapError_eq_ok.mpr (validateEntries_eq_ok.mpr hvalid), ok_bind]
  dsimp only
  rw [require_of hlength, ok_bind]
  rfl

theorem Ranges.encodePage (h : Ranges qt manifest limits planned)
    (hid : planned.transferId = manifest.summary.id)
    (hcount : planned.entryCount = manifest.entries.length) {index : Nat}
    (hindex : index < planned.pageCount) :
    encodePage qt manifest planned index limits =
      .ok (QCborMap.toCbor (pageMap (pageForRange manifest planned index))) := by
  have hne : planned.ranges ≠ [] := fun hempty => by
    have hzero : planned.pageCount = 0 := congrArg List.length hempty
    exact h.pageCount.1 hzero
  have hmatches : planMatchesManifest manifest planned limits = true :=
    decide_eq_true ⟨hid, hne, h.pageCount.2, hcount, h.covered⟩
  unfold ManifestPageCodec.encodePage
  rw [require_of ⟨h.limitsValid, hmatches, hindex⟩, ok_bind, h.encode hindex]

def pagesSize (manifest : TransferManifest) (planned : ManifestPagePlan) (indices : List Nat) :
    Nat :=
  (indices.map fun index =>
    (QCborMap.toCbor (pageMap (pageForRange manifest planned index))).length).sum

theorem Ranges.pageBytes (h : Ranges qt manifest limits planned) {indices : List Nat}
    (hindices : ∀ index ∈ indices, index < planned.pageCount) (start : Nat) :
    pageBytes qt manifest planned limits indices start =
        .ok (start + pagesSize manifest planned indices) ∨
      pageBytes qt manifest planned limits indices start =
        .error (.manifestMetadataTooLarge, "paged manifest metadata limit exceeded") := by
  induction indices generalizing start with
  | nil => exact .inl rfl
  | cons index indices ih =>
    obtain ⟨hindex, hrest⟩ := List.forall_mem_cons.mp hindices
    rw [ManifestPageCodec.pageBytes, h.encode hindex]
    show require _ _ >>= _ = _ ∨ require _ _ >>= _ = _
    unfold require
    split
    · rw [ok_bind]
      have hlater := ih hrest
        (start + (QCborMap.toCbor (pageMap (pageForRange manifest planned index))).length)
      rwa [Nat.add_assoc] at hlater
    · exact .inr rfl

end Planned

def Spares {α : Type} (result : Result α) : Prop :=
  ∀ diagnostic, result ≠ .error (.pageMetadataTooLarge, diagnostic)

namespace Spares

variable {α β : Type}

theorem bind {x : Result α} {f : α → Result β} (hx : Spares x)
    (hf : ∀ value, x = .ok value → Spares (f value)) : Spares (x >>= f) := by
  intro diagnostic herror
  obtain hfirst | ⟨value, hvalue, hrest⟩ := bind_eq_error.mp herror
  · exact hx diagnostic hfirst
  · exact hf value hvalue diagnostic hrest

theorem require {condition : Prop} [Decidable condition] {error : ManifestPageError}
    {text : String} (herror : error ≠ .pageMetadataTooLarge) :
    Spares (require condition (error, text)) := by
  intro diagnostic h
  exact herror (Prod.mk.inj (require_eq_error.mp h).2).1

theorem ok (value : α) : Spares (.ok value) := nofun

end Spares

theorem validateEntry_spares (entry : ManifestEntry) (pathLimits : PathLimits) :
    Spares (validateEntry qt entry pathLimits) := by
  unfold validateEntry
  refine (Spares.require (by decide)).bind fun _ _ => ?_
  refine (Spares.require (by decide)).bind fun _ _ => ?_
  split
  · exact Spares.require (by decide)
  · exact Spares.require (by decide)

theorem scanEntry_spares (scan : PlanScan) (prepared : PreparedManifestEntry) :
    Spares (scanEntry qt limits scan prepared) := by
  unfold scanEntry
  refine (validateEntry_spares _ _).bind fun _ _ => (Spares.require (by decide)).bind fun _ _ => ?_
  refine (Spares.require (by decide)).bind fun _ _ => ?_
  refine (Spares.require (by decide)).bind fun _ _ => ?_
  refine Spares.bind ?_ fun _ _ => ?_
  · unfold countEntry
    split
    · exact (Spares.require (by decide)).bind fun _ _ => Spares.ok _
    · exact Spares.ok _
  · refine (Spares.require (by decide)).bind fun _ _ => ?_
    exact (Spares.require (by decide)).bind fun _ _ => Spares.ok _

theorem foldlM_scanEntry_spares (entries : List PreparedManifestEntry) (scan : PlanScan) :
    Spares (entries.foldlM (scanEntry qt limits) scan) := by
  induction entries generalizing scan with
  | nil => exact Spares.ok _
  | cons prepared entries ih =>
    rw [List.foldlM_cons]
    exact (scanEntry_spares scan prepared).bind fun next _ => ih next

theorem planRanges_spares (fuel first : Nat) (sizes : List Nat) (ranges : List ManifestPageRange) :
    Spares (planRanges limits fuel first sizes ranges) := by
  induction fuel generalizing first sizes ranges with
  | zero => exact Spares.ok _
  | succ fuel ih =>
    rw [planRanges]
    split
    · exact Spares.ok _
    · refine (Spares.require (by decide)).bind fun _ _ => ?_
      refine (Spares.require (by decide)).bind fun _ _ => ?_
      exact ih _ _ _

theorem ranges_of_scan {manifest : TransferManifest} {scan : PlanScan}
    {ranges : List ManifestPageRange} (hlimits : limitsAreValid limits = true)
    (hne : manifest.entries ≠ [])
    (hscan : manifest.entries.foldlM (scanEntry qt limits)
      { canonicalBytes := (arrayHeader manifest.entries.length).length
        hashed := arrayHeader manifest.entries.length } = .ok scan)
    (hranges : planRanges limits scan.encodedEntrySizes.length 0 scan.encodedEntrySizes [] =
      .ok ranges) :
    Ranges qt manifest limits
      { transferId := manifest.summary.id, ranges, entryCount := manifest.entries.length } := by
  have hall := (ScanOf.start qt limits (arrayHeader manifest.entries.length)).entries hscan
  have hsizes := encodedEntrySizes_eq hscan
  rw [List.nil_append] at hsizes
  rw [hsizes, List.length_map] at hranges
  have hlength : (manifest.entries.map fun prepared => entrySize prepared.entry).length ≤
      manifest.entries.length := Nat.le_of_eq (List.length_map _)
  obtain ⟨hpages, added, hadded, hmatch⟩ := planRanges_ok hlength (Nat.zero_le _) hranges
  rw [List.nil_append] at hadded
  subst hadded
  rw [Nat.zero_add, List.length_map] at hmatch
  refine ⟨hlimits, ?_, hmatch, ⟨fun hzero => ?_, hpages⟩, ?_⟩
  · exact List.forall_mem_map.mp hall.canonical.valid
  · have hempty : ranges = [] := List.length_eq_zero_iff.mp hzero
    rw [hempty, rangesMatch, decide_eq_true_iff] at hmatch
    exact hne (List.length_eq_zero_iff.mp hmatch.symm)
  · exact planRanges_fit (fun _ hnone => absurd hnone List.not_mem_nil) hranges

/-- **A page is never too large.** The planner does not fail on the size of a page it has planned,
whatever the manifest and the limits. -/
theorem plan_spares (manifest : TransferManifest) : Spares (plan qt sha manifest limits) := by
  unfold plan
  refine Spares.bind (.require (by decide)) fun _ hlimits => ?_
  refine Spares.bind (.require (by decide)) fun _ hne => ?_
  refine Spares.bind (.require (by decide)) fun _ _ => ?_
  refine Spares.bind (foldlM_scanEntry_spares _ _) fun scan hscan => ?_
  refine Spares.bind (.require (by decide)) fun _ _ => ?_
  refine Spares.bind (.require (by decide)) fun _ _ => ?_
  refine Spares.bind (planRanges_spares _ _ _ _) fun ranges hranges => ?_
  have hplanned := ranges_of_scan (require_eq_ok.mp hlimits) (require_eq_ok.mp hne) hscan hranges
  refine Spares.bind (fun diagnostic herror => ?_) fun _ _ => ?_
  · obtain hok | hlarge := hplanned.pageBytes (fun _ => List.mem_range.mp) 0
    · exact nomatch hok.symm.trans herror
    · exact nomatch hlarge.symm.trans herror
  · exact Spares.bind (.require (by decide)) fun _ _ => Spares.ok _

/-- What an accepted plan promises. -/
structure PlansPages (qt : QtText) (manifest : TransferManifest) (limits : ManifestPagingLimits)
    (planned : ManifestPagePlan) : Prop where
  ranges : rangesMatch manifest.entries.length limits.maxEntriesPerPage 0 planned.ranges = true
  partition : planned.ranges.flatMap
    (fun range => (manifest.entries.drop range.firstEntry).take range.entryCount) =
      manifest.entries
  pages : ∀ index < planned.pageCount, ∃ encoded,
    encodePage qt manifest planned index limits = .ok encoded ∧
      encoded.length ≤ limits.maxPageMetadataBytes ∧
      (pageForRange manifest planned index).entries.length ≤ limits.maxEntriesPerPage ∧
      encoded.length = pageSize index planned.pageCount
        ((pageForRange manifest planned index).entries.map entrySize)
  total : ∃ encoded : List QByteArray,
    (List.range planned.pageCount).map (encodePage qt manifest planned · limits) =
        encoded.map .ok ∧
      planned.totalMetadataBytes = (encoded.map List.length).sum

theorem Ranges.plansPages {manifest : TransferManifest} {planned : ManifestPagePlan}
    (h : Ranges qt manifest limits planned) (hid : planned.transferId = manifest.summary.id)
    (hcount : planned.entryCount = manifest.entries.length)
    (htotal : planned.totalMetadataBytes =
      pagesSize manifest planned (List.range planned.pageCount)) :
    PlansPages qt manifest limits planned where
  ranges := h.covered
  partition := rangesMatch_flatMap h.covered
  pages index hindex := by
    have hpage := encodes_of_encode (h.encode hindex)
    exact ⟨_, h.encodePage hid hcount hindex, hpage.length, hpage.entryCount, pageMap_length _⟩
  total := by
    refine ⟨(List.range planned.pageCount).map fun index =>
      QCborMap.toCbor (pageMap (pageForRange manifest planned index)), ?_, ?_⟩
    · rw [List.map_map]
      apply List.map_congr_left
      intro index hindex
      exact h.encodePage hid hcount (List.mem_range.mp hindex)
    · rw [htotal, pagesSize, List.map_map]
      rfl

/-- **Page planning is tight and safe.** -/
theorem plan_tight (manifest : TransferManifest) (limits : ManifestPagingLimits) :
    (∀ diagnostic, plan qt sha manifest limits ≠ .error (.pageMetadataTooLarge, diagnostic)) ∧
      ∀ planned, plan qt sha manifest limits = .ok planned →
        PlansPages qt manifest limits planned := by
  refine ⟨plan_spares manifest, fun planned h => ?_⟩
  unfold plan at h
  obtain ⟨hlimits, h⟩ := require_bind_eq_ok.mp h
  obtain ⟨hne, h⟩ := require_bind_eq_ok.mp h
  obtain ⟨-, h⟩ := require_bind_eq_ok.mp h
  obtain ⟨scan, hscan, h⟩ := bind_eq_ok.mp h
  obtain ⟨-, h⟩ := require_bind_eq_ok.mp h
  obtain ⟨-, h⟩ := require_bind_eq_ok.mp h
  obtain ⟨ranges, hranges, h⟩ := bind_eq_ok.mp h
  obtain ⟨total, htotal, h⟩ := bind_eq_ok.mp h
  obtain ⟨-, h⟩ := require_bind_eq_ok.mp h
  cases h
  have hscanned := ranges_of_scan hlimits hne hscan hranges
  obtain hsum | hlarge := hscanned.pageBytes (fun _ => List.mem_range.mp) 0
  · have htotalSize := Except.ok.inj (htotal.symm.trans hsum)
    rw [Nat.zero_add] at htotalSize
    have hplanned : Ranges qt manifest limits
        { transferId := manifest.summary.id, ranges, entryCount := manifest.entries.length
          totalMetadataBytes := total } :=
      ⟨hscanned.limitsValid, hscanned.valid, hscanned.covered, hscanned.pageCount, hscanned.fit⟩
    exact hplanned.plansPages rfl rfl htotalSize
  · exact nomatch htotal.symm.trans hlarge

theorem plan_tight_short_name :
    PlansPages QtText.ascii (namedManifest 1 shortNameDigest) wideLimits (namedPlan 57) :=
  (plan_tight (namedManifest 1 shortNameDigest) wideLimits).2 (namedPlan 57)
    (show plan QtText.ascii namedSha256 (namedManifest 1 shortNameDigest) wideLimits =
      .ok (namedPlan 57) by decide +kernel)

end DeskflowPlus.Transfer.ManifestPageCodec
