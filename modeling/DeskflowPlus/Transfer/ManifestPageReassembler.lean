import DeskflowPlus.Lib.Run
import DeskflowPlus.Transfer.CanonicalManifest

/-!
# Putting the pages back together

A receiver takes the pages of an offered manifest in order, each once, and checks every entry
against all that it has. Whatever the peer sends, the entries it holds are in canonical order
without a path or an identifier twice, and stay within what was offered; a page that it refuses
leaves no trace. It hands the entries out once, when all pages are there and their digest is the
one offered.
-/

namespace DeskflowPlus.Transfer

open Checks ManifestPageCodec

structure ManifestPageReassembler where
  expectedTransferId : TransferId
  expectedPageCount : Nat
  expectedEntryCount : Nat
  expectedCanonicalSha256 : QByteArray
  limits : ManifestPagingLimits := {}
  entries : List ManifestEntry := []
  collisionKeys : List QString := []
  fileIds : List QByteArray := []
  nextPageIndex : Nat := 0
  receivedMetadataBytes : Nat := 0
  finished : Bool := false

namespace ManifestPageReassembler

variable (qt : QtText) (sha : Sha256)

def entryCount (r : ManifestPageReassembler) : Nat := r.entries.length

def checkEntries (r : ManifestPageReassembler) : Option ManifestEntry → List QString →
    List QByteArray → List ManifestEntry → Result Unit
  | _, _, _, [] => .ok ()
  | previous, pageCollisionKeys, pageFileIds, entry :: entries => do
    validateEntry qt entry r.limits.pathLimits
    require (follows previous entry)
      (.invalidManifestOrder, "manifest entries are duplicated or not in canonical order")
    let key := collisionKey qt entry r.limits.pathLimits
    require (key ∉ r.collisionKeys ∧ key ∉ pageCollisionKeys)
      (.protocolPathCollision, "manifest contains a portable path collision")
    let fileId := entry.id.toBytes
    require (fileId ∉ r.fileIds ∧ fileId ∉ pageFileIds)
      (.duplicateFileId, "manifest contains a duplicate fileId")
    checkEntries r (some entry) (pageCollisionKeys ++ [key]) (pageFileIds ++ [fileId]) entries

def checkPage (page : ManifestPage) (encodedBytes : Nat) (r : ManifestPageReassembler) :
    Result Unit := do
  require (r.finished = false) (.alreadyComplete, "manifest reassembly is already complete")
  require (limitsAreValid r.limits ∧ r.expectedPageCount ≠ 0 ∧
      r.expectedPageCount ≤ r.limits.maxPages ∧ r.expectedEntryCount ≤ r.limits.maxEntries ∧
      r.expectedCanonicalSha256.length = kSha256Bytes)
    (.invalidLimits, "expected manifest parameters exceed RDFT/1 limits")
  require (page.transferId = r.expectedTransferId)
    (.transferMismatch, "manifest page transferId does not match the offer")
  require (page.pageCount = r.expectedPageCount)
    (.pageCountMismatch, "manifest page count does not match the offer")
  require (¬ page.pageIndex < r.nextPageIndex) (.duplicatePage, "manifest page is a duplicate")
  require (¬ page.pageIndex > r.nextPageIndex)
    (.outOfOrderPage, "manifest page arrived out of order or a prior page is missing")
  require (encodedBytes ≤ quint64Max - r.receivedMetadataBytes ∧
      r.receivedMetadataBytes + encodedBytes ≤ r.limits.maxManifestMetadataBytes)
    (.manifestMetadataTooLarge, "paged manifest metadata limit exceeded")
  require (page.entries.length ≤ r.expectedEntryCount - r.entryCount)
    (.tooManyEntries, "manifest contains more entries than offered")
  checkEntries qt r r.entries.getLast? [] [] page.entries

def appendPage (page : ManifestPage) (encodedBytes : Nat) (r : ManifestPageReassembler) :
    ManifestPageReassembler :=
  { r with
    entries := r.entries ++ page.entries
    collisionKeys := r.collisionKeys ++ page.entries.map (collisionKey qt · r.limits.pathLimits)
    fileIds := r.fileIds ++ page.entries.map (·.id.toBytes)
    receivedMetadataBytes := r.receivedMetadataBytes + encodedBytes
    nextPageIndex := r.nextPageIndex + 1 }

def addPageWithEncodedBytes (page : ManifestPage) (encodedBytes : Nat)
    (r : ManifestPageReassembler) : Result Unit × ManifestPageReassembler :=
  match r.checkPage qt page encodedBytes with
  | .error error => (.error error, r)
  | .ok () => (.ok (), r.appendPage qt page encodedBytes)

def addEncodedPage (protocolVersion : UInt16) (metadata : QByteArray)
    (r : ManifestPageReassembler) : Result Unit × ManifestPageReassembler :=
  match decode qt protocolVersion metadata r.limits with
  | .error error => (.error error, r)
  | .ok page => r.addPageWithEncodedBytes qt page metadata.length

def addPage (page : ManifestPage) (r : ManifestPageReassembler) :
    Result Unit × ManifestPageReassembler :=
  match encode qt page r.limits with
  | .error encodeError => (.error (.invalidManifestEntry, encodeError), r)
  | .ok encoded => r.addPageWithEncodedBytes qt page encoded.length

def checkFinish (r : ManifestPageReassembler) : Result Unit := do
  require (r.finished = false) (.alreadyComplete, "manifest is already finalized")
  require (r.nextPageIndex = r.expectedPageCount)
    (.missingPage, "one or more manifest pages are missing")
  require (r.entryCount = r.expectedEntryCount)
    (.entryCountMismatch, "manifest entry count does not match the offer")
  let digest ← (canonicalSha256 qt sha r.entries).mapError fun error => (.digestMismatch, error)
  require (digest ≠ [] ∧ digest = r.expectedCanonicalSha256)
    (.digestMismatch, "manifest digest does not match the offer")

def finish (r : ManifestPageReassembler) :
    Result (List ManifestEntry) × ManifestPageReassembler :=
  match r.checkFinish qt sha with
  | .error error => (.error error, r)
  | .ok () => (.ok r.entries, { r with finished := true, entries := [] })

def finishWith (message : ManifestComplete) (r : ManifestPageReassembler) :
    Result (List ManifestEntry) × ManifestPageReassembler :=
  if message.transferId ≠ r.expectedTransferId then
    (.error (.transferMismatch, "manifest complete transferId does not match the offer"), r)
  else if message.canonicalSha256 ≠ r.expectedCanonicalSha256 then
    (.error (.digestMismatch, "manifest complete digest does not match the offer"), r)
  else r.finish qt sha

/-! ### Calls in any order

The peer chooses the pages, their order and their bytes, and the caller may finish at any time. What
was accepted is recorded beside the reassembler, and what it handed out.
-/

inductive Call where
  | addEncodedPage (protocolVersion : UInt16) (metadata : QByteArray)
  | addPage (page : ManifestPage)
  | finish
  | finishWith (message : ManifestComplete)

/-- The outcome of a call; one that finishes hands the entries out. -/
def call (r : ManifestPageReassembler) :
    Call → Result (Option (List ManifestEntry)) × ManifestPageReassembler
  | .addEncodedPage protocolVersion metadata =>
    (r.addEncodedPage qt protocolVersion metadata).map (·.map fun _ => none) id
  | .addPage page => (r.addPage qt page).map (·.map fun _ => none) id
  | .finish => (r.finish qt sha).map (·.map some) id
  | .finishWith message => (r.finishWith qt sha message).map (·.map some) id

def offered (r : ManifestPageReassembler) : Call → Option (ManifestPage × Nat)
  | .addEncodedPage protocolVersion metadata =>
    (decode qt protocolVersion metadata r.limits).toOption.map (·, metadata.length)
  | .addPage page => (encode qt page r.limits).toOption.map fun encoded => (page, encoded.length)
  | .finish | .finishWith _ => none

structure History where
  reassembler : ManifestPageReassembler
  /-- The pages it took, each with its encoded size. -/
  accepted : List (ManifestPage × Nat) := []
  handedOut : List (List ManifestEntry) := []

namespace History

def entries (history : History) : List ManifestEntry := history.accepted.flatMap (·.1.entries)

def step (history : History) (c : Call) : History :=
  match history.reassembler.call qt sha c with
  | (.error _, reassembler) => { history with reassembler }
  | (.ok handedOut, reassembler) =>
    { reassembler
      accepted := history.accepted ++ (history.reassembler.offered qt c).toList
      handedOut := history.handedOut ++ handedOut.toList }

/-- A reassembler as it is created from an offer, whatever the offer says. -/
def start (history : History) : Prop :=
  ∃ (expectedTransferId : TransferId) (expectedPageCount expectedEntryCount : Nat)
    (expectedCanonicalSha256 : QByteArray) (limits : ManifestPagingLimits),
    history = { reassembler := {
      expectedTransferId, expectedPageCount, expectedEntryCount, expectedCanonicalSha256
      limits := limits } }

def machine : Machine History Call where
  start := start
  step history c := some (history.step qt sha c)

end History

variable {qt sha} {r : ManifestPageReassembler}

theorem checkEntries_eq_ok {held entries : List ManifestEntry} {pageCollisionKeys : List QString}
    {pageFileIds : List QByteArray} (hheld : Canonical qt r.limits.pathLimits held)
    (hkeys : r.collisionKeys ++ pageCollisionKeys =
      held.map (collisionKey qt · r.limits.pathLimits))
    (hids : r.fileIds ++ pageFileIds = held.map (·.id.toBytes)) :
    r.checkEntries qt held.getLast? pageCollisionKeys pageFileIds entries = .ok () ↔
      Canonical qt r.limits.pathLimits (held ++ entries) := by
  induction entries generalizing held pageCollisionKeys pageFileIds with
  | nil =>
    rw [List.append_nil]
    exact iff_of_true rfl hheld
  | cons entry entries ih =>
    have hsplit : held ++ entry :: entries = held ++ [entry] ++ entries := by
      rw [List.append_assoc, List.singleton_append]
    have hkey (key : QString) : key ∉ r.collisionKeys ∧ key ∉ pageCollisionKeys ↔
        key ∉ held.map (collisionKey qt · r.limits.pathLimits) := by
      rw [← hkeys, List.mem_append, not_or]
    have hid (fileId : QByteArray) : fileId ∉ r.fileIds ∧ fileId ∉ pageFileIds ↔
        fileId ∉ held.map (·.id.toBytes) := by
      rw [← hids, List.mem_append, not_or]
    rw [checkEntries]
    dsimp only
    rw [unit_bind_eq_ok, validateEntry_eq_ok, require_bind_eq_ok, require_bind_eq_ok,
      require_bind_eq_ok, hkey, hid]
    constructor
    · rintro ⟨hvalid, hfollows, hnewKey, hnewId, hrest⟩
      have hnext := hheld.concat_iff.mpr ⟨hvalid, hfollows, hnewKey, hnewId⟩
      rw [← List.getLast?_concat (l := held) (a := entry)] at hrest
      rw [hsplit]
      exact (ih hnext (by rw [← List.append_assoc, hkeys, List.map_append]; rfl)
        (by rw [← List.append_assoc, hids, List.map_append]; rfl)).mp hrest
    · intro hall
      rw [hsplit] at hall
      have hnext := hall.of_append
      obtain ⟨hvalid, hfollows, hnewKey, hnewId⟩ := hheld.concat_iff.mp hnext
      refine ⟨hvalid, hfollows, hnewKey, hnewId, ?_⟩
      rw [← List.getLast?_concat (l := held) (a := entry)]
      exact (ih hnext (by rw [← List.append_assoc, hkeys, List.map_append]; rfl)
        (by rw [← List.append_assoc, hids, List.map_append]; rfl)).mpr hall

variable {limits : ManifestPagingLimits} {page : ManifestPage}

theorem decodeMap_pageIndex {map : QCborMap} (h : decodeMap qt map limits = .ok page) :
    page.pageIndex < page.pageCount := by
  unfold decodeMap at h
  obtain ⟨-, h⟩ := require_bind_eq_ok.mp h
  obtain ⟨transferId, -, h⟩ := bind_eq_ok.mp h
  obtain ⟨pageIndex, -, h⟩ := bind_eq_ok.mp h
  obtain ⟨pageCount, -, h⟩ := bind_eq_ok.mp h
  obtain ⟨-, h⟩ := require_bind_eq_ok.mp h
  obtain ⟨hindex, h⟩ := require_bind_eq_ok.mp h
  obtain ⟨entriesValue, -, h⟩ := bind_eq_ok.mp h
  obtain ⟨values, -, h⟩ := bind_eq_ok.mp h
  obtain ⟨-, h⟩ := require_bind_eq_ok.mp h
  obtain ⟨entries, -, h⟩ := bind_eq_ok.mp h
  cases h
  exact hindex

theorem decode_pageIndex {protocolVersion : UInt16} {metadata : QByteArray}
    (h : decode qt protocolVersion metadata limits = .ok page) :
    page.pageIndex < page.pageCount := by
  unfold decode at h
  obtain ⟨-, h⟩ := require_bind_eq_ok.mp h
  obtain ⟨-, h⟩ := require_bind_eq_ok.mp h
  obtain ⟨-, h⟩ := require_bind_eq_ok.mp h
  obtain ⟨-, h⟩ := require_bind_eq_ok.mp h
  obtain ⟨value, -, h⟩ := bind_eq_ok.mp h
  obtain ⟨map, -, h⟩ := bind_eq_ok.mp h
  exact decodeMap_pageIndex h

theorem encode_pageIndex {encoded : QByteArray} (h : encode qt page limits = .ok encoded) :
    page.pageIndex < page.pageCount := by
  unfold encode at h
  obtain ⟨-, h⟩ := require_bind_eq_ok.mp h
  exact (require_bind_eq_ok.mp h).1.2.2

structure Takes (qt : QtText) (r : ManifestPageReassembler) (page : ManifestPage)
    (encodedBytes : Nat) : Prop where
  notFinished : r.finished = false
  sameCount : page.pageCount = r.expectedPageCount
  next : page.pageIndex = r.nextPageIndex
  bytesFit : r.receivedMetadataBytes + encodedBytes ≤ r.limits.maxManifestMetadataBytes
  limitsValid : limitsAreValid r.limits = true
  countFits : page.entries.length ≤ r.expectedEntryCount - r.entryCount
  entriesOk : r.checkEntries qt r.entries.getLast? [] [] page.entries = .ok ()

theorem takes_of_checkPage {encodedBytes : Nat} (h : r.checkPage qt page encodedBytes = .ok ()) :
    Takes qt r page encodedBytes := by
  unfold checkPage at h
  obtain ⟨hfinished, h⟩ := require_bind_eq_ok.mp h
  obtain ⟨hlimits, h⟩ := require_bind_eq_ok.mp h
  obtain ⟨-, h⟩ := require_bind_eq_ok.mp h
  obtain ⟨hcount, h⟩ := require_bind_eq_ok.mp h
  obtain ⟨hnew, h⟩ := require_bind_eq_ok.mp h
  obtain ⟨hnext, h⟩ := require_bind_eq_ok.mp h
  obtain ⟨hbytes, h⟩ := require_bind_eq_ok.mp h
  obtain ⟨hentries, h⟩ := require_bind_eq_ok.mp h
  exact ⟨hfinished, hcount, by omega, hbytes.2, hlimits.1, hentries, h⟩

theorem checkPage_of {encodedBytes : Nat} (hfinished : r.finished = false)
    (hparameters : limitsAreValid r.limits ∧ r.expectedPageCount ≠ 0 ∧
      r.expectedPageCount ≤ r.limits.maxPages ∧ r.expectedEntryCount ≤ r.limits.maxEntries ∧
      r.expectedCanonicalSha256.length = kSha256Bytes)
    (hid : page.transferId = r.expectedTransferId) (hcount : page.pageCount = r.expectedPageCount)
    (hindex : page.pageIndex = r.nextPageIndex)
    (hbytes : r.receivedMetadataBytes + encodedBytes ≤ r.limits.maxManifestMetadataBytes)
    (hlimit : r.limits.maxManifestMetadataBytes ≤ quint64Max)
    (hentries : r.entryCount + page.entries.length ≤ r.expectedEntryCount)
    (hchecked : r.checkEntries qt r.entries.getLast? [] [] page.entries = .ok ()) :
    r.checkPage qt page encodedBytes = .ok () := by
  have hnotBefore : ¬ page.pageIndex < r.nextPageIndex := by omega
  have hnotAfter : ¬ page.pageIndex > r.nextPageIndex := by omega
  have hfits : encodedBytes ≤ quint64Max - r.receivedMetadataBytes ∧
      r.receivedMetadataBytes + encodedBytes ≤ r.limits.maxManifestMetadataBytes := by omega
  have hroom : page.entries.length ≤ r.expectedEntryCount - r.entryCount := by omega
  unfold checkPage
  rw [require_of hfinished, ok_bind, require_of hparameters, ok_bind, require_of hid, ok_bind,
    require_of hcount, ok_bind, require_of hnotBefore, ok_bind, require_of hnotAfter, ok_bind,
    require_of hfits, ok_bind, require_of hroom, ok_bind, hchecked]

/-- What the checks at the end find. -/
structure Completes (qt : QtText) (sha : Sha256) (r : ManifestPageReassembler) : Prop where
  notFinished : r.finished = false
  allPages : r.nextPageIndex = r.expectedPageCount
  allEntries : r.entryCount = r.expectedEntryCount
  digest : canonicalSha256 qt sha r.entries = .ok r.expectedCanonicalSha256

theorem completes_of_checkFinish (h : r.checkFinish qt sha = .ok ()) : Completes qt sha r := by
  unfold checkFinish at h
  obtain ⟨hfinished, h⟩ := require_bind_eq_ok.mp h
  obtain ⟨hpages, h⟩ := require_bind_eq_ok.mp h
  obtain ⟨hentries, h⟩ := require_bind_eq_ok.mp h
  obtain ⟨digest, hdigest, h⟩ := bind_eq_ok.mp h
  have hsame := (require_eq_ok.mp h).2
  refine ⟨hfinished, hpages, hentries, ?_⟩
  cases hsum : canonicalSha256 qt sha r.entries with
  | error error =>
    rw [hsum] at hdigest
    exact absurd hdigest nofun
  | ok sum =>
    rw [hsum] at hdigest
    cases hdigest
    rw [hsame]

theorem call_cases (c : Call) :
    (∃ error, r.call qt sha c = (.error error, r)) ∨
      (∃ page encodedBytes, r.offered qt c = some (page, encodedBytes) ∧
        page.pageIndex < page.pageCount ∧ Takes qt r page encodedBytes ∧
        r.call qt sha c = (.ok none, r.appendPage qt page encodedBytes)) ∨
      (r.offered qt c = none ∧ Completes qt sha r ∧
        r.call qt sha c = (.ok (some r.entries), { r with finished := true, entries := [] })) := by
  have hpage {page : ManifestPage} {encodedBytes : Nat} :
      (∃ error, r.addPageWithEncodedBytes qt page encodedBytes = (.error error, r)) ∨
        Takes qt r page encodedBytes ∧
          r.addPageWithEncodedBytes qt page encodedBytes =
            (.ok (), r.appendPage qt page encodedBytes) := by
    unfold addPageWithEncodedBytes
    cases hcheck : r.checkPage qt page encodedBytes with
    | error error => exact .inl ⟨error, rfl⟩
    | ok _ => exact .inr ⟨takes_of_checkPage hcheck, rfl⟩
  have hfinish : (∃ error, r.finish qt sha = (.error error, r)) ∨ Completes qt sha r ∧
      r.finish qt sha = (.ok r.entries, { r with finished := true, entries := [] }) := by
    unfold finish
    cases hcheck : r.checkFinish qt sha with
    | error error => exact .inl ⟨error, rfl⟩
    | ok _ => exact .inr ⟨completes_of_checkFinish hcheck, rfl⟩
  cases c with
  | addEncodedPage protocolVersion metadata =>
    cases hdecode : decode qt protocolVersion metadata r.limits with
    | error error => exact .inl ⟨error, by rw [call, addEncodedPage, hdecode]; rfl⟩
    | ok page =>
      have hoffered : r.offered qt (.addEncodedPage protocolVersion metadata) =
          some (page, metadata.length) := by
        rw [offered, hdecode]
        rfl
      rcases @hpage page metadata.length with ⟨error, hrefused⟩ | ⟨htakes, htaken⟩
      · refine .inl ⟨error, ?_⟩
        rw [call, addEncodedPage, hdecode]
        dsimp only
        rw [hrefused]
        rfl
      · refine .inr (.inl ⟨_, _, hoffered, decode_pageIndex hdecode, htakes, ?_⟩)
        rw [call, addEncodedPage, hdecode]
        dsimp only
        rw [htaken]
        rfl
  | addPage page =>
    cases hencode : encode qt page r.limits with
    | error error => exact .inl ⟨_, by rw [call, addPage, hencode]; rfl⟩
    | ok encoded =>
      have hoffered : r.offered qt (.addPage page) = some (page, encoded.length) := by
        rw [offered, hencode]
        rfl
      rcases @hpage page encoded.length with ⟨error, hrefused⟩ | ⟨htakes, htaken⟩
      · refine .inl ⟨error, ?_⟩
        rw [call, addPage, hencode]
        dsimp only
        rw [hrefused]
        rfl
      · refine .inr (.inl ⟨_, _, hoffered, encode_pageIndex hencode, htakes, ?_⟩)
        rw [call, addPage, hencode]
        dsimp only
        rw [htaken]
        rfl
  | finish =>
    rcases hfinish with ⟨error, hrefused⟩ | ⟨hcompletes, hfinished⟩
    · exact .inl ⟨error, by rw [call, hrefused]; rfl⟩
    · exact .inr (.inr ⟨rfl, hcompletes, by rw [call, hfinished]; rfl⟩)
  | finishWith message =>
    rw [call, finishWith]
    by_cases htransfer : message.transferId ≠ r.expectedTransferId
    · exact .inl ⟨_, by rw [if_pos htransfer]; rfl⟩
    by_cases hdigest : message.canonicalSha256 ≠ r.expectedCanonicalSha256
    · exact .inl ⟨_, by rw [if_neg htransfer, if_pos hdigest]; rfl⟩
    rw [if_neg htransfer, if_neg hdigest]
    rcases hfinish with ⟨error, hrefused⟩ | ⟨hcompletes, hfinished⟩
    · exact .inl ⟨error, by rw [hrefused]; rfl⟩
    · exact .inr (.inr ⟨rfl, hcompletes, by rw [hfinished]; rfl⟩)

theorem call_refused {c : Call} {error : ManifestPageError × String}
    (h : (r.call qt sha c).1 = .error error) : (r.call qt sha c).2 = r := by
  rcases @call_cases qt sha r c with
    ⟨_, hcall⟩ | ⟨_, _, -, -, -, hcall⟩ | ⟨-, -, hcall⟩
  · rw [hcall]
  · rw [hcall] at h
    exact absurd h nofun
  · rw [hcall] at h
    exact absurd h nofun

namespace History

variable {history : History}

structure Sound (qt : QtText) (sha : Sha256) (history : History) : Prop where
  indices : history.accepted.map (·.1.pageIndex) = List.range history.reassembler.nextPageIndex
  pageBound : history.reassembler.nextPageIndex ≤ history.reassembler.expectedPageCount
  canonical : Canonical qt history.reassembler.limits.pathLimits history.entries
  keys : history.reassembler.collisionKeys =
    history.entries.map (collisionKey qt · history.reassembler.limits.pathLimits)
  ids : history.reassembler.fileIds = history.entries.map (·.id.toBytes)
  countBound : history.entries.length ≤ history.reassembler.expectedEntryCount
  bytes : history.reassembler.receivedMetadataBytes = (history.accepted.map Prod.snd).sum
  bytesBound : history.reassembler.receivedMetadataBytes ≤
    history.reassembler.limits.maxManifestMetadataBytes
  noUnderflow : history.reassembler.receivedMetadataBytes ≤ quint64Max
  unfinished : history.reassembler.finished = false →
    history.reassembler.entries = history.entries ∧ history.handedOut = []
  finished : history.reassembler.finished = true →
    history.reassembler.entries = [] ∧ history.handedOut = [history.entries] ∧
      history.reassembler.nextPageIndex = history.reassembler.expectedPageCount ∧
      history.entries.length = history.reassembler.expectedEntryCount ∧
      canonicalSha256 qt sha history.entries =
        .ok history.reassembler.expectedCanonicalSha256

theorem entries_concat {encodedBytes : Nat} {accepted : List (ManifestPage × Nat)}
    (h : history.accepted = accepted ++ [(page, encodedBytes)]) :
    history.entries = accepted.flatMap (·.1.entries) ++ page.entries := by
  rw [entries, h, List.flatMap_append, List.flatMap_singleton]

theorem Sound.of_start (h : start history) : Sound qt sha history := by
  obtain ⟨expectedTransferId, expectedPageCount, expectedEntryCount, expectedCanonicalSha256, limits,
    rfl⟩ := h
  exact ⟨rfl, Nat.zero_le _, Canonical.nil, rfl, rfl, Nat.zero_le _, rfl, Nat.zero_le _,
    Nat.zero_le _, fun _ => ⟨rfl, rfl⟩, nofun⟩

/-- **A page that is taken** continues the canonical list within what was offered. -/
theorem Sound.takes (h : Sound qt sha history) {encodedBytes : Nat}
    (hpage : page.pageIndex < page.pageCount)
    (htakes : Takes qt history.reassembler page encodedBytes) :
    Sound qt sha
      { reassembler := history.reassembler.appendPage qt page encodedBytes
        accepted := history.accepted ++ [(page, encodedBytes)]
        handedOut := history.handedOut } := by
  obtain ⟨hentries, hhanded⟩ := h.unfinished htakes.notFinished
  have hbytes := htakes.bytesFit
  have hnext := htakes.next
  have hcount := htakes.sameCount
  have hfits := htakes.countFits
  have hlarge : history.reassembler.limits.maxManifestMetadataBytes ≤ 64 * 1024 * 1024 := by
    have hvalid := htakes.limitsValid
    unfold limitsAreValid kMaxPagedManifestMetadataBytes at hvalid
    rw [decide_eq_true_iff] at hvalid
    omega
  have hcanonical : Canonical qt history.reassembler.limits.pathLimits
      (history.entries ++ page.entries) := by
    refine (checkEntries_eq_ok h.canonical ?_ ?_).mp (hentries ▸ htakes.entriesOk)
    · rw [List.append_nil, h.keys]
    · rw [List.append_nil, h.ids]
  have hlength : history.entries.length + page.entries.length ≤
      history.reassembler.expectedEntryCount := by
    have hbound := h.countBound
    rw [entryCount, hentries] at hfits
    omega
  have hall : entries
      { reassembler := history.reassembler.appendPage qt page encodedBytes
        accepted := history.accepted ++ [(page, encodedBytes)]
        handedOut := history.handedOut } = history.entries ++ page.entries :=
    entries_concat rfl
  constructor
  · show (history.accepted ++ [(page, encodedBytes)]).map _ =
      List.range (history.reassembler.nextPageIndex + 1)
    rw [List.map_append, h.indices, List.range_succ, List.map_singleton, hnext]
  · show history.reassembler.nextPageIndex + 1 ≤ history.reassembler.expectedPageCount
    omega
  · rwa [hall]
  · rw [hall, List.map_append]
    exact congrArg (· ++ _) h.keys
  · rw [hall, List.map_append, ← h.ids]
    rfl
  · rw [hall, List.length_append]
    exact hlength
  · show history.reassembler.receivedMetadataBytes + encodedBytes =
      ((history.accepted ++ [(page, encodedBytes)]).map Prod.snd).sum
    rw [List.map_append, List.sum_append, ← h.bytes, List.map_singleton, List.sum_singleton]
  · exact hbytes
  · show history.reassembler.receivedMetadataBytes + encodedBytes ≤ 2 ^ 64 - 1
    omega
  · intro _
    rw [hall]
    exact ⟨by rw [← hentries]; rfl, hhanded⟩
  · intro hfinished
    exact absurd (htakes.notFinished.symm.trans hfinished) nofun

/-- **The hand-over**, once, of entries with the digest of the offer. -/
theorem Sound.completes (h : Sound qt sha history)
    (hcompletes : Completes qt sha history.reassembler) :
    Sound qt sha
      { reassembler := { history.reassembler with finished := true, entries := [] }
        accepted := history.accepted
        handedOut := history.handedOut ++ [history.reassembler.entries] } := by
  obtain ⟨hentries, hhanded⟩ := h.unfinished hcompletes.notFinished
  have hall := hcompletes.allEntries
  rw [entryCount, hentries] at hall
  refine ⟨h.indices, h.pageBound, h.canonical, h.keys, h.ids, h.countBound, h.bytes, h.bytesBound,
    h.noUnderflow, nofun, fun _ => ⟨rfl, ?_, hcompletes.allPages, hall, ?_⟩⟩
  · show history.handedOut ++ [history.reassembler.entries] = [history.entries]
    rw [hhanded, hentries]
    rfl
  · have hdigest := hcompletes.digest
    rwa [hentries] at hdigest

theorem Sound.step (h : Sound qt sha history) (c : Call) :
    Sound qt sha (history.step qt sha c) := by
  unfold History.step
  rcases @call_cases qt sha history.reassembler c with
    ⟨_, hcall⟩ | ⟨page, encodedBytes, hoffered, hpage, htakes, hcall⟩ |
    ⟨hoffered, hcompletes, hcall⟩
  · rw [hcall]
    exact h
  · rw [hcall, hoffered]
    dsimp only [Option.toList]
    rw [List.append_nil]
    exact h.takes hpage htakes
  · rw [hcall, hoffered]
    dsimp only [Option.toList]
    rw [List.append_nil]
    exact h.completes hcompletes

theorem sound_of_reachable (h : (machine qt sha).Reachable (fun _ _ => True) history) :
    Sound qt sha history := by
  have hkeep (before : History) (c : Call) (after : History) (hbefore : Sound qt sha before)
      (_ : True) (hstep : (machine qt sha).step before c = some after) : Sound qt sha after := by
    obtain rfl : before.step qt sha c = after := Option.some.inj hstep
    exact hbefore.step c
  exact Machine.Reachable.invariant (fun _ hstart => Sound.of_start hstart) hkeep h

namespace Sound

variable (hsound : Sound qt sha history)

include hsound

theorem held : history.reassembler.entries =
    if history.reassembler.finished then [] else history.entries := by
  cases hfinished : history.reassembler.finished with
  | false => exact (hsound.unfinished hfinished).1
  | true => exact (hsound.finished hfinished).1

theorem entryCount_le :
    history.reassembler.entryCount ≤ history.reassembler.expectedEntryCount := by
  rw [entryCount, hsound.held]
  split
  · exact Nat.zero_le _
  · exact hsound.countBound

theorem handedOut_length : history.handedOut.length ≤ 1 := by
  cases hfinished : history.reassembler.finished with
  | false => simp [(hsound.unfinished hfinished).2]
  | true => simp [(hsound.finished hfinished).2.1]

theorem of_mem_handedOut {handedOut : List ManifestEntry} (h : handedOut ∈ history.handedOut) :
    handedOut = history.entries ∧
      history.accepted.length = history.reassembler.expectedPageCount ∧
      handedOut.length = history.reassembler.expectedEntryCount ∧
      canonicalSha256 qt sha handedOut = .ok history.reassembler.expectedCanonicalSha256 := by
  have haccepted : history.accepted.length = history.reassembler.nextPageIndex := by
    rw [← List.length_map (·.1.pageIndex), hsound.indices, List.length_range]
  cases hfinished : history.reassembler.finished with
  | false =>
    rw [(hsound.unfinished hfinished).2] at h
    exact absurd h nofun
  | true =>
    obtain ⟨-, hhanded, hpages, hcount, hdigest⟩ := hsound.finished hfinished
    rw [hhanded, List.mem_singleton] at h
    subst h
    exact ⟨rfl, haccepted.trans hpages, hcount, hdigest⟩

end Sound

theorem step_refused {c : Call} {error : ManifestPageError × String}
    (h : (history.reassembler.call qt sha c).1 = .error error) :
    history.step qt sha c = history := by
  have hsame : history.reassembler.call qt sha c = (.error error, history.reassembler) :=
    Prod.ext h (call_refused h)
  unfold History.step
  rw [hsame]

/-- **Soundness.** Whatever calls are made, the accepted pages are the first ones, each once and in
order; their entries are in canonical order without a path or an identifier twice, within the
offered count and the metadata limit, so that nothing is subtracted from less; a refused call
changes nothing; and the entries are handed out at most once, when all are there with the digest of
the offer. -/
theorem reassembly_sound (h : (machine qt sha).Reachable (fun _ _ => True) history) :
    history.accepted.map (·.1.pageIndex) = List.range history.reassembler.nextPageIndex ∧
      history.reassembler.nextPageIndex ≤ history.reassembler.expectedPageCount ∧
      history.reassembler.entries =
        (if history.reassembler.finished then [] else history.entries) ∧
      history.entries.Pairwise PathLess ∧ (history.entries.map (·.id)).Nodup ∧
      (history.entries.map (collisionKey qt · history.reassembler.limits.pathLimits)).Nodup ∧
      history.entries.length ≤ history.reassembler.expectedEntryCount ∧
      history.reassembler.entryCount ≤ history.reassembler.expectedEntryCount ∧
      history.reassembler.receivedMetadataBytes = (history.accepted.map Prod.snd).sum ∧
      history.reassembler.receivedMetadataBytes ≤
        history.reassembler.limits.maxManifestMetadataBytes ∧
      history.reassembler.receivedMetadataBytes ≤ quint64Max ∧
      (∀ c error, (history.reassembler.call qt sha c).1 = .error error →
        (history.reassembler.call qt sha c).2 = history.reassembler ∧
          history.step qt sha c = history) ∧
      history.handedOut.length ≤ 1 ∧
      ∀ handedOut ∈ history.handedOut, handedOut = history.entries ∧
        history.accepted.length = history.reassembler.expectedPageCount ∧
        handedOut.length = history.reassembler.expectedEntryCount ∧
        canonicalSha256 qt sha handedOut = .ok history.reassembler.expectedCanonicalSha256 := by
  have hsound := sound_of_reachable h
  exact ⟨hsound.indices, hsound.pageBound, hsound.held, hsound.canonical.sorted,
    hsound.canonical.ids_nodup, hsound.canonical.keys, hsound.countBound, hsound.entryCount_le,
    hsound.bytes, hsound.bytesBound, hsound.noUnderflow,
    fun _ _ hcall => ⟨call_refused hcall, step_refused hcall⟩, hsound.handedOut_length,
    fun _ hmem => hsound.of_mem_handedOut hmem⟩

/-! Two pages of one entry each; the second comes too early, and the first a second time. -/

def sampleEntry (id : FileId) (path : String) : ManifestEntry :=
  { id, relativeProtocolPath := QString.literal path, size := 0, modifiedUtc := ⟨some 0⟩
    sha256 := [] }

def sampleEntries : List ManifestEntry :=
  [sampleEntry ⟨1, one_nonNull⟩ "a", sampleEntry ⟨2, two_nonNull⟩ "b"]

def samplePage (pageIndex : Nat) : ManifestPage :=
  { transferId := ⟨7, seven_nonNull⟩, pageIndex, pageCount := 2
    entries := (sampleEntries.drop pageIndex).take 1 }

def sampleSha256 : Sha256 where
  hash bytes :=
    if bytes = 0x82 :: sampleEntries.flatMap canonicalEntryBytes then
      [0x95, 0xb0, 0x9e, 0xda, 0xb6, 0x34, 0xc6, 0x2f, 0x7a, 0xaf, 0xfb, 0xaf, 0x2b, 0x63, 0x07,
        0xf0, 0x7c, 0x80, 0x64, 0x00, 0xdc, 0xa7, 0xc5, 0xfa, 0x2c, 0xe1, 0xe3, 0xe8, 0x02, 0x83,
        0x20, 0x07]
    else List.replicate 32 0
  length_hash bytes := by
    split <;> simp [kSha256Bytes]

def sampleStart : History :=
  { reassembler :=
      { expectedTransferId := ⟨7, seven_nonNull⟩
        expectedPageCount := 2
        expectedEntryCount := 2
        expectedCanonicalSha256 :=
          sampleSha256.hash (0x82 :: sampleEntries.flatMap canonicalEntryBytes) } }

def sampleCalls : List Call :=
  [.addPage (samplePage 1), .addPage (samplePage 0), .addPage (samplePage 0),
    .addPage (samplePage 1), .finish, .finish]

theorem reassembly_sound_sample :
    ((machine QtText.ascii sampleSha256).exec sampleStart sampleCalls).map handedOut =
        some [sampleEntries] ∧
      ∀ history ∈ (machine QtText.ascii sampleSha256).exec sampleStart sampleCalls,
        history.entries.Pairwise PathLess :=
  ⟨by decide +kernel, fun _ h =>
    (reassembly_sound ⟨sampleStart, ⟨_, _, _, _, _, rfl⟩, Machine.run_of_exec h⟩).2.2.2.1⟩

end History

end ManifestPageReassembler

end DeskflowPlus.Transfer
