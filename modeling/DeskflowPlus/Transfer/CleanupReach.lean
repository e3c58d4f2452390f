import DeskflowPlus.Transfer.CleanupSafety

/-!
# Which expired transfers a cleanup can finish

The receiver records every file of an accepted transfer before the first one has a part. A listing
passes over a state as soon as one of its files has no part, so it passes over a transfer with a
file that was not begun, and over what is left of a cleanup that stopped after its first part.
-/

namespace DeskflowPlus.Transfer

open Checks

namespace PartialCleanupPolicy

variable {Location : Type} {qt : QtText}
  {errorText : ResumeFiles.ErrorText} {settings : PartialCleanupSettings} {disk : ResumeFiles}
  {files : PartFiles Location} {state : ResumeState}

structure WrittenByReceiver (qt : QtText) (errorText : ResumeFiles.ErrorText)
    (settings : PartialCleanupSettings) (disk : ResumeFiles) (files : PartFiles Location)
    (state : ResumeState) : Prop where
  stored : ∃ schema, disk.load qt errorText state.transferId none = .ok (state, schema)
  direction : state.direction = .receiving
  partRelativePath : ∀ file ∈ state.files,
    file.partRelativePath = FileReceiver.stagingRelative state.transferId file.fileId
  partPath : ∀ file ∈ state.files, (partPath qt settings file).1.ok = true
  part : ∀ file ∈ state.files,
    files.node (PartialCleanupPolicy.partPath qt settings file).2 =
        some (.regular file.durableOffset) ∨
      file.durableOffset = 0 ∧
        files.node (PartialCleanupPolicy.partPath qt settings file).2 = none
  apart : (state.files.map fun file =>
    files.locate (PartialCleanupPolicy.partPath qt settings file).2).Nodup

structure Expired (qt : QtText) (settings : PartialCleanupSettings) (scanIo : ScanIo)
    (nowUtc : QDateTime) (state : ResumeState) : Prop where
  configured : nowUtc.isValid ∧ 0 < nowUtc.toMSecsSinceEpoch ∧
    qt.isAbsolutePath settings.stagingRoot ∧ 0 ≤ settings.retention ∧
    settings.retention ≤ (2 ^ 63 - 1) / 1000
  old : state.updatedUtc.toMSecsSinceEpoch ≤
    nowUtc.toMSecsSinceEpoch - settings.retention * 1000
  entry : ∃ entries, scanIo.entries = some entries ∧
    state.transferId.toString ++ ResumeFiles.stateSuffix ∈ entries
  readable : scanIo.faults state.transferId = none

def Lists (qt : QtText) (errorText : ResumeFiles.ErrorText) (settings : PartialCleanupSettings)
    (disk : ResumeFiles) (files : PartFiles Location) (scanIo : ScanIo) (nowUtc : QDateTime)
    (listed : ExpiredPartialTransfer) : Prop :=
  ∃ listing, listExpired qt errorText settings disk files scanIo nowUtc = .ok listing ∧
    listed ∈ listing.expired

def Reaches [DecidableEq Location] (qt : QtText) (errorText : ResumeFiles.ErrorText) (settings : PartialCleanupSettings)
    (disk : ResumeFiles) (files : PartFiles Location) (scanIo : ScanIo) (nowUtc : QDateTime)
    (transferId : TransferId) (refused : QString → Bool) (removeFault : StoreFault) : Prop :=
  ∃ listed, Lists qt errorText settings disk files scanIo nowUtc listed ∧
    listed.transferId = transferId ∧
    let stopped := apply qt errorText settings disk files { refused, removeFault } listed .delete
    stopped.1.error = .partRemoveFailed ∨ stopped.1.error = .stateRemoveFailed →
      ∃ again, Lists qt errorText settings stopped.2.1 stopped.2.2 scanIo nowUtc again ∧
        again.transferId = transferId ∧
        let finished := apply qt errorText settings stopped.2.1 stopped.2.2 {} again .delete
        finished.1.ok = true ∧ finished.2.1.files transferId = none

def plan (qt : QtText) (settings : PartialCleanupSettings) (state : ResumeState) :
    ExpiredPartialTransfer :=
  ⟨state.transferId, state.updatedUtc, state.files.map (listedFile qt settings)⟩

theorem scanEntry_own {directory : QString} {faults : TransferId → StoreFault} {schema : Nat}
    (hload : disk.load qt errorText state.transferId none = .ok (state, schema))
    (hfault : faults state.transferId = none) :
    disk.scanEntry qt errorText directory faults
      (state.transferId.toString ++ ResumeFiles.stateSuffix) = .ok state := by
  have hstem : (state.transferId.toString ++ ResumeFiles.stateSuffix).take
      ((state.transferId.toString ++ ResumeFiles.stateSuffix).length -
        ResumeFiles.stateSuffix.length) = state.transferId.toString := by
    rw [List.length_append, Nat.add_sub_cancel]
    exact List.take_left
  refine scanEntry_eq_ok.mpr ⟨state.transferId, schema, ?_, ?_, ?_⟩
  · rw [hstem]
    exact TransferId.fromString_toString _
  · rw [hstem]
  · simpa only [hfault] using hload

/-- **What is listed of a stored state**: all of it, if all its parts are there. -/
theorem lists_iff {scanIo : ScanIo} {nowUtc : QDateTime} {schema : Nat}
    (hload : disk.load qt errorText state.transferId none = .ok (state, schema))
    (hexpired : Expired qt settings scanIo nowUtc state) {listed : ExpiredPartialTransfer} :
    Lists qt errorText settings disk files scanIo nowUtc listed ∧
        listed.transferId = state.transferId ↔
      state.files ≠ [] ∧ (∀ file ∈ state.files, Removable qt settings files file) ∧
        listed = plan qt settings state := by
  obtain ⟨entries, hentries, hentry⟩ := hexpired.entry
  constructor
  · rintro ⟨⟨listing, hlisting, hmem⟩, hid⟩
    obtain ⟨entry, -, found, hfound, hmem⟩ := (listExpired_eq_ok hlisting).mp hmem
    obtain ⟨-, hfiles, hremovable, rfl⟩ := mem_listState.mp hmem
    obtain ⟨transferId, other, -, -, hother⟩ := scanEntry_eq_ok.mp hfound
    -- the state names the transfer that it was loaded for
    obtain ⟨-, -, -, -, -, -, -, hown⟩ := ResumeFiles.load_eq_ok.mp hother
    have htransfer : transferId = state.transferId := hown.symm.trans hid
    rw [htransfer, hexpired.readable, hload] at hother
    cases hother
    exact ⟨hfiles, hremovable, rfl⟩
  · rintro ⟨hfiles, hremovable, rfl⟩
    obtain ⟨habsolute, -⟩ := ResumeFiles.load_eq_ok.mp hload
    obtain ⟨listing, hlisting⟩ : ∃ listing,
        listExpired qt errorText settings disk files scanIo nowUtc = .ok listing := by
      unfold listExpired ResumeFiles.scan
      rw [require_of hexpired.configured, if_neg (not_not.mpr habsolute)]
      exact ⟨_, rfl⟩
    refine ⟨⟨listing, hlisting, (listExpired_eq_ok hlisting).mpr ⟨_, ?_, state,
      scanEntry_own hload hexpired.readable, mem_listState.mpr
        ⟨hexpired.old, hfiles, hremovable, rfl⟩⟩⟩, rfl⟩
    rw [hentries]
    exact hentry

theorem stillListed_plan {schema : Nat} (hfiles : state.files ≠ [])
    (hload : disk.load qt errorText state.transferId none = .ok (state, schema))
    (hremovable : ∀ file ∈ state.files, Removable qt settings files file) :
    StillListed qt errorText settings disk files none (plan qt settings state) state where
  loaded := ⟨schema, hload⟩
  updatedUtc := rfl
  some_file := fun h => hfiles (List.map_eq_nil_iff.mp h)
  removable := hremovable
  files := .refl _

section Apply

variable [DecidableEq Location]

theorem node_left {paths gone left : List QString}
    (hpresent : ∀ path ∈ paths, files.node path ≠ none) (hapart : (paths.map files.locate).Nodup)
    (hpaths : paths = gone ++ left) {path : QString} (hpath : path ∈ left.head?) :
    (without files gone).node path ≠ none := by
  have hleft : path ∈ left := List.mem_of_mem_head? hpath
  have hfree : files.locate path ∉ gone.map files.locate := by
    rw [hpaths, List.map_append] at hapart
    exact fun hmem => (List.nodup_append.mp hapart).2.2 _ hmem _ (List.mem_map_of_mem hleft) rfl
  have hnode : (without files gone).node path = files.node path := if_neg hfree
  rw [hnode]
  apply hpresent
  rw [hpaths]
  exact List.mem_append_right _ hleft

theorem remove_stored {schema : Nat} {transferId : TransferId}
    (hload : disk.load qt errorText transferId none = .ok (state, schema)) (fault : StoreFault) :
    (∃ failure, fault = some failure ∧
        disk.remove transferId false fault = (.error failure, disk)) ∨
      fault = none ∧ ∃ remaining, disk.remove transferId false fault = (.ok (), remaining) ∧
        remaining.files transferId = none := by
  obtain ⟨habsolute, -, -, bytes, hfile, -⟩ := ResumeFiles.load_eq_ok.mp hload
  unfold ResumeFiles.remove
  dsimp only
  rw [if_neg (not_not.mpr habsolute), hfile]
  cases fault with
  | some failure => exact .inl ⟨failure, rfl, rfl⟩
  | none => exact .inr ⟨rfl, _, rfl, if_pos rfl⟩

theorem apply_plan {schema : Nat} (hfiles : state.files ≠ [])
    (hload : disk.load qt errorText state.transferId none = .ok (state, schema))
    (hremovable : ∀ file ∈ state.files, Removable qt settings files file)
    (hapart : (state.files.map fun file => files.locate (partPath qt settings file).2).Nodup)
    (refused : QString → Bool) (removeFault : StoreFault) :
    ∃ gone left,
      (state.files.map fun file => (partPath qt settings file).2) = gone ++ left ∧
      (∀ path ∈ gone, refused path = false) ∧ (∀ path ∈ left.head?, refused path = true) ∧
      let outcome := apply qt errorText settings disk files { refused, removeFault }
        (plan qt settings state) .delete
      (left ≠ [] ∧ outcome.1.error = .partRemoveFailed ∧ outcome.2 = (disk, without files gone) ∨
        left = [] ∧ removeFault ≠ none ∧ outcome.1.error = .stateRemoveFailed ∧
          outcome.2 = (disk, without files gone) ∨
        left = [] ∧ removeFault = none ∧ outcome.1.error = .none ∧
          outcome.2.1.files state.transferId = none) := by
  have hverify : verify qt errorText settings disk files none (plan qt settings state) =
      .ok (state.files.map fun file => (partPath qt settings file).2) :=
    verify_eq_ok.mpr ⟨state, stillListed_plan hfiles hload hremovable, rfl⟩
  have hpresent : ∀ path ∈ state.files.map fun file => (partPath qt settings file).2,
      files.node path ≠ none := by
    intro path hpath
    obtain ⟨file, hfile, rfl⟩ := List.mem_map.mp hpath
    rw [(hremovable file hfile).part]
    exact nofun
  have hplaces : ((state.files.map fun file => (partPath qt settings file).2).map
      files.locate).Nodup := by
    rwa [List.map_map]
  obtain ⟨complete, removed, after, hremoved⟩ : ∃ complete removed after,
      removeParts refused (state.files.map fun file => (partPath qt settings file).2) 0 files =
        (complete, removed, after) := ⟨_, _, _, rfl⟩
  obtain ⟨gone, left, hpaths, rfl, -, rfl, hgone, hleft⟩ := removeParts_cases hremoved
  refine ⟨gone, left, hpaths, hgone, fun path hpath =>
    (hleft path hpath).resolve_right (node_left hpresent hplaces hpaths hpath), ?_⟩
  unfold apply
  rw [if_neg nofun]
  dsimp only
  rw [hverify]
  dsimp only
  rw [hremoved]
  cases left with
  | cons path rest => exact .inl ⟨List.cons_ne_nil _ _, rfl, rfl⟩
  | nil =>
    dsimp only [List.isEmpty_nil]
    obtain ⟨failure, rfl, hstate⟩ | ⟨rfl, remaining, hstate, hnone⟩ :=
      remove_stored hload removeFault
    · rw [show (plan qt settings state).transferId = state.transferId from rfl, hstate]
      exact .inr (.inl ⟨rfl, nofun, rfl, rfl⟩)
    · rw [show (plan qt settings state).transferId = state.transferId from rfl, hstate]
      exact .inr (.inr ⟨rfl, rfl, rfl, hnone⟩)

def FailsFirst (qt : QtText) (settings : PartialCleanupSettings) (state : ResumeState)
    (refused : QString → Bool) (removeFault : StoreFault) : Prop :=
  (∃ file ∈ state.files.head?, refused (partPath qt settings file).2 = true) ∨
    (∀ file ∈ state.files, refused (partPath qt settings file).2 = false) ∧ removeFault = none

omit [DecidableEq Location] in
theorem WrittenByReceiver.removable_iff
    (h : WrittenByReceiver qt errorText settings disk files state) {file : ResumeFileState}
    (hfile : file ∈ state.files) :
    Removable qt settings files file ↔
      files.node (PartialCleanupPolicy.partPath qt settings file).2 ≠ none := by
  constructor
  · intro hremovable
    rw [hremovable.part]
    exact nofun
  · intro hnode
    refine ⟨h.partPath file hfile, ?_, (h.part file hfile).resolve_right fun hnone =>
      hnode hnone.2⟩
    rw [h.partRelativePath file hfile]
    exact isPartName_append _ (by decide)

theorem gone_eq_nil {gone left : List QString}
    (hpaths : (state.files.map fun file => (partPath qt settings file).2) = gone ++ left)
    (hremovable : ∀ file ∈ state.files, Removable qt settings (without files gone) file) :
    gone = [] := by
  rw [List.eq_nil_iff_forall_not_mem]
  intro path hpath
  have hmem : path ∈ state.files.map fun file => (partPath qt settings file).2 := by
    rw [hpaths]
    exact List.mem_append_left _ hpath
  obtain ⟨file, hfile, rfl⟩ := List.mem_map.mp hmem
  have hpart := (hremovable file hfile).part
  rw [node_without hpath] at hpart
  cases hpart

section Reach

variable {scanIo : ScanIo} {nowUtc : QDateTime} {refused : QString → Bool}
  {removeFault : StoreFault} {schema : Nat}

theorem gone_eq_nil_of_lists {gone left : List QString} {remaining : ResumeFiles}
    {after : PartFiles Location}
    (hload : disk.load qt errorText state.transferId none = .ok (state, schema))
    (hexpired : Expired qt settings scanIo nowUtc state)
    (hpaths : (state.files.map fun file => (partPath qt settings file).2) = gone ++ left)
    (houtcome : (remaining, after) = (disk, without files gone)) {again : ExpiredPartialTransfer}
    (hlists : Lists qt errorText settings remaining after scanIo nowUtc again)
    (hown : again.transferId = state.transferId) : gone = [] := by
  cases houtcome
  exact gone_eq_nil hpaths ((lists_iff hload hexpired).mp ⟨hlists, hown⟩).2.1

theorem failsFirst_of_reaches
    (hload : disk.load qt errorText state.transferId none = .ok (state, schema))
    (hapart : (state.files.map fun file => files.locate (partPath qt settings file).2).Nodup)
    (hexpired : Expired qt settings scanIo nowUtc state)
    (h : Reaches qt errorText settings disk files scanIo nowUtc state.transferId refused
      removeFault) :
    state.files ≠ [] ∧ (∀ file ∈ state.files, Removable qt settings files file) ∧
      FailsFirst qt settings state refused removeFault := by
  obtain ⟨listed, hlisted, hid, hagain⟩ := h
  obtain ⟨hfiles, hremovable, rfl⟩ := (lists_iff hload hexpired).mp ⟨hlisted, hid⟩
  refine ⟨hfiles, hremovable, ?_⟩
  obtain ⟨gone, left, hpaths, hgone, hleft, hend⟩ :=
    apply_plan hfiles hload hremovable hapart refused removeFault
  obtain ⟨-, herror, houtcome⟩ | ⟨rfl, -, herror, houtcome⟩ | ⟨rfl, hfault, -, -⟩ := hend
  · obtain ⟨again, hlists, hown, -⟩ := hagain (.inl herror)
    obtain rfl := gone_eq_nil_of_lists hload hexpired hpaths houtcome hlists hown
    rw [List.nil_append] at hpaths
    obtain ⟨first, rest, hstate⟩ := List.exists_cons_of_ne_nil hfiles
    refine .inl ⟨first, by rw [hstate]; rfl, hleft _ ?_⟩
    rw [← hpaths, hstate]
    rfl
  · obtain ⟨again, hlists, hown, -⟩ := hagain (.inr herror)
    obtain rfl := gone_eq_nil_of_lists hload hexpired hpaths houtcome hlists hown
    exact absurd (List.map_eq_nil_iff.mp hpaths) hfiles
  · rw [List.append_nil] at hpaths
    refine .inr ⟨fun file hfile => hgone _ ?_, hfault⟩
    rw [← hpaths]
    exact List.mem_map_of_mem hfile

theorem gone_eq_nil_of_failsFirst {gone left : List QString}
    (hpaths : (state.files.map fun file => (partPath qt settings file).2) = gone ++ left)
    (hgone : ∀ path ∈ gone, refused path = false)
    (hleft : ∀ path ∈ left.head?, refused path = true) (hsome : left ≠ [])
    (hfails : FailsFirst qt settings state refused removeFault) : gone = [] := by
  obtain ⟨file, hfile, hrefused⟩ | ⟨hallowed, -⟩ := hfails
  · cases gone with
    | nil => rfl
    | cons path gone =>
      obtain ⟨rest, hstate⟩ := List.head?_eq_some_iff.mp hfile
      rw [hstate] at hpaths
      obtain ⟨rfl, -⟩ := List.cons.inj hpaths
      rw [hgone _ List.mem_cons_self] at hrefused
      cases hrefused
  · obtain ⟨path, others, rfl⟩ := List.exists_cons_of_ne_nil hsome
    have hmem : path ∈ state.files.map fun file => (partPath qt settings file).2 := by
      rw [hpaths]
      exact List.mem_append_right _ List.mem_cons_self
    obtain ⟨file, hfile, rfl⟩ := List.mem_map.mp hmem
    have hrefused := hleft _ rfl
    rw [hallowed file hfile] at hrefused
    cases hrefused

theorem reaches_of_failsFirst
    (hload : disk.load qt errorText state.transferId none = .ok (state, schema))
    (hapart : (state.files.map fun file => files.locate (partPath qt settings file).2).Nodup)
    (hexpired : Expired qt settings scanIo nowUtc state) (hfiles : state.files ≠ [])
    (hremovable : ∀ file ∈ state.files, Removable qt settings files file)
    (hfails : FailsFirst qt settings state refused removeFault) :
    Reaches qt errorText settings disk files scanIo nowUtc state.transferId refused
      removeFault := by
  obtain ⟨hlisted, hid⟩ := (lists_iff hload hexpired).mpr ⟨hfiles, hremovable, rfl⟩
  refine ⟨_, hlisted, hid, ?_⟩
  obtain ⟨gone, left, hpaths, hgone, hleft, hend⟩ :=
    apply_plan hfiles hload hremovable hapart refused removeFault
  obtain ⟨hsome, -, houtcome⟩ | ⟨rfl, hfault, -, -⟩ | ⟨-, -, herror, -⟩ := hend
  · intro stopped _
    have hstopped : stopped.2 = (disk, without files gone) := houtcome
    rw [hstopped, gone_eq_nil_of_failsFirst hpaths hgone hleft hsome hfails, without_nil]
    refine ⟨plan qt settings state, hlisted, rfl, ?_⟩
    obtain ⟨_, left, -, -, hleft, hlast⟩ :=
      apply_plan hfiles hload hremovable hapart (fun _ => false) none
    obtain ⟨hsome, -, -⟩ | ⟨-, hfault, -⟩ | ⟨-, -, herror, hnone⟩ := hlast
    · obtain ⟨path, others, rfl⟩ := List.exists_cons_of_ne_nil hsome
      exact nomatch hleft path rfl
    · exact absurd rfl hfault
    · exact ⟨decide_eq_true herror, hnone⟩
  · -- no part failed, so the state's file did, which is not the first removal
    obtain ⟨file, hfile, hrefused⟩ | ⟨-, hnone⟩ := hfails
    · rw [List.append_nil] at hpaths
      have hmem : (partPath qt settings file).2 ∈ gone := by
        rw [← hpaths]
        exact List.mem_map_of_mem (List.mem_of_mem_head? hfile)
      rw [hgone _ hmem] at hrefused
      cases hrefused
    · exact absurd hnone hfault
  · intro stopped hfailed
    have hnone : stopped.1.error = .none := herror
    rw [hnone] at hfailed
    exact hfailed.elim nofun nofun

end Reach

/-- **Which expired transfers a cleanup reaches.** -/
theorem reaches_iff {scanIo : ScanIo} {nowUtc : QDateTime}
    (hwritten : WrittenByReceiver qt errorText settings disk files state)
    (hexpired : Expired qt settings scanIo nowUtc state) (refused : QString → Bool)
    (removeFault : StoreFault) :
    Reaches qt errorText settings disk files scanIo nowUtc state.transferId refused removeFault ↔
      state.files ≠ [] ∧
      (∀ file ∈ state.files, files.node (partPath qt settings file).2 ≠ none) ∧
      FailsFirst qt settings state refused removeFault := by
  obtain ⟨schema, hload⟩ := hwritten.stored
  have hremovableAll : (∀ file ∈ state.files, Removable qt settings files file) ↔
      ∀ file ∈ state.files, files.node (partPath qt settings file).2 ≠ none :=
    forall₂_congr fun file hfile => hwritten.removable_iff hfile
  rw [← hremovableAll]
  constructor
  · exact failsFirst_of_reaches hload hwritten.apart hexpired
  · rintro ⟨hfiles, hremovable, hfails⟩
    exact reaches_of_failsFirst hload hwritten.apart hexpired hfiles hremovable hfails

end Apply

def interruptedScan : ScanIo where
  directory := QString.literal "/inbox/.incoming/resume-active"
  entries := some [TransferId.toString ⟨1, one_nonNull⟩ ++ ResumeFiles.stateSuffix]

theorem expired_interruptedState (durableOffset : Nat) :
    Expired QtText.posix inboxSettings interruptedScan ⟨some 1⟩ (interruptedState durableOffset) where
  configured := by decide
  old := by
    show (1 : Int) ≤ 1 - 0 * 1000
    decide
  entry := ⟨_, rfl, List.mem_singleton_self _⟩
  readable := rfl

theorem partPath_interruptedFile (durableOffset : Nat) :
    partPath QtText.posix inboxSettings (interruptedFile durableOffset) =
      PathPolicy.joinLexicallyUnderRoot QtText.posix inboxSettings.stagingRoot
        (FileReceiver.stagingRelative ⟨1, one_nonNull⟩ ⟨3, three_nonNull⟩) inboxSettings.pathLimits := by
  unfold partPath interruptedFile
  rfl

set_option maxRecDepth 8000 in
theorem partPath_interruptedFile_ok (durableOffset : Nat) :
    (partPath QtText.posix inboxSettings (interruptedFile durableOffset)).1.ok = true := by
  rw [partPath_interruptedFile]
  decide

theorem node_partsWith (part : Option PartNode) (durableOffset : Nat) :
    (partsWith part).node
      (partPath QtText.posix inboxSettings (interruptedFile durableOffset)).2 = part := by
  have hpath : (partPath QtText.posix inboxSettings (interruptedFile durableOffset)).2 =
      interruptedPart := by
    unfold interruptedPart
    rw [partPath_interruptedFile, partPath_interruptedFile]
  rw [hpath]
  simp only [partsWith, PartFiles.node, if_true]

theorem writtenByReceiver_interruptedState {durableOffset : Nat} (h : durableOffset ≤ 2)
    {part : Option PartNode}
    (hpart : part = some (.regular durableOffset) ∨ durableOffset = 0 ∧ part = none) :
    WrittenByReceiver QtText.posix (fun _ => "") inboxSettings
      (storeOf (interruptedState durableOffset)) (partsWith part)
      (interruptedState durableOffset) where
  stored := ⟨_, load_interruptedState h⟩
  direction := rfl
  partRelativePath := List.forall_mem_singleton.mpr rfl
  partPath := List.forall_mem_singleton.mpr (partPath_interruptedFile_ok durableOffset)
  part := by
    refine List.forall_mem_singleton.mpr ?_
    rw [node_partsWith]
    exact hpart
  apart := List.nodup_singleton _

theorem reaches_iff_begun :
    Reaches QtText.posix (fun _ => "") inboxSettings (storeOf (interruptedState 1))
        (partsWith (some (.regular 1))) interruptedScan ⟨some 1⟩ (interruptedState 1).transferId
        (fun _ => false) none ↔
      (interruptedState 1).files ≠ [] ∧
      (∀ file ∈ (interruptedState 1).files, (partsWith (some (.regular 1))).node
        (partPath QtText.posix inboxSettings file).2 ≠ none) ∧
      FailsFirst QtText.posix inboxSettings (interruptedState 1) (fun _ => false) none :=
  reaches_iff (writtenByReceiver_interruptedState (by decide) (.inl rfl))
    (expired_interruptedState 1) (fun _ => false) none

/-- A file that was not begun keeps its transfer from being listed, and a part that is gone keeps it
from being listed again. -/
theorem interruptedState_not_reached :
    (WrittenByReceiver QtText.posix (fun _ => "") inboxSettings (storeOf (interruptedState 0))
        (partsWith none) (interruptedState 0) ∧
      Expired QtText.posix inboxSettings interruptedScan ⟨some 1⟩ (interruptedState 0) ∧
      ∀ listed, Lists QtText.posix (fun _ => "") inboxSettings (storeOf (interruptedState 0))
        (partsWith none) interruptedScan ⟨some 1⟩ listed →
          listed.transferId ≠ (interruptedState 0).transferId) ∧
    WrittenByReceiver QtText.posix (fun _ => "") inboxSettings (storeOf (interruptedState 1))
        (partsWith (some (.regular 1))) (interruptedState 1) ∧
      Expired QtText.posix inboxSettings interruptedScan ⟨some 1⟩ (interruptedState 1) ∧
      ¬ Reaches QtText.posix (fun _ => "") inboxSettings (storeOf (interruptedState 1))
        (partsWith (some (.regular 1))) interruptedScan ⟨some 1⟩ (interruptedState 1).transferId
        (fun _ => false) (some (.removeFailed, "")) := by
  have hzero := writtenByReceiver_interruptedState (Nat.zero_le 2) (.inr ⟨rfl, rfl⟩)
  have hone := writtenByReceiver_interruptedState (Nat.le_succ 1) (.inl rfl)
  refine ⟨⟨hzero, expired_interruptedState 0, ?_⟩, hone, expired_interruptedState 1, ?_⟩
  · intro listed hlists hown
    obtain ⟨schema, hload⟩ := hzero.stored
    have hremovable := ((lists_iff hload (expired_interruptedState 0)).mp ⟨hlists, hown⟩).2.1
    have hpart := (hremovable _ (List.mem_singleton_self _)).part
    rw [node_partsWith] at hpart
    cases hpart
  · intro hreaches
    obtain ⟨schema, hload⟩ := hone.stored
    obtain ⟨-, -, hfails⟩ :=
      failsFirst_of_reaches hload hone.apart (expired_interruptedState 1) hreaches
    obtain ⟨_, _, hrefused⟩ | ⟨-, hfault⟩ := hfails
    · exact Bool.false_ne_true hrefused
    · cases hfault

end PartialCleanupPolicy

end DeskflowPlus.Transfer
