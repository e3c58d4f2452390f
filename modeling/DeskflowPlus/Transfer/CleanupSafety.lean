import Mathlib.Data.List.Perm.Subperm
import DeskflowPlus.Transfer.FileReceiver
import DeskflowPlus.Transfer.PartialCleanupPolicy
import DeskflowPlus.Transfer.PathContainment

/-!
# A cleanup removes what it has looked at

A delete goes through if the stored state, listed once more, gives the files of the plan: the
identifiers of a stored state are distinct, so as many files as were listed, each found among them,
are all of them.
-/

namespace DeskflowPlus.Transfer

open Checks PathSegments

namespace PartFiles

variable {Location : Type} [DecidableEq Location] {files after : PartFiles Location}
  {path : QString} {refused : Bool}

theorem remove_eq_true :
    files.remove path refused = (true, after) ↔
      refused = false ∧ files.node path ≠ none ∧
        after = { files with nodes := Function.update files.nodes (files.locate path) none } := by
  unfold remove
  by_cases hkept : (refused || (files.node path).isNone) = true
  · rw [if_pos hkept]
    refine iff_of_false nofun ?_
    rintro ⟨rfl, hnode, -⟩
    exact hnode (Option.isNone_iff_eq_none.mp hkept)
  · rw [if_neg hkept]
    rw [Bool.or_eq_true, not_or, Bool.not_eq_true, Option.isNone_iff_eq_none] at hkept
    constructor
    · intro h
      cases h
      exact ⟨hkept.1, hkept.2, rfl⟩
    · rintro ⟨-, -, rfl⟩
      rfl

theorem remove_eq_false :
    files.remove path refused = (false, after) ↔
      (refused = true ∨ files.node path = none) ∧ after = files := by
  unfold remove
  by_cases hkept : (refused || (files.node path).isNone) = true
  · rw [if_pos hkept]
    rw [Bool.or_eq_true, Option.isNone_iff_eq_none] at hkept
    constructor
    · intro h
      cases h
      exact ⟨hkept, rfl⟩
    · rintro ⟨-, rfl⟩
      rfl
  · rw [if_neg hkept]
    rw [Bool.or_eq_true, Option.isNone_iff_eq_none] at hkept
    exact iff_of_false nofun fun h => hkept h.1

end PartFiles

namespace PartialCleanupPolicy

variable {Location : Type} {qt : QtText}
  {errorText : ResumeFiles.ErrorText} {settings : PartialCleanupSettings} {disk : ResumeFiles}
  {files : PartFiles Location} {listed : ExpiredPartialTransfer} {transferId : TransferId}
  {state : ResumeState} {file : ResumeFileState} {loadFault : StoreFault}

def listedFile (qt : QtText) (settings : PartialCleanupSettings) (file : ResumeFileState) :
    ExpiredPartialFile where
  fileId := file.fileId
  relativeProtocolPath := file.relativeProtocolPath
  partAbsolutePath := (partPath qt settings file).2
  durableOffset := file.durableOffset
  totalBytes := file.totalBytes

structure Removable (qt : QtText) (settings : PartialCleanupSettings)
    (files : PartFiles Location) (file : ResumeFileState) : Prop where
  path : (partPath qt settings file).1.ok = true
  name : isPartName file.partRelativePath = true
  part : files.node (partPath qt settings file).2 = some (.regular file.durableOffset)

theorem listFile_eq_ok {found : ExpiredPartialFile} :
    listFile qt settings files transferId file = .ok found ↔
      Removable qt settings files file ∧ found = listedFile qt settings file := by
  unfold listFile
  dsimp only
  rw [require_bind_eq_ok]
  constructor
  · rintro ⟨⟨hpath, hname⟩, h⟩
    split at h
    · rename_i size hnode
      obtain ⟨hsize, hfound⟩ := require_bind_eq_ok.mp h
      exact ⟨⟨hpath, hname, hsize ▸ hnode⟩, (Except.ok.inj hfound).symm⟩
    · cases h
  · rintro ⟨⟨hpath, hname, hnode⟩, rfl⟩
    refine ⟨⟨hpath, hname⟩, ?_⟩
    rw [hnode]
    exact require_bind_eq_ok.mpr ⟨rfl, rfl⟩

theorem verifyFile_eq_ok {path : QString} :
    verifyFile qt settings files listed file = .ok path ↔
      (Removable qt settings files file ∧
        listed.files.find? (·.fileId = file.fileId) = some (listedFile qt settings file)) ∧
        path = (partPath qt settings file).2 := by
  unfold verifyFile
  dsimp only
  rw [require_bind_eq_ok, require_bind_eq_ok]
  constructor
  · rintro ⟨⟨hpath, hname, hcandidate⟩, hnode, h⟩
    obtain ⟨candidate, hfound, hequal⟩ := (Option.any_eq_true _ _).mp hcandidate
    simp only [Bool.and_eq_true, decide_eq_true_eq] at hequal
    obtain ⟨⟨⟨habsolute, hprotocol⟩, hoffset⟩, htotal⟩ := hequal
    have hid := List.find?_some hfound
    rw [decide_eq_true_eq] at hid
    refine ⟨⟨⟨hpath, hname, hnode⟩, hfound.trans (congrArg some ?_)⟩, (Except.ok.inj h).symm⟩
    unfold listedFile
    rw [habsolute, hprotocol, hoffset, htotal, ← hid]
  · rintro ⟨⟨⟨hpath, hname, hnode⟩, hfound⟩, rfl⟩
    refine ⟨⟨hpath, hname, ?_⟩, hnode, rfl⟩
    rw [hfound]
    simp [listedFile]

theorem issue?_listFile :
    issue? (listFile qt settings files transferId file) = none ↔ Removable qt settings files file := by
  cases h : listFile qt settings files transferId file with
  | error issue =>
    refine iff_of_false nofun fun hremovable => ?_
    rw [listFile_eq_ok.mpr ⟨hremovable, rfl⟩] at h
    cases h
  | ok found => exact iff_of_true rfl (listFile_eq_ok.mp h).1

theorem mem_listState {cutoffMs : Int} :
    listed ∈ (listState qt settings files cutoffMs state).expired ↔
      state.updatedUtc.toMSecsSinceEpoch ≤ cutoffMs ∧ state.files ≠ [] ∧
        (∀ file ∈ state.files, Removable qt settings files file) ∧
        listed = ⟨state.transferId, state.updatedUtc, state.files.map (listedFile qt settings)⟩ := by
  unfold listState
  by_cases hold : state.updatedUtc.toMSecsSinceEpoch > cutoffMs
  · rw [if_pos hold]
    exact iff_of_false nofun fun h => absurd h.1 (Int.not_le.mpr hold)
  · rw [if_neg hold]
    dsimp only
    have hissues : (state.files.map (listFile qt settings files state.transferId)).filterMap
        issue? = [] ↔ ∀ file ∈ state.files, Removable qt settings files file := by
      rw [List.filterMap_eq_nil_iff, List.forall_mem_map]
      simp only [issue?_listFile]
    by_cases hall : ∀ file ∈ state.files, Removable qt settings files file
    · have hfound : (state.files.map (listFile qt settings files state.transferId)).filterMap
          Except.toOption = state.files.map (listedFile qt settings) := by
        rw [List.filterMap_map, ← List.filterMap_eq_map]
        apply List.filterMap_congr
        intro file hfile
        rw [Function.comp_apply, listFile_eq_ok.mpr ⟨hall file hfile, rfl⟩]
        rfl
      rw [hfound]
      by_cases hsome : state.files = []
      · rw [hsome, if_neg fun h => h.2 rfl]
        exact iff_of_false nofun fun h => h.2.1 rfl
      · rw [if_pos ⟨hissues.mpr hall, fun hnil => hsome (List.map_eq_nil_iff.mp hnil)⟩, List.mem_singleton]
        exact ⟨fun h => ⟨Int.not_lt.mp hold, hsome, hall, h⟩, fun h => h.2.2.2⟩
    · rw [if_neg fun h => hall (hissues.mp h.1)]
      exact iff_of_false nofun fun h => hall h.2.2.1

theorem scanEntry_eq_ok {directory entry : QString} {faults : TransferId → StoreFault} :
    disk.scanEntry qt errorText directory faults entry = .ok state ↔
      ∃ transferId schema,
        TransferId.fromString
            (entry.take (entry.length - ResumeFiles.stateSuffix.length)) = some transferId ∧
          qt.toCaseFolded transferId.toString =
            qt.toCaseFolded (entry.take (entry.length - ResumeFiles.stateSuffix.length)) ∧
          disk.load qt errorText transferId (faults transferId) = .ok (state, schema) := by
  unfold ResumeFiles.scanEntry
  dsimp only
  constructor
  · intro h
    split at h
    · cases h
    · rename_i transferId hid
      split at h
      · cases h
      · rename_i hfolded
        split at h
        · cases h
        · rename_i found schema hload
          cases h
          exact ⟨transferId, schema, hid, not_not.mp hfolded, hload⟩
  · rintro ⟨transferId, schema, hid, hfolded, hload⟩
    rw [hid]
    dsimp only
    rw [if_neg (not_not.mpr hfolded), hload]

theorem listExpired_eq_ok {io : ScanIo} {nowUtc : QDateTime} {listing : PartialCleanupListing}
    (h : listExpired qt errorText settings disk files io nowUtc = .ok listing) :
    listed ∈ listing.expired ↔ ∃ entry ∈ io.entries.getD [], ∃ state,
      disk.scanEntry qt errorText io.directory io.faults entry = .ok state ∧
        listed ∈ (listState qt settings files
          (nowUtc.toMSecsSinceEpoch - settings.retention * 1000) state).expired := by
  obtain ⟨-, h⟩ := require_bind_eq_ok.mp h
  obtain ⟨scanned, hscan, h⟩ := bind_eq_ok.mp h
  have hscanned : scanned =
      (io.entries.getD []).map (disk.scanEntry qt errorText io.directory io.faults) := by
    have hscan := mapError_eq_ok.mp hscan
    unfold ResumeFiles.scan at hscan
    split at hscan
    · cases hscan
    · exact (Except.ok.inj hscan).symm
  cases h
  subst hscanned
  simp only [List.mem_flatMap, List.mem_map, List.mem_filterMap]
  constructor
  · rintro ⟨_, ⟨state, ⟨_, ⟨entry, hentry, rfl⟩, hstate⟩, rfl⟩, hlisted⟩
    refine ⟨entry, hentry, state, ?_, hlisted⟩
    cases hok : disk.scanEntry qt errorText io.directory io.faults entry with
    | error issue =>
      rw [hok] at hstate
      cases hstate
    | ok found =>
      rw [hok] at hstate
      cases hstate
      rfl
  · rintro ⟨entry, hentry, state, hstate, hlisted⟩
    refine ⟨_, ⟨state, ⟨_, ⟨entry, hentry, rfl⟩, ?_⟩, rfl⟩, hlisted⟩
    rw [hstate]
    rfl

structure StillListed (qt : QtText) (errorText : ResumeFiles.ErrorText)
    (settings : PartialCleanupSettings) (disk : ResumeFiles) (files : PartFiles Location)
    (loadFault : StoreFault) (listed : ExpiredPartialTransfer) (state : ResumeState) : Prop where
  loaded : ∃ schema, disk.load qt errorText listed.transferId loadFault = .ok (state, schema)
  updatedUtc : state.updatedUtc = listed.updatedUtc
  some_file : listed.files ≠ []
  removable : ∀ file ∈ state.files, Removable qt settings files file
  files : (state.files.map (listedFile qt settings)).Perm listed.files

theorem validState_of_load {schema : Nat}
    (h : disk.load qt errorText transferId loadFault = .ok (state, schema)) :
    ResumeStore.ValidState qt disk.limits state := by
  obtain ⟨-, -, -, bytes, -, -, hdecode, -⟩ := ResumeFiles.load_eq_ok.mp h
  exact (ResumeStore.validState_of_decodeState hdecode).1

theorem fileIds_nodup {schema : Nat}
    (h : disk.load qt errorText transferId loadFault = .ok (state, schema)) :
    (state.files.map (·.fileId)).Nodup :=
  (validState_of_load h).ids.of_append_left

theorem map_fileId_listedFile (stored : List ResumeFileState) :
    (stored.map (listedFile qt settings)).map (·.fileId) = stored.map (·.fileId) := by
  rw [List.map_map]
  rfl

theorem perm_of_found {stored : List ResumeFileState} (hids : (stored.map (·.fileId)).Nodup)
    (hlength : stored.length = listed.files.length)
    (hfound : ∀ file ∈ stored,
      listed.files.find? (·.fileId = file.fileId) = some (listedFile qt settings file)) :
    (stored.map (listedFile qt settings)).Perm listed.files := by
  have hnodup : (stored.map (listedFile qt settings)).Nodup := by
    apply List.Nodup.of_map (·.fileId)
    rwa [map_fileId_listedFile]
  have hsubset : stored.map (listedFile qt settings) ⊆ listed.files := by
    intro candidate hcandidate
    obtain ⟨file, hfile, rfl⟩ := List.mem_map.mp hcandidate
    exact List.mem_of_find?_eq_some (hfound file hfile)
  apply (List.subperm_of_subset hnodup hsubset).perm_of_length_le
  rw [List.length_map, hlength]

theorem found_of_perm {stored : List ResumeFileState} (hids : (stored.map (·.fileId)).Nodup)
    (hperm : (stored.map (listedFile qt settings)).Perm listed.files)
    (hfile : file ∈ stored) :
    listed.files.find? (·.fileId = file.fileId) = some (listedFile qt settings file) := by
  have hmem : listedFile qt settings file ∈ listed.files :=
    hperm.mem_iff.mp (List.mem_map_of_mem hfile)
  obtain ⟨candidate, hcandidate⟩ : ∃ candidate,
      listed.files.find? (·.fileId = file.fileId) = some candidate := by
    rw [← Option.isSome_iff_exists, List.find?_isSome]
    exact ⟨_, hmem, decide_eq_true rfl⟩
  have hid := List.find?_some hcandidate
  rw [decide_eq_true_eq] at hid
  obtain ⟨other, hother, rfl⟩ :=
    List.mem_map.mp (hperm.mem_iff.mpr (List.mem_of_find?_eq_some hcandidate))
  have heq : other = file := List.inj_on_of_nodup_map hids hother hfile hid
  rw [hcandidate, heq]

/-- **A plan is verified if the stored state is still the listed one.** -/
theorem verify_eq_ok {paths : List QString} :
    verify qt errorText settings disk files loadFault listed = .ok paths ↔
      ∃ state, StillListed qt errorText settings disk files loadFault listed state ∧
        paths = state.files.map fun file => (partPath qt settings file).2 := by
  unfold verify
  rw [require_bind_eq_ok]
  constructor
  · rintro ⟨hfiles, h⟩
    split at h
    · cases h
    · cases h
    · rename_i state schema hload
      obtain ⟨⟨htime, hlength⟩, hverified⟩ := require_bind_eq_ok.mp h
      obtain ⟨hall, rfl⟩ := (mapM_eq_ok_iff verifyFile_eq_ok).mp hverified
      exact ⟨state, ⟨⟨schema, hload⟩, htime, hfiles, fun file hfile => (hall file hfile).1,
        perm_of_found (fileIds_nodup hload) hlength fun file hfile => (hall file hfile).2⟩, rfl⟩
  · rintro ⟨state, ⟨⟨schema, hload⟩, htime, hfiles, hremovable, hperm⟩, rfl⟩
    refine ⟨hfiles, ?_⟩
    have hlength := hperm.length_eq
    rw [List.length_map] at hlength
    rw [hload]
    refine require_bind_eq_ok.mpr ⟨⟨htime, hlength⟩, (mapM_eq_ok_iff verifyFile_eq_ok).mpr
      ⟨fun file hfile => ⟨hremovable file hfile, ?_⟩, rfl⟩⟩
    exact found_of_perm (fileIds_nodup hload) hperm hfile

section Remove

variable [DecidableEq Location]

def without (files : PartFiles Location) (paths : List QString) : PartFiles Location where
  locate := files.locate
  nodes location := if location ∈ paths.map files.locate then none else files.nodes location

theorem without_nil : without files [] = files := rfl

theorem without_cons (path : QString) (paths : List QString) :
    without { files with nodes := Function.update files.nodes (files.locate path) none } paths =
      without files (path :: paths) := by
  unfold without
  rw [PartFiles.mk.injEq]
  refine ⟨rfl, ?_⟩
  funext location
  dsimp only
  rw [List.map_cons]
  by_cases hmem : location ∈ paths.map files.locate
  · rw [if_pos hmem, if_pos (List.mem_cons_of_mem _ hmem)]
  · rw [if_neg hmem]
    by_cases hfirst : location = files.locate path
    · rw [hfirst, Function.update_self, if_pos List.mem_cons_self]
    · rw [Function.update_of_ne hfirst, if_neg]
      rw [List.mem_cons]
      exact not_or.mpr ⟨hfirst, hmem⟩

variable {paths : List QString}

theorem removeParts_cases {refused : QString → Bool} {count removed : Nat} {complete : Bool}
    {after : PartFiles Location}
    (h : removeParts refused paths count files = (complete, removed, after)) :
    ∃ gone left, paths = gone ++ left ∧ after = without files gone ∧
      removed = count + gone.length ∧ complete = left.isEmpty ∧
      (∀ path ∈ gone, refused path = false) ∧
      ∀ path ∈ left.head?, refused path = true ∨ after.node path = none := by
  induction paths generalizing count files with
  | nil =>
    cases h
    exact ⟨[], [], rfl, without_nil.symm, rfl, rfl, nofun, nofun⟩
  | cons path paths ih =>
    unfold removeParts at h
    split at h
    · rename_i kept hremove
      cases h
      obtain ⟨hstays, rfl⟩ := PartFiles.remove_eq_false.mp hremove
      refine ⟨[], path :: paths, rfl, without_nil.symm, rfl, rfl, nofun, ?_⟩
      rintro _ ⟨⟩
      exact hstays
    · rename_i next hremove
      obtain ⟨hallowed, -, rfl⟩ := PartFiles.remove_eq_true.mp hremove
      obtain ⟨gone, left, rfl, rfl, rfl, hcomplete, hgone, hleft⟩ := ih h
      refine ⟨path :: gone, left, rfl, without_cons path gone, ?_, hcomplete, ?_, hleft⟩
      · rw [List.length_cons]
        omega
      · exact List.forall_mem_cons.mpr ⟨hallowed, hgone⟩

theorem apply_cases {io : ApplyIo} {choice : PartialCleanupChoice}
    {result : PartialCleanupApplyResult} {remaining : ResumeFiles} {after : PartFiles Location}
    (h : apply qt errorText settings disk files io listed choice = (result, remaining, after)) :
    (remaining = disk ∧ after = files) ∨
      choice = .delete ∧ ∃ state gone left,
        StillListed qt errorText settings disk files io.loadFault listed state ∧
        (state.files.map fun file => (partPath qt settings file).2) = gone ++ left ∧
        after = without files gone ∧
        (remaining = disk ∨
          left = [] ∧ remaining = (disk.remove listed.transferId io.linkLeads io.removeFault).2) := by
  unfold apply at h
  split at h
  · cases h
    exact .inl ⟨rfl, rfl⟩
  · rename_i hchoice
    have hdelete : choice = .delete := by
      cases choice
      · exact absurd rfl hchoice
      · rfl
    split at h
    · cases h
      exact .inl ⟨rfl, rfl⟩
    · rename_i paths hverify
      obtain ⟨state, hlisted, rfl⟩ := verify_eq_ok.mp hverify
      refine .inr ⟨hdelete, state, ?_⟩
      split at h
      · rename_i removed next hremoved
        cases h
        obtain ⟨gone, left, hpaths, hafter, -⟩ := removeParts_cases hremoved
        exact ⟨gone, left, hlisted, hpaths, hafter, .inl rfl⟩
      · rename_i removed next hremoved
        obtain ⟨gone, left, hpaths, hafter, -, hcomplete, -⟩ := removeParts_cases hremoved
        have hleft : left = [] := List.isEmpty_iff.mp hcomplete.symm
        split at h
        · rename_i failure kept hstate
          cases h
          refine ⟨gone, left, hlisted, hpaths, hafter, .inr ⟨hleft, ?_⟩⟩
          rw [hstate]
        · rename_i kept hstate
          cases h
          refine ⟨gone, left, hlisted, hpaths, hafter, .inr ⟨hleft, ?_⟩⟩
          rw [hstate]

theorem remove_files {linkLeads : Bool} {fault : StoreFault} {id : TransferId}
    (h : (disk.remove transferId linkLeads fault).2.files id ≠ disk.files id) : id = transferId := by
  by_contra hne
  apply h
  cases fault with
  | some failure =>
    unfold ResumeFiles.remove
    dsimp only
    split
    · rfl
    · split
      · rfl
      · split <;> rfl
      · rfl
  | none =>
    unfold ResumeFiles.remove
    dsimp only
    split
    · rfl
    · split
      · rfl
      · split
        · exact if_neg hne
        · rfl
      · exact if_neg hne

theorem isPartName_append (directory : QString) {name : QString} (h : isPartName name = true) :
    isPartName (directory ++ name) = true := by
  unfold isPartName at h ⊢
  dsimp only at h ⊢
  rw [decide_eq_true_eq] at h ⊢
  have hlength : 5 ≤ name.length := by
    have hlength := congrArg List.length h
    rw [List.length_map, List.length_drop] at hlength
    have hsuffix : (QString.literal ".part").length = 5 := rfl
    omega
  rw [List.length_append, Nat.add_sub_assoc hlength, List.drop_append]
  rw [List.drop_eq_nil_of_le (Nat.le_add_right _ _), List.nil_append, Nat.add_sub_cancel_left]
  exact h

theorem partPath_of_valid {rootOf : QString → QString} (hpaths : DocumentedPaths qt rootOf)
    (hunicode : DocumentedUnicode qt) {limits : ResumeStoreLimits}
    (hvalid : ResumeStore.ValidFile qt limits file)
    (hjoined : (partPath qt settings file).1.ok = true) :
    (partPath qt settings file).2 =
        PathPolicy.under qt settings.stagingRoot file.partRelativePath ∧
      Descends 0x2f 0x2e file.partRelativePath := by
  have hnormal : qt.normalizedC file.partRelativePath = file.partRelativePath := by
    rw [← PathPolicy.validateRelative_normalized hvalid.partPath.ok, hvalid.partPath.normalized]
  obtain ⟨haccepted, hpath⟩ := PathPolicy.joinLexicallyUnderRoot_of_ok hpaths hunicode hjoined
  have hdescends := haccepted.descends
  rw [hnormal] at hpath hdescends
  exact ⟨congrArg Prod.snd hpath, hdescends⟩

def VerifiedPart (qt : QtText) (settings : PartialCleanupSettings) (files : PartFiles Location)
    (listed : ExpiredPartialTransfer) (state : ResumeState) (location : Location) : Prop :=
  ∃ file ∈ state.files, ∃ candidate ∈ listed.files,
    candidate = listedFile qt settings file ∧
    candidate.partAbsolutePath = PathPolicy.under qt settings.stagingRoot file.partRelativePath ∧
    Descends 0x2f 0x2e file.partRelativePath ∧
    isPartName candidate.partAbsolutePath = true ∧
    files.locate candidate.partAbsolutePath = location ∧
    files.nodes location = some (.regular candidate.durableOffset)

/-- What a cleanup promises of one call. -/
structure RemovesVerified (qt : QtText) (errorText : ResumeFiles.ErrorText)
    (settings : PartialCleanupSettings) (disk : ResumeFiles) (files : PartFiles Location)
    (io : ApplyIo) (listed : ExpiredPartialTransfer) (choice : PartialCleanupChoice)
    (remaining : ResumeFiles) (after : PartFiles Location) : Prop where
  /-- What goes is a part of the listed transfer's state, which is stored as it was listed. -/
  part : ∀ location, after.nodes location ≠ files.nodes location →
    choice = .delete ∧ after.nodes location = none ∧
      ∃ state, StillListed qt errorText settings disk files io.loadFault listed state ∧
        VerifiedPart qt settings files listed state location
  locate : after.locate = files.locate
  /-- If no link of a directory leads out of a region from below the root, what goes is inside. -/
  inside : ∀ region : Set Location,
    (∀ relative, Descends 0x2f 0x2e relative →
      files.locate (PathPolicy.under qt settings.stagingRoot relative) ∈ region) →
    ∀ location, after.nodes location ≠ files.nodes location → location ∈ region
  /-- The state goes last. -/
  state : ∀ transferId, remaining.files transferId ≠ disk.files transferId →
    transferId = listed.transferId ∧
      ∀ candidate ∈ listed.files, after.node candidate.partAbsolutePath = none
  /-- If one candidate is not what the stored state gives now, nothing goes. -/
  verified : ∀ candidate ∈ listed.files,
    (∀ state schema, disk.load qt errorText listed.transferId io.loadFault = .ok (state, schema) →
      ∀ file ∈ state.files,
        listFile qt settings files listed.transferId file ≠ .ok candidate) →
    remaining = disk ∧ after = files
  /-- If the stored state is not the listed one, nothing goes. -/
  stillListed : (∀ state,
      ¬ StillListed qt errorText settings disk files io.loadFault listed state) →
    remaining = disk ∧ after = files
  /-- A plan that comes from a listing is about a state that had expired then. -/
  expired : ∀ (before : ResumeFiles) (partsBefore : PartFiles Location) scanIo nowUtc listing,
    listExpired qt errorText settings before partsBefore scanIo nowUtc = .ok listing →
    listed ∈ listing.expired →
    ∀ state, StillListed qt errorText settings disk files io.loadFault listed state →
      state.updatedUtc.toMSecsSinceEpoch ≤
        nowUtc.toMSecsSinceEpoch - settings.retention * 1000

theorem nodes_without {location : Location}
    (h : (without files paths).nodes location ≠ files.nodes location) :
    (without files paths).nodes location = none ∧ ∃ path ∈ paths, files.locate path = location := by
  unfold without at h ⊢
  dsimp only at h ⊢
  by_cases hmem : location ∈ paths.map files.locate
  · rw [if_pos hmem]
    exact ⟨rfl, List.mem_map.mp hmem⟩
  · rw [if_neg hmem] at h
    exact absurd rfl h

theorem node_without {path : QString} (h : path ∈ paths) :
    (without files paths).node path = none :=
  if_pos (List.mem_map_of_mem h)

omit [DecidableEq Location] in
theorem verifiedPart_of_mem {rootOf : QString → QString} (hpaths : DocumentedPaths qt rootOf)
    (hunicode : DocumentedUnicode qt) {location : Location}
    (hlisted : StillListed qt errorText settings disk files loadFault listed state)
    (hfile : file ∈ state.files)
    (hlocation : files.locate (partPath qt settings file).2 = location) :
    VerifiedPart qt settings files listed state location := by
  obtain ⟨schema, hload⟩ := hlisted.loaded
  have hremovable := hlisted.removable file hfile
  obtain ⟨hunder, hdescends⟩ := partPath_of_valid hpaths hunicode
    ((validState_of_load hload).files file hfile) hremovable.path
  refine ⟨file, hfile, listedFile qt settings file,
    hlisted.files.mem_iff.mp (List.mem_map_of_mem hfile), rfl, hunder, hdescends, ?_, hlocation, ?_⟩
  · show isPartName (partPath qt settings file).2 = true
    rw [hunder]
    exact isPartName_append _ hremovable.name
  · rw [← hlocation]
    exact hremovable.part

/-- **A cleanup removes only what it has verified.** -/
theorem apply_removes_verified {rootOf : QString → QString} (hpaths : DocumentedPaths qt rootOf)
    (hunicode : DocumentedUnicode qt) (errorText : ResumeFiles.ErrorText)
    (settings : PartialCleanupSettings) (disk : ResumeFiles) (files : PartFiles Location)
    (io : ApplyIo) (listed : ExpiredPartialTransfer) (choice : PartialCleanupChoice) :
    RemovesVerified qt errorText settings disk files io listed choice
      (apply qt errorText settings disk files io listed choice).2.1
      (apply qt errorText settings disk files io listed choice).2.2 := by
  obtain ⟨result, remaining, after, happly⟩ : ∃ result remaining after,
      apply qt errorText settings disk files io listed choice = (result, remaining, after) :=
    ⟨_, _, _, rfl⟩
  rw [happly]
  have hkept : (∀ state,
      ¬ StillListed qt errorText settings disk files io.loadFault listed state) →
      remaining = disk ∧ after = files := by
    intro hnone
    obtain hkept | ⟨-, state, _, _, hlisted, -⟩ := apply_cases happly
    · exact hkept
    · exact absurd hlisted (hnone state)
  have hpart : ∀ location, after.nodes location ≠ files.nodes location →
      choice = .delete ∧ after.nodes location = none ∧
        ∃ state, StillListed qt errorText settings disk files io.loadFault listed state ∧
          VerifiedPart qt settings files listed state location := by
    intro location hchanged
    obtain ⟨-, rfl⟩ | ⟨hdelete, state, gone, left, hlisted, hpathsEq, rfl, -⟩ := apply_cases happly
    · exact absurd rfl hchanged
    · obtain ⟨hnone, path, hpath, hlocation⟩ := nodes_without hchanged
      have hmem : path ∈ state.files.map fun file => (partPath qt settings file).2 := by
        rw [hpathsEq]
        exact List.mem_append_left _ hpath
      obtain ⟨file, hfile, rfl⟩ := List.mem_map.mp hmem
      exact ⟨hdelete, hnone, state, hlisted,
        verifiedPart_of_mem hpaths hunicode hlisted hfile hlocation⟩
  refine ⟨hpart, ?_, ?_, ?_, ?_, hkept, ?_⟩
  · obtain ⟨-, rfl⟩ | ⟨-, _, _, _, -, -, rfl, -⟩ := apply_cases happly
    · rfl
    · rfl
  · intro region hregion location hchanged
    obtain ⟨-, -, state, -, file, -, candidate, -, -, hunder, hdescends, -, hlocation, -⟩ :=
      hpart location hchanged
    rw [← hlocation, hunder]
    exact hregion _ hdescends
  · intro transferId hchanged
    obtain ⟨rfl, -⟩ | ⟨-, state, gone, left, hlisted, hpathsEq, rfl, hstate⟩ :=
      apply_cases happly
    · exact absurd rfl hchanged
    · obtain rfl | ⟨rfl, rfl⟩ := hstate
      · exact absurd rfl hchanged
      · refine ⟨remove_files hchanged, fun candidate hcandidate => node_without ?_⟩
        obtain ⟨file, hfile, rfl⟩ := List.mem_map.mp (hlisted.files.mem_iff.mpr hcandidate)
        rw [← List.append_nil gone, ← hpathsEq]
        exact List.mem_map_of_mem hfile
  · intro candidate hcandidate hnone
    apply hkept
    intro state hlisted
    obtain ⟨schema, hload⟩ := hlisted.loaded
    obtain ⟨file, hfile, rfl⟩ := List.mem_map.mp (hlisted.files.mem_iff.mpr hcandidate)
    exact hnone state schema hload file hfile
      (listFile_eq_ok.mpr ⟨hlisted.removable file hfile, rfl⟩)
  · intro before partsBefore scanIo nowUtc listing hlisting hmem state hlisted
    obtain ⟨entry, -, earlier, -, hmem⟩ := (listExpired_eq_ok hlisting).mp hmem
    obtain ⟨hold, -, -, rfl⟩ := mem_listState.mp hmem
    rw [hlisted.updatedUtc]
    exact hold

end Remove

def interruptedFile (durableOffset : Nat) : ResumeFileState where
  fileId := ⟨3, three_nonNull⟩
  relativeProtocolPath := QString.literal "a"
  durableOffset
  totalBytes := 2
  partRelativePath := FileReceiver.stagingRelative ⟨1, one_nonNull⟩ ⟨3, three_nonNull⟩

def interruptedState (durableOffset : Nat) : ResumeState where
  transferId := ⟨1, one_nonNull⟩
  peerDeviceId := ⟨2, two_nonNull⟩
  manifestSha256 := List.replicate 32 0
  files := [interruptedFile durableOffset]
  resolvedTargets := []
  updatedUtc := ⟨some 1⟩

def storeOf (state : ResumeState) : ResumeFiles where
  maximumFiles_lt := ResumeFiles.defaultMaximumFiles_lt
  files id :=
    if id = state.transferId then some (.regular (ResumeStore.encodeState state)) else none

def inboxSettings : PartialCleanupSettings where
  stagingRoot := QString.literal "/inbox"
  retention := 0

def interruptedPart : QString :=
  (partPath QtText.posix inboxSettings (interruptedFile 0)).2

def partsWith (part : Option PartNode) : PartFiles QString where
  locate path := path
  nodes path := if path = interruptedPart then part else none

set_option maxRecDepth 8000 in
theorem validPaths_interruptedState : ∀ path ∈ [QString.literal "a",
    FileReceiver.stagingRelative ⟨1, one_nonNull⟩ ⟨3, three_nonNull⟩],
    ResumeStore.ValidPath QtText.posix {} path := by
  simp only [List.forall_mem_cons]
  exact ⟨⟨by decide, by decide⟩, ⟨by decide, by decide⟩, by rintro _ ⟨⟩⟩

variable {durableOffset : Nat}

theorem validState_interruptedState (h : durableOffset ≤ 2) :
    ResumeStore.ValidState QtText.posix {} (interruptedState durableOffset) where
  manifestSha256 := rfl
  timeValid := rfl
  timePositive := Int.one_pos
  maximumFiles := by decide
  count := by
    show 1 + 0 ≤ 100000
    omega
  files := List.forall_mem_singleton.mpr ⟨validPaths_interruptedState _ (.head _),
    validPaths_interruptedState _ (.tail _ (.head _)), h, by
      show 2 ≤ 2 ^ 63 - 1
      omega⟩
  targets := nofun
  distinct :=
    ⟨List.nodup_singleton _, List.nodup_singleton _, List.nodup_singleton _, .nil⟩

set_option maxRecDepth 8000 in
theorem length_encodeState_interruptedState (h : durableOffset ≤ 2) :
    (ResumeStore.encodeState (interruptedState durableOffset)).length = 208 := by
  obtain rfl | rfl | rfl : durableOffset = 0 ∨ durableOffset = 1 ∨ durableOffset = 2 := by omega
  · rfl
  · rfl
  · rfl

theorem load_interruptedState (h : durableOffset ≤ 2) :
    (storeOf (interruptedState durableOffset)).load QtText.posix errorText
        (interruptedState durableOffset).transferId none =
      .ok (interruptedState durableOffset, kResumeStateSchemaVersion) := by
  have hlength : (ResumeStore.encodeState (interruptedState durableOffset)).length ≤
      (storeOf (interruptedState durableOffset)).limits.maximumEncodedBytes := by
    rw [length_encodeState_interruptedState h]
    exact Nat.le_of_ble_eq_true rfl
  have hfile : (storeOf (interruptedState durableOffset)).files
      (interruptedState durableOffset).transferId =
      some (.regular (ResumeStore.encodeState (interruptedState durableOffset))) := by
    simp [storeOf, interruptedState]
  have htime : (interruptedState durableOffset).updatedUtc.toMSecsSinceEpoch < 2 ^ 63 := by
    show (1 : Int) < 2 ^ 63
    decide
  refine ResumeFiles.load_eq_ok.mpr ⟨rfl, ?_, rfl, _, hfile, hlength,
    ResumeStore.decodeState_encodeState (validState_interruptedState h) htime
      (storeOf _).maximumFiles_lt hlength, rfl⟩
  show 64 * 1024 * 1024 ≠ 0
  decide

def interruptedPlan (durableOffset : Nat) : ExpiredPartialTransfer where
  transferId := ⟨1, one_nonNull⟩
  updatedUtc := ⟨some 1⟩
  files := (interruptedState durableOffset).files.map (listedFile QtText.posix inboxSettings)

theorem apply_removes_verified_interrupted :
    let outcome := apply QtText.posix (fun _ => "") inboxSettings (storeOf (interruptedState 1))
      (partsWith (some (.regular 1))) {} (interruptedPlan 1) .delete
    RemovesVerified QtText.posix (fun _ => "") inboxSettings (storeOf (interruptedState 1))
      (partsWith (some (.regular 1))) {} (interruptedPlan 1) .delete outcome.2.1 outcome.2.2 :=
  apply_removes_verified PathPolicy.documentedPaths_posix PathPolicy.documentedUnicode_posix
    (fun _ => "") inboxSettings (storeOf (interruptedState 1)) (partsWith (some (.regular 1))) {}
    (interruptedPlan 1) .delete

end PartialCleanupPolicy

end DeskflowPlus.Transfer
