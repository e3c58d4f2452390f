import DeskflowPlus.Transfer.CanonicalManifest

/-!
# What the validation of a resume state asks for

Every file is valid by itself, every resolved target too, and no identifier, no protocol path, no
partial path and no target path is met twice. The validation goes through the lists and keeps what
it has met.
-/

namespace DeskflowPlus.Transfer.ResumeStore

open Checks

variable {qt : QtText} {limits : ResumeStoreLimits}

/-- A path as the validation accepts it. -/
structure ValidPath (qt : QtText) (pathLimits : PathLimits) (path : QString) : Prop where
  ok : (PathPolicy.validateRelative qt path pathLimits).ok = true
  normalized : (PathPolicy.validateRelative qt path pathLimits).normalized = path

def pathKey (qt : QtText) (pathLimits : PathLimits) (path : QString) : QString :=
  (PathPolicy.validateRelative qt path pathLimits).collisionKey

theorem ValidPath.wellFormed {pathLimits : PathLimits} {path : QString}
    (h : ValidPath qt pathLimits path) : QString.isWellFormed path = true :=
  ManifestPageCodec.isWellFormed_of_hasInvalidUnicodeOrControl
    (ManifestPageCodec.validateRelative_ok h.ok).1

theorem ValidPath.length {pathLimits : PathLimits} {path : QString}
    (h : ValidPath qt pathLimits path) : path.toUtf8.length < 2 ^ 64 := by
  have hlength := (ManifestPageCodec.validateRelative_ok h.ok).2.1
  rw [← PathPolicy.validateRelative_normalized h.ok, h.normalized] at hlength
  have hbound := pathLimits.maxUtf8Bytes.toNat_lt
  omega

structure ValidFile (qt : QtText) (limits : ResumeStoreLimits) (file : ResumeFileState) :
    Prop where
  protocolPath : ValidPath qt limits.pathLimits file.relativeProtocolPath
  partPath : ValidPath qt limits.pathLimits file.partRelativePath
  offset : file.durableOffset ≤ file.totalBytes
  total : file.totalBytes ≤ qint64Max

structure ValidTarget (qt : QtText) (limits : ResumeStoreLimits) (target : ResolvedTargetState) :
    Prop where
  size : target.size ≤ qint64Max
  sha256 : target.sha256.length = kSha256Bytes
  decision : isResolvedDecision target.decision = true
  skipped : target.decision = .skip → target.relativeTargetPath = []
  path : target.decision ≠ .skip → ValidPath qt limits.pathLimits target.relativeTargetPath

namespace ValidTarget

variable {target : ResolvedTargetState}

theorem wellFormed (h : ValidTarget qt limits target) :
    QString.isWellFormed target.relativeTargetPath = true := by
  by_cases hskip : target.decision = .skip
  · rw [h.skipped hskip]
    rfl
  · exact (h.path hskip).wellFormed

theorem path_length (h : ValidTarget qt limits target) :
    target.relativeTargetPath.toUtf8.length < 2 ^ 64 := by
  by_cases hskip : target.decision = .skip
  · rw [h.skipped hskip]
    exact Nat.two_pow_pos 64
  · exact (h.path hskip).length

end ValidTarget

namespace Seen

def addFile (qt : QtText) (limits : ResumeStoreLimits) (seen : Seen) (file : ResumeFileState) :
    Seen :=
  { seen with
    fileIds := file.fileId :: seen.fileIds
    protocolPaths := pathKey qt limits.pathLimits file.relativeProtocolPath :: seen.protocolPaths
    partPaths := pathKey qt limits.pathLimits file.partRelativePath :: seen.partPaths }

def addTarget (qt : QtText) (limits : ResumeStoreLimits) (seen : Seen)
    (target : ResolvedTargetState) : Seen :=
  { seen with
    fileIds := target.fileId :: seen.fileIds
    resolvedPaths :=
      if target.decision = .skip then seen.resolvedPaths
      else pathKey qt limits.pathLimits target.relativeTargetPath :: seen.resolvedPaths }

/-- Nothing was met twice. -/
structure Distinct (seen : Seen) : Prop where
  fileIds : seen.fileIds.Nodup
  protocolPaths : seen.protocolPaths.Nodup
  partPaths : seen.partPaths.Nodup
  resolvedPaths : seen.resolvedPaths.Nodup

theorem Distinct.empty : Distinct {} := ⟨.nil, .nil, .nil, .nil⟩

variable {seen : Seen} {file : ResumeFileState} {target : ResolvedTargetState}

theorem distinct_addFile :
    Distinct (seen.addFile qt limits file) ↔
      Distinct seen ∧ file.fileId ∉ seen.fileIds ∧
        pathKey qt limits.pathLimits file.relativeProtocolPath ∉ seen.protocolPaths ∧
        pathKey qt limits.pathLimits file.partRelativePath ∉ seen.partPaths := by
  constructor
  · rintro ⟨hids, hprotocol, hpart, hresolved⟩
    have hid := List.nodup_cons.mp hids
    have hpath := List.nodup_cons.mp hprotocol
    have hpartPath := List.nodup_cons.mp hpart
    exact ⟨⟨hid.2, hpath.2, hpartPath.2, hresolved⟩, hid.1, hpath.1, hpartPath.1⟩
  · rintro ⟨h, hid, hpath, hpartPath⟩
    exact ⟨List.nodup_cons.mpr ⟨hid, h.fileIds⟩, List.nodup_cons.mpr ⟨hpath, h.protocolPaths⟩,
      List.nodup_cons.mpr ⟨hpartPath, h.partPaths⟩, h.resolvedPaths⟩

theorem distinct_addTarget :
    Distinct (seen.addTarget qt limits target) ↔
      Distinct seen ∧ target.fileId ∉ seen.fileIds ∧
        (target.decision ≠ .skip →
          pathKey qt limits.pathLimits target.relativeTargetPath ∉ seen.resolvedPaths) := by
  by_cases hskip : target.decision = .skip
  · constructor
    · rintro ⟨hids, hprotocol, hpart, hresolved⟩
      have hid := List.nodup_cons.mp hids
      rw [addTarget, if_pos hskip] at hresolved
      exact ⟨⟨hid.2, hprotocol, hpart, hresolved⟩, hid.1, fun hne => absurd hskip hne⟩
    · rintro ⟨h, hid, -⟩
      refine ⟨List.nodup_cons.mpr ⟨hid, h.fileIds⟩, h.protocolPaths, h.partPaths, ?_⟩
      rw [addTarget, if_pos hskip]
      exact h.resolvedPaths
  · constructor
    · rintro ⟨hids, hprotocol, hpart, hresolved⟩
      have hid := List.nodup_cons.mp hids
      rw [addTarget, if_neg hskip] at hresolved
      have hpath := List.nodup_cons.mp hresolved
      exact ⟨⟨hid.2, hprotocol, hpart, hpath.2⟩, hid.1, fun _ => hpath.1⟩
    · rintro ⟨h, hid, hpath⟩
      refine ⟨List.nodup_cons.mpr ⟨hid, h.fileIds⟩, h.protocolPaths, h.partPaths, ?_⟩
      rw [addTarget, if_neg hskip]
      exact List.nodup_cons.mpr ⟨hpath hskip, h.resolvedPaths⟩

end Seen

theorem isSupportedUnsignedInteger_iff {value : Nat} :
    isSupportedUnsignedInteger value = true ↔ value ≤ qint64Max :=
  decide_eq_true_iff

variable {seen : Seen}

theorem validateFile_eq_ok {next : Seen} {file : ResumeFileState} (hseen : seen.Distinct) :
    validateFile qt limits seen file = .ok next ↔
      ValidFile qt limits file ∧ next = seen.addFile qt limits file ∧ next.Distinct := by
  unfold validateFile
  dsimp only
  constructor
  · intro h
    split_ifs at h with hid hpath hkey hpart hpartKey hbounds
    cases h
    rw [not_or, not_not, not_not] at hpath hpart
    rw [not_or, not_or, not_not, not_not, isSupportedUnsignedInteger_iff,
      isSupportedUnsignedInteger_iff] at hbounds
    refine ⟨⟨⟨hpath.1, hpath.2⟩, ⟨hpart.1, hpart.2⟩, Nat.le_of_not_lt hbounds.1, hbounds.2.2⟩,
      rfl, ?_⟩
    exact Seen.distinct_addFile.mpr ⟨hseen, hid, hkey, hpartKey⟩
  · rintro ⟨hvalid, rfl, hdistinct⟩
    obtain ⟨-, hid, hkey, hpartKey⟩ := Seen.distinct_addFile.mp hdistinct
    unfold pathKey at hkey hpartKey
    have hoffset : ¬ (file.durableOffset > file.totalBytes ∨
        ¬ isSupportedUnsignedInteger file.durableOffset = true ∨
        ¬ isSupportedUnsignedInteger file.totalBytes = true) := by
      rw [not_or, not_or, not_not, not_not, isSupportedUnsignedInteger_iff,
        isSupportedUnsignedInteger_iff]
      exact ⟨Nat.not_lt.mpr hvalid.offset, hvalid.offset.trans hvalid.total, hvalid.total⟩
    rw [if_neg hid, if_neg (not_or.mpr ⟨not_not.mpr hvalid.protocolPath.ok,
      not_not.mpr hvalid.protocolPath.normalized⟩), if_neg hkey,
      if_neg (not_or.mpr ⟨not_not.mpr hvalid.partPath.ok,
        not_not.mpr hvalid.partPath.normalized⟩), if_neg hpartKey, if_neg hoffset]
    rfl

theorem validateTarget_eq_ok {next : Seen} {target : ResolvedTargetState} (hseen : seen.Distinct) :
    validateTarget qt limits seen target = .ok next ↔
      ValidTarget qt limits target ∧ next = seen.addTarget qt limits target ∧ next.Distinct := by
  unfold validateTarget
  dsimp only
  constructor
  · intro h
    split_ifs at h with hbinding hskip hpath hpath hkey
    · cases h
      rw [not_or, not_or, not_or, not_not, not_not, not_not,
        isSupportedUnsignedInteger_iff] at hbinding
      refine ⟨⟨hbinding.2.1, hbinding.2.2.1, hbinding.2.2.2, fun _ => not_not.mp hpath,
        fun hne => absurd hskip hne⟩, ?_, ?_⟩
      · rw [Seen.addTarget, if_pos hskip]
      · exact ⟨List.nodup_cons.mpr ⟨hbinding.1, hseen.fileIds⟩, hseen.protocolPaths,
          hseen.partPaths, hseen.resolvedPaths⟩
    · cases h
      rw [not_or, not_or, not_or, not_not, not_not, not_not,
        isSupportedUnsignedInteger_iff] at hbinding
      rw [not_or, not_not, not_not] at hpath
      refine ⟨⟨hbinding.2.1, hbinding.2.2.1, hbinding.2.2.2, fun heq => absurd heq hskip,
        fun _ => ⟨hpath.1, hpath.2⟩⟩, ?_, ?_⟩
      · rw [Seen.addTarget, if_neg hskip]
        rfl
      · exact ⟨List.nodup_cons.mpr ⟨hbinding.1, hseen.fileIds⟩, hseen.protocolPaths,
          hseen.partPaths, List.nodup_cons.mpr ⟨hkey, hseen.resolvedPaths⟩⟩
  · rintro ⟨hvalid, rfl, hdistinct⟩
    obtain ⟨-, hid, hkey⟩ := Seen.distinct_addTarget.mp hdistinct
    unfold pathKey at hkey
    have hbinding : ¬ (target.fileId ∈ seen.fileIds ∨
        ¬ isSupportedUnsignedInteger target.size = true ∨
        target.sha256.length ≠ kSha256Bytes ∨ ¬ isResolvedDecision target.decision = true) := by
      rw [not_or, not_or, not_or, not_not, not_not, not_not, isSupportedUnsignedInteger_iff]
      exact ⟨hid, hvalid.size, hvalid.sha256, hvalid.decision⟩
    rw [if_neg hbinding]
    by_cases hskip : target.decision = .skip
    · rw [if_pos hskip, if_neg (not_not.mpr (hvalid.skipped hskip)), Seen.addTarget, if_pos hskip]
    · have hpath := hvalid.path hskip
      rw [if_neg hskip, if_neg (not_or.mpr ⟨not_not.mpr hpath.ok, not_not.mpr hpath.normalized⟩)]
      refine (if_neg (hkey hskip)).trans ?_
      rw [Seen.addTarget, if_neg hskip]
      rfl

theorem foldlM_validateFile_eq_ok {files : List ResumeFileState} {last : Seen}
    (hseen : seen.Distinct) :
    files.foldlM (validateFile qt limits) seen = .ok last ↔
      (∀ file ∈ files, ValidFile qt limits file) ∧
        last = files.foldl (Seen.addFile qt limits) seen ∧ last.Distinct :=
  @foldlM_eq_ok_iff _ _ _ _ (Seen.addFile qt limits) Seen.Distinct (ValidFile qt limits)
    validateFile_eq_ok (fun h => (Seen.distinct_addFile.mp h).1) files seen last hseen

theorem foldlM_validateTarget_eq_ok {targets : List ResolvedTargetState} {last : Seen}
    (hseen : seen.Distinct) :
    targets.foldlM (validateTarget qt limits) seen = .ok last ↔
      (∀ target ∈ targets, ValidTarget qt limits target) ∧
        last = targets.foldl (Seen.addTarget qt limits) seen ∧ last.Distinct :=
  @foldlM_eq_ok_iff _ _ _ _ (Seen.addTarget qt limits) Seen.Distinct (ValidTarget qt limits)
    validateTarget_eq_ok (fun h => (Seen.distinct_addTarget.mp h).1) targets seen last hseen

/-- All that the validation meets. -/
def met (qt : QtText) (limits : ResumeStoreLimits) (state : ResumeState) : Seen :=
  state.resolvedTargets.foldl (Seen.addTarget qt limits)
    (state.files.foldl (Seen.addFile qt limits) {})

structure ValidState (qt : QtText) (limits : ResumeStoreLimits) (state : ResumeState) : Prop where
  manifestSha256 : state.manifestSha256.length = kSha256Bytes
  timeValid : state.updatedUtc.isValid = true
  timePositive : 0 < state.updatedUtc.toMSecsSinceEpoch
  maximumFiles : limits.maximumFiles ≠ 0
  count : state.files.length + state.resolvedTargets.length ≤ limits.maximumFiles
  files : ∀ file ∈ state.files, ValidFile qt limits file
  targets : ∀ target ∈ state.resolvedTargets, ValidTarget qt limits target
  distinct : (met qt limits state).Distinct

theorem validateState_eq_ok {state : ResumeState} :
    validateState qt state limits = .ok () ↔ ValidState qt limits state := by
  unfold validateState
  rw [if_neg state.peerDeviceId.nonNull]
  constructor
  · intro h
    split_ifs at h with hdigest htime hcount
    rw [not_or, not_not, Int.not_le] at htime
    rw [not_or, Nat.not_lt] at hcount
    obtain ⟨seen, hfiles, h⟩ := bind_eq_ok.mp h
    obtain ⟨last, htargets, -⟩ := bind_eq_ok.mp h
    obtain ⟨hvalidFiles, rfl, hseen⟩ := (foldlM_validateFile_eq_ok Seen.Distinct.empty).mp hfiles
    obtain ⟨hvalidTargets, rfl, hlast⟩ := (foldlM_validateTarget_eq_ok hseen).mp htargets
    exact ⟨not_not.mp hdigest, htime.1, htime.2, hcount.1, hcount.2, hvalidFiles, hvalidTargets,
      hlast⟩
  · intro h
    rw [if_neg (not_not.mpr h.manifestSha256),
      if_neg (not_or.mpr ⟨not_not.mpr h.timeValid, Int.not_le.mpr h.timePositive⟩),
      if_neg (not_or.mpr ⟨h.maximumFiles, Nat.not_lt.mpr h.count⟩)]
    have hseen := of_foldl (fun h => (Seen.distinct_addTarget.mp h).1) h.distinct
    refine bind_eq_ok.mpr ⟨_, (foldlM_validateFile_eq_ok Seen.Distinct.empty).mpr
      ⟨h.files, rfl, hseen⟩, ?_⟩
    exact bind_eq_ok.mpr ⟨_, (foldlM_validateTarget_eq_ok hseen).mpr
      ⟨h.targets, rfl, h.distinct⟩, rfl⟩

theorem fileIds_foldl_addFile (files : List ResumeFileState) (seen : Seen) :
    (files.foldl (Seen.addFile qt limits) seen).fileIds =
      (files.map (·.fileId)).reverse ++ seen.fileIds := by
  induction files generalizing seen with
  | nil => rfl
  | cons file files ih => simp [ih, Seen.addFile]

theorem fileIds_foldl_addTarget (targets : List ResolvedTargetState) (seen : Seen) :
    (targets.foldl (Seen.addTarget qt limits) seen).fileIds =
      (targets.map (·.fileId)).reverse ++ seen.fileIds := by
  induction targets generalizing seen with
  | nil => rfl
  | cons target targets ih => simp [ih, Seen.addTarget]

theorem ValidState.ids {state : ResumeState} (h : ValidState qt limits state) :
    (state.files.map (·.fileId) ++ state.resolvedTargets.map (·.fileId)).Nodup := by
  have hids := h.distinct.fileIds
  rw [met, fileIds_foldl_addTarget, fileIds_foldl_addFile, List.append_nil, ← List.reverse_append,
    List.nodup_reverse] at hids
  exact hids

end DeskflowPlus.Transfer.ResumeStore
