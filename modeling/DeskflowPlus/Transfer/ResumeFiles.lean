import DeskflowPlus.Transfer.ResumeStateCodec

/-!
# The resume store and its files

The store keeps one file for each transfer. A save is committed through a file that takes the place
of the old one, or of the file that a symbolic link at its path leads to; a load does not follow
links. So what is saved is loaded again, unless a link stands at the path, and what is loaded has
passed the validation of a save.
-/

namespace DeskflowPlus.Transfer

open Checks

/-- What stands at the path of a state. -/
inductive StateFile where
  | regular (content : QByteArray)
  | link
  | other
  deriving DecidableEq

structure ResumeFiles where
  directoryIsAbsolute : Bool := true
  limits : ResumeStoreLimits := {}
  maximumFiles_lt : limits.maximumFiles < 2 ^ 64
  files : TransferId → Option StateFile

namespace ResumeFiles

open ResumeStore

variable (qt : QtText)

/-- The content is written to the path, or to where a link at the path leads. -/
def commit (disk : ResumeFiles) (transferId : TransferId) (content : QByteArray) : ResumeFiles :=
  if disk.files transferId = some .link then disk
  else { disk with
    files := fun id => if id = transferId then some (.regular content) else disk.files id }

def save (disk : ResumeFiles) (state : ResumeState) (fault : StoreFault) :
    ResumeStoreResult Unit × ResumeFiles :=
  if ¬ disk.directoryIsAbsolute then
    (.error (.invalidStoreDirectory, "resume store directory must be absolute"), disk)
  else
    match validateState qt state disk.limits with
    | .error failure => (.error failure, disk)
    | .ok () =>
      let encoded := encodeState state
      if disk.limits.maximumEncodedBytes = 0 ∨
          encoded.length > disk.limits.maximumEncodedBytes then
        (.error (.stateTooLarge, "encoded resume state exceeds the limit"), disk)
      else
        match fault with
        | some failure => (.error failure, disk)
        | none => (.ok (), disk.commit state.transferId encoded)

/-- What the system says of an error. -/
abbrev ErrorText := ResumeStoreError → String

def readStateNoFollow (errorText : ErrorText) (entry : Option StateFile) (maximumBytes : Nat)
    (fault : StoreFault) : ResumeStoreResult QByteArray :=
  if maximumBytes = 0 then .error (.stateTooLarge, "resume state size limit is zero")
  else
    match fault with
    | some failure => .error failure
    | none =>
      match entry with
      | none => .error (.notFound, errorText .notFound)
      | some .link => .error (.invalidPath, errorText .invalidPath)
      | some .other => .error (.invalidPath, "resume state is not a regular file")
      | some (.regular content) =>
        if content.length > maximumBytes then
          .error (.stateTooLarge, "resume state exceeds the limit")
        else .ok content

def load (errorText : ErrorText) (disk : ResumeFiles) (transferId : TransferId)
    (fault : StoreFault) : ResumeStoreResult (ResumeState × Nat) := do
  require disk.directoryIsAbsolute
    (.invalidStoreDirectory, "resume store path or transfer ID is invalid")
  let bytes ← readStateNoFollow errorText (disk.files transferId) disk.limits.maximumEncodedBytes
    fault
  let decoded ← decodeState qt bytes disk.limits
  require (decoded.1.transferId = transferId)
    (.transferIdMismatch, "resume state does not match its requested transfer ID")
  return decoded

variable {qt} {errorText : ErrorText} {disk : ResumeFiles} {transferId : TransferId}
  {state : ResumeState} {fault : StoreFault}

@[simp]
theorem commit_limits (content : QByteArray) :
    (disk.commit transferId content).limits = disk.limits := by
  unfold commit
  split <;> rfl

@[simp]
theorem commit_directoryIsAbsolute (content : QByteArray) :
    (disk.commit transferId content).directoryIsAbsolute = disk.directoryIsAbsolute := by
  unfold commit
  split <;> rfl

theorem commit_files (content : QByteArray) (h : disk.files transferId ≠ some .link)
    (id : TransferId) : (disk.commit transferId content).files id =
      if id = transferId then some (.regular content) else disk.files id := by
  rw [commit, if_neg h]

variable {saved : ResumeFiles}

theorem save_eq_ok :
    disk.save qt state fault = (.ok (), saved) ↔
      disk.directoryIsAbsolute = true ∧ ValidState qt disk.limits state ∧
        disk.limits.maximumEncodedBytes ≠ 0 ∧
        (encodeState state).length ≤ disk.limits.maximumEncodedBytes ∧ fault = none ∧
        saved = disk.commit state.transferId (encodeState state) := by
  rw [← validateState_eq_ok]
  unfold save
  constructor
  · intro h
    split at h
    · cases h
    · rename_i habsolute
      split at h
      · cases h
      · rename_i hvalid
        dsimp only at h
        split at h
        · cases h
        · rename_i hlimit
          rw [not_or, Nat.not_lt] at hlimit
          split at h
          · cases h
          · cases h
            exact ⟨not_not.mp habsolute, hvalid, hlimit.1, hlimit.2, rfl, rfl⟩
  · rintro ⟨habsolute, hvalid, hpositive, hlength, rfl, rfl⟩
    rw [if_neg (not_not.mpr habsolute), hvalid]
    exact if_neg (not_or.mpr ⟨hpositive, Nat.not_lt.mpr hlength⟩)

theorem readStateNoFollow_eq_ok {entry : Option StateFile} {maximumBytes : Nat}
    {bytes : QByteArray} :
    readStateNoFollow errorText entry maximumBytes fault = .ok bytes ↔
      maximumBytes ≠ 0 ∧ fault = none ∧ entry = some (.regular bytes) ∧
        bytes.length ≤ maximumBytes := by
  unfold readStateNoFollow
  constructor
  · intro h
    split at h
    · cases h
    · rename_i hpositive
      split at h
      · cases h
      · split at h
        · cases h
        · cases h
        · cases h
        · split at h
          · cases h
          · rename_i hlength
            cases h
            exact ⟨hpositive, rfl, rfl, Nat.not_lt.mp hlength⟩
  · rintro ⟨hpositive, rfl, rfl, hlength⟩
    rw [if_neg hpositive]
    exact if_neg (Nat.not_lt.mpr hlength)

theorem load_eq_ok {loaded : ResumeState × Nat} :
    disk.load qt errorText transferId fault = .ok loaded ↔
      disk.directoryIsAbsolute = true ∧ disk.limits.maximumEncodedBytes ≠ 0 ∧ fault = none ∧
        ∃ bytes, disk.files transferId = some (.regular bytes) ∧
          bytes.length ≤ disk.limits.maximumEncodedBytes ∧
          decodeState qt bytes disk.limits = .ok loaded ∧ loaded.1.transferId = transferId := by
  unfold load
  rw [require_bind_eq_ok, bind_eq_ok]
  simp only [readStateNoFollow_eq_ok, bind_eq_ok]
  constructor
  · rintro ⟨habsolute, bytes, ⟨hpositive, hfault, hfile, hlength⟩, decoded, hdecode, h⟩
    obtain ⟨_, hid, h⟩ := h
    cases h
    exact ⟨habsolute, hpositive, hfault, bytes, hfile, hlength, hdecode, require_eq_ok.mp hid⟩
  · rintro ⟨habsolute, hpositive, hfault, bytes, hfile, hlength, hdecode, hid⟩
    exact ⟨habsolute, bytes, ⟨hpositive, hfault, hfile, hlength⟩, loaded, hdecode, (),
      require_of hid, rfl⟩

def view (qt : QtText) (disk : ResumeFiles) : ResumeStore where
  directoryIsAbsolute := disk.directoryIsAbsolute
  limits := disk.limits
  states transferId :=
    match disk.files transferId with
    | some (.regular content) =>
      if disk.limits.maximumEncodedBytes = 0 ∨
          content.length > disk.limits.maximumEncodedBytes then none
      else
        match decodeState qt content disk.limits with
        | .ok (state, _) => if state.transferId = transferId then some state else none
        | .error _ => none
    | _ => none

theorem view_commit (htime : state.updatedUtc.toMSecsSinceEpoch < 2 ^ 63)
    (hvalid : ValidState qt disk.limits state) (hpositive : disk.limits.maximumEncodedBytes ≠ 0)
    (hlength : (encodeState state).length ≤ disk.limits.maximumEncodedBytes)
    (hlink : disk.files state.transferId ≠ some .link) :
    (disk.commit state.transferId (encodeState state)).view qt =
      { disk.view qt with
        states := fun id =>
          if id = state.transferId then some state else (disk.view qt).states id } := by
  have hread := decodeState_encodeState hvalid htime disk.maximumFiles_lt hlength
  unfold view
  rw [ResumeStore.mk.injEq]
  refine ⟨commit_directoryIsAbsolute _, commit_limits _, ?_⟩
  funext id
  dsimp only
  rw [commit_limits, commit_files _ hlink]
  by_cases hid : id = state.transferId
  · subst hid
    rw [if_pos rfl, if_pos rfl]
    dsimp only
    rw [if_neg (not_or.mpr ⟨hpositive, Nat.not_lt.mpr hlength⟩), hread]
    exact if_pos rfl
  · rw [if_neg hid, if_neg hid]

/-- **A save writes the table**, where no link is in its way. -/
theorem save_view (htime : state.updatedUtc.toMSecsSinceEpoch < 2 ^ 63)
    (h : disk.save qt state fault = (.ok (), saved))
    (hlink : disk.files state.transferId ≠ some .link) :
    (disk.view qt).save qt state none = (.ok (), saved.view qt) := by
  obtain ⟨habsolute, hvalid, hpositive, hlength, -, rfl⟩ := save_eq_ok.mp h
  have hchecked : validateState qt state (disk.view qt).limits = .ok () :=
    validateState_eq_ok.mpr hvalid
  unfold ResumeStore.save
  rw [if_neg (not_not.mpr (show (disk.view qt).directoryIsAbsolute = true from habsolute)),
    hchecked, view_commit htime hvalid hpositive hlength hlink]

/-- What the store promises of one directory. -/
structure Keeps (qt : QtText) (errorText : ErrorText) (disk : ResumeFiles) : Prop where
  roundTrip : ∀ state fault saved, state.updatedUtc.toMSecsSinceEpoch < 2 ^ 63 →
    disk.files state.transferId ≠ some .link →
    disk.save qt state fault = (.ok (), saved) →
    saved.load qt errorText state.transferId none = .ok (state, kResumeStateSchemaVersion)
  validated : ∀ transferId fault state schema,
    disk.load qt errorText transferId fault = .ok (state, schema) →
    validateState qt state disk.limits = .ok () ∧ state.transferId = transferId ∧
      (∀ file ∈ state.files, file.durableOffset ≤ file.totalBytes) ∧
      (state.files.map (·.fileId) ++ state.resolvedTargets.map (·.fileId)).Nodup
  legacy : ∀ transferId fault state,
    disk.load qt errorText transferId fault = .ok (state, kLegacyResumeStateSchemaVersion) →
    state.resolvedTargets = []
  legacyFile : ∀ state, state.updatedUtc.toMSecsSinceEpoch < 2 ^ 63 →
    disk.directoryIsAbsolute = true → validateState qt state disk.limits = .ok () →
    state.resolvedTargets = [] →
    disk.files state.transferId = some (.regular (encodeLegacyState state)) →
    (encodeLegacyState state).length ≤ disk.limits.maximumEncodedBytes →
    disk.load qt errorText state.transferId none = .ok (state, kLegacyResumeStateSchemaVersion)

theorem defaultMaximumFiles_lt : ({} : ResumeStoreLimits).maximumFiles < 2 ^ 64 := by decide

end ResumeFiles

end DeskflowPlus.Transfer
