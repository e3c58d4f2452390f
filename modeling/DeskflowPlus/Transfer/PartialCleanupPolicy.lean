import DeskflowPlus.Transfer.ResumeFiles
import DeskflowPlus.Transfer.TransferHistoryStore

/-!
# The cleanup of partial files

The policy lists the transfers whose resume state was not updated for some time and whose partial
files are all there with their durable lengths. A transfer that was listed is removed on request:
the state and every part are looked at once more before the first part goes, and the state goes last.
Directory links make several paths lead to one entry of the file system, so entries have locations.
-/

namespace DeskflowPlus.Transfer

open Checks

namespace ResumeFiles

/-- `*.resume.cbor`. -/
def stateSuffix : QString := QString.literal ".resume.cbor"

/-- `QFile::remove`, if the path leads to something; a link may lead nowhere. -/
def remove (disk : ResumeFiles) (transferId : TransferId) (linkLeads : Bool) (fault : StoreFault) :
    ResumeStoreResult Unit × ResumeFiles :=
  let removed :=
    match fault with
    | some failure => (.error failure, disk)
    | none => (.ok (),
      { disk with files := fun id => if id = transferId then none else disk.files id })
  if ¬ disk.directoryIsAbsolute then
    (.error (.invalidStoreDirectory, "resume store path or transfer ID is invalid"), disk)
  else
    match disk.files transferId with
    | none => (.ok (), disk)
    | some .link => if linkLeads then removed else (.ok (), disk)
    | some _ => removed

structure ResumeStoreIssue where
  path : QString
  error : ResumeStoreError
  diagnostic : String

def scanEntry (qt : QtText) (errorText : ErrorText) (disk : ResumeFiles) (directory : QString)
    (faults : TransferId → StoreFault) (entry : QString) : Except ResumeStoreIssue ResumeState :=
  let path := qt.absoluteFilePath directory entry
  let stem := entry.take (entry.length - stateSuffix.length)
  let invalid : ResumeStoreIssue :=
    { path, error := .invalidFields, diagnostic := "resume filename is not a canonical transfer ID" }
  match TransferId.fromString stem with
  | none => .error invalid
  | some transferId =>
    if qt.toCaseFolded transferId.toString ≠ qt.toCaseFolded stem then .error invalid
    else
      match disk.load qt errorText transferId (faults transferId) with
      | .error (error, diagnostic) => .error { path, error, diagnostic }
      | .ok (state, _) => .ok state

def scan (qt : QtText) (errorText : ErrorText) (disk : ResumeFiles) (directory : QString)
    (entries : Option (List QString)) (faults : TransferId → StoreFault) :
    ResumeStoreResult (List (Except ResumeStoreIssue ResumeState)) :=
  if ¬ disk.directoryIsAbsolute then
    .error (.invalidStoreDirectory, "resume store directory must be absolute")
  else .ok ((entries.getD []).map (disk.scanEntry qt errorText directory faults))

end ResumeFiles

/-- What an entry of the file system is; a link may lead nowhere. -/
inductive PartNode where
  | regular (size : Nat)
  | link (leads : Bool)
  | other
  deriving DecidableEq

/-- Where the paths lead, with the directories' links followed, and what is there. -/
structure PartFiles (Location : Type) where
  locate : QString → Location
  nodes : Location → Option PartNode

namespace PartFiles

variable {Location : Type} [DecidableEq Location]

def node (files : PartFiles Location) (path : QString) : Option PartNode :=
  files.nodes (files.locate path)

/-- `QFileInfo::exists`, which follows a link. -/
def pathExists (files : PartFiles Location) (path : QString) : Bool :=
  match files.node path with
  | none => false
  | some (.link leads) => leads
  | some _ => true

/-- `QFile::remove`, unless the system refuses. -/
def remove (files : PartFiles Location) (path : QString) (refused : Bool) :
    Bool × PartFiles Location :=
  if refused || (files.node path).isNone then (false, files)
  else (true, { files with nodes := Function.update files.nodes (files.locate path) none })

end PartFiles

structure ExpiredPartialFile where
  fileId : FileId
  relativeProtocolPath : QString
  partAbsolutePath : QString
  durableOffset : Nat := 0
  totalBytes : Nat := 0

structure ExpiredPartialTransfer where
  transferId : TransferId
  updatedUtc : QDateTime
  files : List ExpiredPartialFile := []

inductive PartialCleanupIssueError where
  | resumeStoreIssue
  | unsafePartPath
  | missingPart
  | partSizeMismatch

structure PartialCleanupIssue where
  transferId : Option TransferId := none
  path : QString
  error : PartialCleanupIssueError := .resumeStoreIssue
  diagnostic : String

inductive PartialCleanupError where
  | invalidConfiguration
  | scanFailed

inductive PartialCleanupChoice where
  | keep
  | delete
  deriving DecidableEq

inductive PartialCleanupApplyError where
  | none
  | notListed
  | changedSinceListing
  | partRemoveFailed
  | stateRemoveFailed
  deriving DecidableEq

structure PartialCleanupApplyResult where
  error : PartialCleanupApplyError := .none
  diagnostic : String := ""
  removedPartFiles : Nat := 0
  stateRemoved : Bool := false

def PartialCleanupApplyResult.ok (result : PartialCleanupApplyResult) : Bool :=
  result.error = .none

structure PartialCleanupListing where
  expired : List ExpiredPartialTransfer := []
  issues : List PartialCleanupIssue := []

structure PartialCleanupSettings where
  stagingRoot : QString
  retention : Int := 7 * 24 * 60 * 60
  pathLimits : PathLimits := {}

namespace PartialCleanupPolicy

/-- `endsWith` in either case. -/
def isPartName (path : QString) : Bool :=
  let fold (unit : UInt16) : UInt16 := if 0x41 ≤ unit ∧ unit ≤ 0x5a then unit + 0x20 else unit
  (path.drop (path.length - 5)).map fold = QString.literal ".part"

variable {Location : Type} [DecidableEq Location] (qt : QtText)

def partPath (settings : PartialCleanupSettings) (file : ResumeFileState) :
    PathValidationResult × QString :=
  PathPolicy.joinLexicallyUnderRoot qt settings.stagingRoot file.partRelativePath
    settings.pathLimits

def listFile (settings : PartialCleanupSettings) (files : PartFiles Location)
    (transferId : TransferId) (file : ResumeFileState) :
    Except PartialCleanupIssue ExpiredPartialFile := do
  let (path, partAbsolutePath) := partPath qt settings file
  require (path.ok ∧ isPartName file.partRelativePath) {
    transferId, path := file.partRelativePath, error := .unsafePartPath
    diagnostic := if path.ok then "resume state references a non-part staging file"
      else path.diagnostic }
  match files.node partAbsolutePath with
  | some (.regular size) =>
    require (size = file.durableOffset) {
      transferId, path := partAbsolutePath, error := .partSizeMismatch
      diagnostic := "staging size does not match the durable resume offset" }
    return {
      fileId := file.fileId
      relativeProtocolPath := file.relativeProtocolPath
      partAbsolutePath
      durableOffset := file.durableOffset
      totalBytes := file.totalBytes }
  | _ => .error {
      transferId, path := partAbsolutePath, error := .missingPart
      diagnostic := "resume state staging file is missing or not a regular file" }

def issue? {ε α : Type} : Except ε α → Option ε
  | .error issue => some issue
  | .ok _ => none

def listState (settings : PartialCleanupSettings) (files : PartFiles Location) (cutoffMs : Int)
    (state : ResumeState) : PartialCleanupListing :=
  if state.updatedUtc.toMSecsSinceEpoch > cutoffMs then {}
  else
    let looked := state.files.map (listFile qt settings files state.transferId)
    let issues := looked.filterMap issue?
    let found := looked.filterMap Except.toOption
    if issues = [] ∧ found ≠ [] then
      { expired := [⟨state.transferId, state.updatedUtc, found⟩] }
    else { issues }

structure ScanIo where
  directory : QString
  entries : Option (List QString)
  faults : TransferId → StoreFault := fun _ => none

def listExpired (errorText : ResumeFiles.ErrorText) (settings : PartialCleanupSettings)
    (disk : ResumeFiles) (files : PartFiles Location) (io : ScanIo) (nowUtc : QDateTime) :
    Except (PartialCleanupError × String) PartialCleanupListing := do
  require (nowUtc.isValid ∧ 0 < nowUtc.toMSecsSinceEpoch ∧ qt.isAbsolutePath settings.stagingRoot ∧
      0 ≤ settings.retention ∧ settings.retention ≤ (2 ^ 63 - 1) / 1000)
    (.invalidConfiguration, "partial cleanup time or staging root is invalid")
  let scanned ← (disk.scan qt errorText io.directory io.entries io.faults).mapError
    fun failure => (.scanFailed, failure.2)
  let cutoffMs := nowUtc.toMSecsSinceEpoch - settings.retention * 1000
  let storeIssues := (scanned.filterMap issue?).map fun issue =>
    { path := issue.path, diagnostic := issue.diagnostic : PartialCleanupIssue }
  let listings := (scanned.filterMap Except.toOption).map (listState qt settings files cutoffMs)
  return {
    expired := listings.flatMap (·.expired)
    issues := storeIssues ++ listings.flatMap (·.issues) }

def failed (error : PartialCleanupApplyError) (diagnostic : String) (removedPartFiles : Nat := 0) :
    PartialCleanupApplyResult :=
  { error, diagnostic, removedPartFiles }

def verifyFile (settings : PartialCleanupSettings) (files : PartFiles Location)
    (listed : ExpiredPartialTransfer) (stateFile : ResumeFileState) :
    Except PartialCleanupApplyResult QString := do
  let (validated, safePath) := partPath qt settings stateFile
  let listedFile := listed.files.find? (·.fileId = stateFile.fileId)
  require (validated.ok ∧ isPartName stateFile.partRelativePath ∧ listedFile.any fun candidate =>
      safePath = candidate.partAbsolutePath &&
        stateFile.relativeProtocolPath = candidate.relativeProtocolPath &&
        stateFile.durableOffset = candidate.durableOffset &&
        stateFile.totalBytes = candidate.totalBytes)
    (failed .changedSinceListing "resume file metadata changed after cleanup listing")
  require (files.node safePath = some (.regular stateFile.durableOffset))
    (failed .changedSinceListing "staging file changed after cleanup listing")
  return safePath

/-- Whether all went, how many did, and what is left. -/
def removeParts (refused : QString → Bool) :
    List QString → Nat → PartFiles Location → Bool × Nat × PartFiles Location
  | [], removed, files => (true, removed, files)
  | path :: paths, removed, files =>
    match files.remove path (refused path) with
    | (false, files) => (false, removed, files)
    | (true, files) => removeParts refused paths (removed + 1) files

structure ApplyIo where
  loadFault : StoreFault := none
  refused : QString → Bool := fun _ => false
  linkLeads : Bool := false
  removeFault : StoreFault := none

def verify (errorText : ResumeFiles.ErrorText) (settings : PartialCleanupSettings)
    (disk : ResumeFiles) (files : PartFiles Location) (loadFault : StoreFault)
    (listed : ExpiredPartialTransfer) : Except PartialCleanupApplyResult (List QString) := do
  require (listed.files ≠ [])
    (failed .notListed "cleanup requires a listed transfer with managed partials")
  match disk.load qt errorText listed.transferId loadFault with
  | .error (.notFound, _) =>
    -- a cleanup that is repeated finds nothing
    .error (if listed.files.any fun file => files.pathExists file.partAbsolutePath then
      failed .changedSinceListing "resume state disappeared while listed parts remain"
    else {})
  | .error _ =>
    .error (failed .changedSinceListing "resume state changed after partials were listed")
  | .ok (state, _) => do
    require (state.updatedUtc = listed.updatedUtc ∧ state.files.length = listed.files.length)
      (failed .changedSinceListing "resume state changed after partials were listed")
    state.files.mapM (verifyFile qt settings files listed)

def apply (errorText : ResumeFiles.ErrorText) (settings : PartialCleanupSettings)
    (disk : ResumeFiles) (files : PartFiles Location) (io : ApplyIo)
    (listed : ExpiredPartialTransfer) (choice : PartialCleanupChoice) :
    PartialCleanupApplyResult × ResumeFiles × PartFiles Location :=
  if choice = .keep then ({}, disk, files)
  else
    match verify qt errorText settings disk files io.loadFault listed with
    | .error result => (result, disk, files)
    | .ok verifiedPaths =>
      match removeParts io.refused verifiedPaths 0 files with
      | (false, removed, files) =>
        (failed .partRemoveFailed "could not remove a selected staging partial" removed, disk,
          files)
      | (true, removed, files) =>
        match disk.remove listed.transferId io.linkLeads io.removeFault with
        | (.error failure, disk) =>
          (failed .stateRemoveFailed failure.2 removed, disk, files)
        | (.ok (), disk) =>
          ({ removedPartFiles := removed, stateRemoved := true }, disk, files)

end PartialCleanupPolicy

end DeskflowPlus.Transfer
