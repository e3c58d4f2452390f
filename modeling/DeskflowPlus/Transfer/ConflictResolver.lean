import DeskflowPlus.Lib.Run
import DeskflowPlus.Transfer.PathContainment
import DeskflowPlus.Transfer.ResumeStore
import Mathlib.Data.List.Nodup

/-!
# The conflict resolver

A file that is about to be received reserves its target first. The resolver looks the wanted path up
in the file system and among the reservations made in this process, tries the renamed paths one by
one where the policy says so, and reserves the first that is free. A reservation's key is the folded
target root and the collision key of the path under it.
-/

namespace DeskflowPlus.Transfer

open PathSegments

inductive ConflictResolverError where
  | unsafePath
  | unsupportedPolicy
  | candidateExhausted
  | invalidReservation
  | targetReserved
  deriving DecidableEq

inductive TargetCommitDisposition where
  | failIfExists
  | replaceExisting
  deriving DecidableEq

structure UseTarget where
  absolutePath : QString
  relativeProtocolPath : QString
  reservationId : QUuid
  commitDisposition : TargetCommitDisposition := .failIfExists
  deriving DecidableEq

inductive ConflictDecision where
  | useTarget (target : UseTarget)
  | skipTarget (absolutePath : QString)
  | askTarget (conflictId : QUuid) (absolutePath : QString)
  | failure (error : ConflictResolverError) (pathError : PathError) (diagnostic : String)
  deriving DecidableEq

def kDefaultConflictRenameAttempts : UInt32 := 10000

structure ConflictResolveRequest where
  targetRoot : QString
  relativeProtocolPath : QString
  policy : ConflictPolicy := .autoRename
  pathLimits : PathLimits := {}
  maximumRenameAttempts : UInt32 := kDefaultConflictRenameAttempts
  deriving DecidableEq

/-- What the file system shows at one attempt; a directory is named with the slash behind it. -/
structure DirectoryView where
  pathExists : QString → Bool
  isDir : QString → Bool
  dirExists : QString → Bool
  entryInfoList : QString → List QString

/-- `m_reservations`, a hash from the reservation to its key. -/
structure ConflictResolver where
  reservations : List (QUuid × QString) := []
  deriving DecidableEq

namespace ConflictResolver

/-- The part behind the last slash. -/
def fileName (path : QString) : QString :=
  (path.reverse.takeWhile (· ≠ 0x2f)).reverse

/-- The part up to the last slash, the slash included. -/
def directoryOf (path : QString) : QString :=
  (path.reverse.dropWhile (· ≠ 0x2f)).reverse

def lastDot (fileName : QString) : Option Nat :=
  if 0x2e ∈ fileName then some (fileName.length - 1 - fileName.reverse.idxOf 0x2e) else none

/-- `QString::arg`: the lowest numbered place marker of the first string becomes the second. -/
abbrev Arg := QString → QString → QString

def renamedFileName (arg : Arg) (fileName : QString) (index : Nat) : QString :=
  if index = 0 then fileName
  else
    let (stem, extension) :=
      match lastDot fileName with
      | some dot =>
        if 0 < dot ∧ dot + 1 < fileName.length then (fileName.take dot, fileName.drop dot)
        else (fileName, [])
      | none => (fileName, [])
    arg (arg (arg (QString.literal "%1 (%2)%3") stem) (QString.literal (toString index))) extension

def renamedRelativePath (arg : Arg) (normalized : QString) (index : Nat) : QString :=
  directoryOf normalized ++ renamedFileName arg (fileName normalized) index

variable (qt : QtText) (arg : Arg)

def siblings (view : DirectoryView) (absolutePath : QString) : List QString :=
  if view.dirExists (directoryOf absolutePath) then view.entryInfoList (directoryOf absolutePath)
  else []

def filesystemCollision (view : DirectoryView) (absolutePath : QString) : Option QString :=
  if view.pathExists absolutePath then some absolutePath
  else
    let candidateName := PathPolicy.validateRelative qt (fileName absolutePath)
    if ¬ candidateName.ok then some absolutePath
    else
      let collides (sibling : QString) : Bool :=
        let siblingPath := PathPolicy.validateRelative qt sibling
        siblingPath.ok && siblingPath.collisionKey = candidateName.collisionKey
      ((siblings view absolutePath).find? collides).map (directoryOf absolutePath ++ ·)

/-- `QHash::remove`, and whether there was something to remove. -/
def remove (reservationId : QUuid) (resolver : ConflictResolver) : Bool × ConflictResolver :=
  (resolver.reservations.any (·.1 = reservationId),
    ⟨resolver.reservations.filter (·.1 ≠ reservationId)⟩)

/-- `QHash::insert`, which replaces. -/
def insert (reservationId : QUuid) (reservationKey : QString) (resolver : ConflictResolver) :
    ConflictResolver :=
  ⟨(reservationId, reservationKey) :: resolver.reservations.filter (·.1 ≠ reservationId)⟩

def rootKey (targetRoot : QString) : QString :=
  qt.toCaseFolded (qt.normalizedC (qt.cleanPath targetRoot))

/-- One round of the rename loop; none goes on with the next index. -/
def attempt (request : ConflictResolveRequest) (normalized : QString) (index : Nat)
    (view : DirectoryView) (uuid : QUuid) (resolver : ConflictResolver) :
    Option (ConflictDecision × ConflictResolver) :=
  let (candidate, absoluteCandidate) := PathPolicy.joinLexicallyUnderRoot qt request.targetRoot
    (renamedRelativePath arg normalized index) request.pathLimits
  if ¬ candidate.ok then
    if candidate.error = .componentTooLong ∨ candidate.error = .pathTooLong then none
    else some (.failure .unsafePath candidate.error candidate.diagnostic, resolver)
  else
    let reservationKey := rootKey qt request.targetRoot ++ 0x2f :: candidate.collisionKey
    let existingPath := filesystemCollision qt view absoluteCandidate
    let reserved := decide (reservationKey ∈ resolver.reservations.map Prod.snd)
    if request.policy = .skip ∧ (existingPath.isSome ∨ reserved) then
      some (.skipTarget (existingPath.getD absoluteCandidate), resolver)
    else if request.policy = .ask ∧ (existingPath.isSome ∨ reserved) then
      some (.askTarget uuid (existingPath.getD absoluteCandidate), resolver)
    else if request.policy = .overwrite ∧ reserved then
      some (.failure .targetReserved .none
        "another in-process transfer already reserved the overwrite target", resolver)
    else if request.policy = .overwrite ∧ existingPath.any view.isDir then
      some (.failure .unsupportedPolicy .none
        "CONFLICT-002 does not overwrite an existing directory", resolver)
    else if request.policy = .autoRename ∧ (existingPath.isSome ∨ reserved) then none
    else
      let replaces := request.policy = .overwrite ∧ existingPath.isSome
      some (.useTarget
        { absolutePath := if replaces then existingPath.getD absoluteCandidate else absoluteCandidate
          relativeProtocolPath := candidate.normalized
          reservationId := uuid
          commitDisposition := if replaces then .replaceExisting else .failIfExists },
        resolver.insert uuid reservationKey)

def search (request : ConflictResolveRequest) (normalized : QString) (views : Nat → DirectoryView)
    (uuid : QUuid) (resolver : ConflictResolver) : Nat → Nat → ConflictDecision × ConflictResolver
  | 0, _ => (.failure .candidateExhausted .none
      "no available auto-rename target could be reserved", resolver)
  | remaining + 1, index =>
    match attempt qt arg request normalized index (views index) uuid resolver with
    | some result => result
    | none => search request normalized views uuid resolver remaining (index + 1)

def resolve (request : ConflictResolveRequest) (views : Nat → DirectoryView) (uuid : QUuid)
    (resolver : ConflictResolver) : ConflictDecision × ConflictResolver :=
  let requested := (PathPolicy.joinLexicallyUnderRoot qt request.targetRoot
    request.relativeProtocolPath request.pathLimits).1
  if ¬ requested.ok then (.failure .unsafePath requested.error requested.diagnostic, resolver)
  else if request.maximumRenameAttempts = 0 then
    (.failure .candidateExhausted .none "no auto-rename attempts were allowed", resolver)
  else
    let attempts :=
      if request.policy = .autoRename then request.maximumRenameAttempts.toNat else 1
    search qt arg request requested.normalized views uuid resolver attempts 0

def retry (request : ConflictResolveRequest) (reservationId : QUuid) (views : Nat → DirectoryView)
    (uuid : QUuid) (resolver : ConflictResolver) : ConflictDecision × ConflictResolver :=
  if reservationId = 0 then
    (.failure .invalidReservation .none "conflict reservation is unknown", resolver)
  else
    let (removed, resolver) := resolver.remove reservationId
    if ¬ removed then
      (.failure .invalidReservation .none "conflict reservation is unknown", resolver)
    else resolve qt arg request views uuid resolver

def release (reservationId : QUuid) (resolver : ConflictResolver) : Bool × ConflictResolver :=
  if reservationId = 0 then (false, resolver) else resolver.remove reservationId

variable {qt arg} {rootOf : QString → QString} {request : ConflictResolveRequest}
  {resolver next : ConflictResolver} {uuid : QUuid} {decision : ConflictDecision}
  {target : UseTarget}

/-- The normalized, case-folded form two names of the same thing share. -/
def pathKey (qt : QtText) (path : QString) : QString :=
  PathPolicy.collisionKeyForProtocolPath qt (qt.normalizedC path)

/-- The key a decision is reserved under. -/
def reservationKey (qt : QtText) (request : ConflictResolveRequest) (target : UseTarget) : QString :=
  rootKey qt request.targetRoot ++
    0x2f :: PathPolicy.collisionKeyForProtocolPath qt target.relativeProtocolPath

/-- What one attempt hands out: the joined path if nothing collides with it, and what collides with
it only where that is overwritten. -/
structure Granted (qt : QtText) (request : ConflictResolveRequest) (view : DirectoryView)
    (uuid : QUuid) (resolver : ConflictResolver) (target : UseTarget) (next : ConflictResolver) :
    Prop where
  id : target.reservationId = uuid
  accepted : ∃ path, PathPolicy.Accepted qt request.pathLimits path ∧
    target.relativeProtocolPath = qt.normalizedC path
  unreserved : reservationKey qt request target ∉ resolver.reservations.map Prod.snd
  reserved : next = resolver.insert uuid (reservationKey qt request target)
  path : (target.absolutePath =
        PathPolicy.under qt request.targetRoot target.relativeProtocolPath ∧
      filesystemCollision qt view target.absolutePath = none) ∨
    (request.policy = .overwrite ∧ filesystemCollision qt view
      (PathPolicy.under qt request.targetRoot target.relativeProtocolPath) =
        some target.absolutePath)

/-- A call either hands out a target it reserved at some attempt, or changes nothing. -/
def Outcome (qt : QtText) (request : ConflictResolveRequest) (views : Nat → DirectoryView)
    (uuid : QUuid) (resolver : ConflictResolver) (result : ConflictDecision × ConflictResolver) :
    Prop :=
  (∃ target index, result.1 = .useTarget target ∧
      Granted qt request (views index) uuid resolver target result.2) ∨
    ((∀ target, result.1 ≠ .useTarget target) ∧ result.2 = resolver)

theorem attempt_outcome (hpaths : DocumentedPaths qt rootOf) (hunicode : DocumentedUnicode qt)
    {normalized : QString} {index : Nat} {views : Nat → DirectoryView}
    {result : ConflictDecision × ConflictResolver}
    (h : attempt qt arg request normalized index (views index) uuid resolver = some result) :
    Outcome qt request views uuid resolver result := by
  by_cases hok : (PathPolicy.joinLexicallyUnderRoot qt request.targetRoot
      (renamedRelativePath arg normalized index) request.pathLimits).1.ok = true
  · obtain ⟨haccepted, hjoin⟩ := PathPolicy.joinLexicallyUnderRoot_of_ok hpaths hunicode hok
    unfold attempt at h
    rw [hjoin] at h
    dsimp only [PathPolicy.accepted] at h
    generalize renamedRelativePath arg normalized index = path at haccepted h
    rw [if_neg (not_not_intro rfl)] at h
    split_ifs at h with hskip hask hreserved hdirectory hrename hreplaces
    · cases h
      exact .inr ⟨nofun, rfl⟩
    · cases h
      exact .inr ⟨nofun, rfl⟩
    · cases h
      exact .inr ⟨nofun, rfl⟩
    · cases h
      exact .inr ⟨nofun, rfl⟩
    · cases h
      refine .inl ⟨_, index, rfl, rfl, ⟨path, haccepted, rfl⟩, ?_, rfl, .inr ⟨hreplaces.1, ?_⟩⟩
      · exact fun hmem => hreserved ⟨hreplaces.1, decide_eq_true hmem⟩
      · obtain ⟨existing, hexisting⟩ := Option.isSome_iff_exists.mp hreplaces.2
        change _ = some (Option.getD _ _)
        rw [hexisting]
        rfl
    · cases h
      have hclear : (filesystemCollision qt (views index)
          (PathPolicy.under qt request.targetRoot (qt.normalizedC path))).isSome = false ∧
          rootKey qt request.targetRoot ++
            0x2f :: PathPolicy.collisionKeyForProtocolPath qt (qt.normalizedC path) ∉
              resolver.reservations.map Prod.snd := by
        constructor
        · rw [← Bool.not_eq_true]
          intro hexists
          cases hpolicy : request.policy with
          | autoRename => exact hrename ⟨hpolicy, .inl hexists⟩
          | overwrite => exact hreplaces ⟨hpolicy, hexists⟩
          | skip => exact hskip ⟨hpolicy, .inl hexists⟩
          | ask => exact hask ⟨hpolicy, .inl hexists⟩
        · intro hmem
          cases hpolicy : request.policy with
          | autoRename => exact hrename ⟨hpolicy, .inr (decide_eq_true hmem)⟩
          | overwrite => exact hreserved ⟨hpolicy, decide_eq_true hmem⟩
          | skip => exact hskip ⟨hpolicy, .inr (decide_eq_true hmem)⟩
          | ask => exact hask ⟨hpolicy, .inr (decide_eq_true hmem)⟩
      exact .inl ⟨_, index, rfl, rfl, ⟨path, haccepted, rfl⟩, hclear.2, rfl,
        .inl ⟨rfl, Option.isSome_eq_false_iff.mp hclear.1 |> Option.isNone_iff_eq_none.mp⟩⟩
  · unfold attempt at h
    dsimp only at h
    rw [if_pos hok] at h
    split_ifs at h
    cases h
    exact .inr ⟨nofun, rfl⟩

theorem search_outcome (hpaths : DocumentedPaths qt rootOf) (hunicode : DocumentedUnicode qt)
    (normalized : QString) (views : Nat → DirectoryView) (remaining index : Nat) :
    Outcome qt request views uuid resolver
      (search qt arg request normalized views uuid resolver remaining index) := by
  induction remaining generalizing index with
  | zero => exact .inr ⟨nofun, rfl⟩
  | succ remaining ih =>
    rw [search]
    split
    · rename_i result hattempt
      exact attempt_outcome hpaths hunicode hattempt
    · exact ih (index + 1)

theorem resolve_outcome (hpaths : DocumentedPaths qt rootOf) (hunicode : DocumentedUnicode qt)
    (views : Nat → DirectoryView) :
    Outcome qt request views uuid resolver (resolve qt arg request views uuid resolver) := by
  unfold resolve
  dsimp only
  split
  · exact .inr ⟨nofun, rfl⟩
  · split
    · exact .inr ⟨nofun, rfl⟩
    · exact search_outcome hpaths hunicode _ views _ 0

theorem remove_unknown {reservationId : QUuid} (h : ¬ (resolver.remove reservationId).1 = true) :
    (resolver.remove reservationId).2 = resolver := by
  have hunknown : ∀ entry ∈ resolver.reservations, entry.1 ≠ reservationId := by
    intro entry hmem heq
    exact h (List.any_eq_true.mpr ⟨entry, hmem, decide_eq_true heq⟩)
  have hfilter : resolver.reservations.filter (·.1 ≠ reservationId) = resolver.reservations :=
    List.filter_eq_self.mpr fun entry hmem => decide_eq_true (hunknown entry hmem)
  exact congrArg ConflictResolver.mk hfilter

theorem retry_outcome (hpaths : DocumentedPaths qt rootOf) (hunicode : DocumentedUnicode qt)
    {reservationId : QUuid} (hid : reservationId ≠ 0) (views : Nat → DirectoryView) :
    Outcome qt request views uuid (resolver.remove reservationId).2
      (retry qt arg request reservationId views uuid resolver) := by
  unfold retry
  rw [if_neg hid]
  dsimp only
  split
  · rename_i hremoved
    exact .inr ⟨nofun, (remove_unknown hremoved).symm ▸ rfl⟩
  · exact resolve_outcome hpaths hunicode views

theorem pathKey_slash (hunicode : DocumentedUnicode qt) (left right : QString) :
    pathKey qt (left ++ 0x2f :: right) = pathKey qt left ++ 0x2f :: pathKey qt right := by
  unfold pathKey
  rw [hunicode.normalizedC_slash, PathPolicy.collisionKey_slash hunicode]

theorem directoryOf_append_fileName (path : QString) :
    directoryOf path ++ fileName path = path := by
  unfold directoryOf fileName
  rw [← List.reverse_append, List.takeWhile_append_dropWhile, List.reverse_reverse]

theorem directoryOf_cases (path : QString) :
    directoryOf path = [] ∨ ∃ front, directoryOf path = front ++ [0x2f] := by
  unfold directoryOf
  cases hrest : path.reverse.dropWhile (· ≠ 0x2f) with
  | nil => exact .inl rfl
  | cons unit rest =>
    have hunit : ¬ decide (unit ≠ 0x2f) = true := by
      have hhead := List.head?_dropWhile_not (fun unit : UInt16 => decide (unit ≠ 0x2f)) path.reverse
      rw [hrest] at hhead
      simpa using hhead
    obtain rfl : unit = 0x2f := not_not.mp fun hne => hunit (decide_eq_true hne)
    exact .inr ⟨rest.reverse, List.reverse_cons⟩

variable {path : QString}

theorem pathKey_sibling (hunicode : DocumentedUnicode qt) {sibling : QString}
    (h : pathKey qt sibling = pathKey qt (fileName path)) :
    pathKey qt (directoryOf path ++ sibling) = pathKey qt path := by
  have hsplit := directoryOf_append_fileName path
  obtain hnone | ⟨front, hfront⟩ := directoryOf_cases path
  · rw [hnone] at hsplit ⊢
    rw [List.nil_append] at hsplit ⊢
    rw [h, hsplit]
  · rw [hfront, List.append_assoc] at hsplit ⊢
    calc pathKey qt (front ++ 0x2f :: sibling)
        = pathKey qt front ++ 0x2f :: pathKey qt (fileName path) := by
          rw [pathKey_slash hunicode, h]
      _ = pathKey qt (front ++ 0x2f :: fileName path) := (pathKey_slash hunicode ..).symm
      _ = pathKey qt path := congrArg (pathKey qt) hsplit

theorem collisionKey_validateRelative {limits : PathLimits}
    (h : (PathPolicy.validateRelative qt path limits).ok = true) :
    (PathPolicy.validateRelative qt path limits).collisionKey = pathKey qt path := by
  rw [(PathPolicy.validateRelative_of_ok h).2]
  rfl

variable {view : DirectoryView}

theorem filesystemCollision_eq_none (h : filesystemCollision qt view path = none) :
    view.pathExists path = false ∧ ∀ sibling ∈ siblings view path,
      (PathPolicy.validateRelative qt sibling).ok = true →
        pathKey qt sibling ≠ pathKey qt (fileName path) := by
  unfold filesystemCollision at h
  dsimp only at h
  split_ifs at h with hexists hname
  refine ⟨Bool.not_eq_true _ |>.mp hexists, ?_⟩
  intro sibling hsibling hok hkey
  rw [Option.map_eq_none_iff, List.find?_eq_none] at h
  apply h sibling hsibling
  rw [Bool.and_eq_true]
  refine ⟨hok, decide_eq_true ?_⟩
  rw [collisionKey_validateRelative hok, collisionKey_validateRelative hname, hkey]

theorem pathKey_of_filesystemCollision (hunicode : DocumentedUnicode qt) {existing : QString}
    (h : filesystemCollision qt view path = some existing) :
    pathKey qt existing = pathKey qt path := by
  unfold filesystemCollision at h
  dsimp only at h
  split_ifs at h with hexists hname
  · cases h
    rfl
  · obtain ⟨sibling, hfind, rfl⟩ := Option.map_eq_some_iff.mp h
    have hcollides := List.find?_some hfind
    rw [Bool.and_eq_true] at hcollides
    apply pathKey_sibling hunicode
    have hkey := of_decide_eq_true hcollides.2
    rwa [collisionKey_validateRelative hcollides.1, collisionKey_validateRelative hname] at hkey
  · cases h
    rfl

theorem Granted.normalizedC_relative (hunicode : DocumentedUnicode qt)
    (h : Granted qt request view uuid resolver target next) :
    qt.normalizedC target.relativeProtocolPath = target.relativeProtocolPath := by
  obtain ⟨path, -, hrelative⟩ := h.accepted
  rw [hrelative, hunicode.normalizedC_normalizedC]

theorem Granted.pathKey_eq (hunicode : DocumentedUnicode qt)
    (h : Granted qt request view uuid resolver target next) :
    pathKey qt target.absolutePath =
      pathKey qt (PathPolicy.under qt request.targetRoot target.relativeProtocolPath) := by
  obtain ⟨hpath, -⟩ | ⟨-, hexisting⟩ := h.path
  · rw [hpath]
  · exact pathKey_of_filesystemCollision hunicode hexisting

/-- The root's folded form is normalized and a slash behind it makes its paths: the key of a
reservation under it is the key of the reserved path. -/
def KeyedRoot (qt : QtText) (request : ConflictResolveRequest) : Prop :=
  (qt.cleanPath request.targetRoot).getLast? ≠ some 0x2f ∧
    qt.normalizedC (rootKey qt request.targetRoot) = rootKey qt request.targetRoot

/-- Two requests whose reservations are told apart: under one root, or under keyed ones. -/
def Comparable (qt : QtText) (left right : ConflictResolveRequest) : Prop :=
  qt.cleanPath left.targetRoot = qt.cleanPath right.targetRoot ∨
    (KeyedRoot qt left ∧ KeyedRoot qt right)

theorem pathKey_of_normalized (h : qt.normalizedC path = path) :
    pathKey qt path = PathPolicy.collisionKeyForProtocolPath qt path := by
  unfold pathKey
  rw [h]

theorem pathKey_under_keyed (hunicode : DocumentedUnicode qt) (hroot : KeyedRoot qt request)
    (hrelative : qt.normalizedC target.relativeProtocolPath = target.relativeProtocolPath) :
    pathKey qt (PathPolicy.under qt request.targetRoot target.relativeProtocolPath) =
      reservationKey qt request target := by
  unfold PathPolicy.under withSeparator
  rw [if_neg hroot.1, List.append_assoc]
  calc pathKey qt (qt.cleanPath request.targetRoot ++ 0x2f :: target.relativeProtocolPath)
      = pathKey qt (qt.cleanPath request.targetRoot) ++
          0x2f :: PathPolicy.collisionKeyForProtocolPath qt target.relativeProtocolPath := by
        rw [pathKey_slash hunicode, pathKey_of_normalized hrelative]
    _ = reservationKey qt request target := by
        unfold reservationKey
        exact congrArg (· ++ _) hroot.2

theorem pathKey_under_ne (hunicode : DocumentedUnicode qt) {other : ConflictResolveRequest}
    {otherTarget : UseTarget} (hroots : Comparable qt other request)
    (hother : qt.normalizedC otherTarget.relativeProtocolPath = otherTarget.relativeProtocolPath)
    (hrelative : qt.normalizedC target.relativeProtocolPath = target.relativeProtocolPath)
    (hkeys : reservationKey qt other otherTarget ≠ reservationKey qt request target) :
    pathKey qt (PathPolicy.under qt other.targetRoot otherTarget.relativeProtocolPath) ≠
      pathKey qt (PathPolicy.under qt request.targetRoot target.relativeProtocolPath) := by
  intro heq
  obtain hroot | ⟨hleft, hright⟩ := hroots
  · unfold PathPolicy.under at heq
    rw [hroot] at heq
    obtain ⟨front, hfront⟩ :=
      @withSeparator_eq_append _ _ 0x2f (qt.cleanPath request.targetRoot)
    have hside : ∀ relative, qt.normalizedC relative = relative →
        pathKey qt (front ++ [0x2f] ++ relative) = pathKey qt front ++
          0x2f :: PathPolicy.collisionKeyForProtocolPath qt relative := by
      intro relative hnormalized
      rw [List.append_assoc]
      change pathKey qt (front ++ 0x2f :: relative) = _
      rw [pathKey_slash hunicode, pathKey_of_normalized hnormalized]
    rw [hfront, hside _ hother, hside _ hrelative] at heq
    apply hkeys
    unfold reservationKey rootKey
    rw [hroot]
    exact congrArg _ (List.append_cancel_left heq)
  · rw [pathKey_under_keyed hunicode hleft hother, pathKey_under_keyed hunicode hright hrelative]
      at heq
    exact hkeys heq

/-- A resolver and the decisions it handed out that are not released yet. -/
structure Session where
  resolver : ConflictResolver := {}
  outstanding : List (ConflictResolveRequest × UseTarget) := []

namespace Session

/-- The outstanding decisions but the one of this reservation. -/
def others (session : Session) (reservationId : QUuid) : List (ConflictResolveRequest × UseTarget) :=
  session.outstanding.filter fun held => held.2.reservationId ≠ reservationId

def grant (request : ConflictResolveRequest) (held : List (ConflictResolveRequest × UseTarget))
    (result : ConflictDecision × ConflictResolver) : Session :=
  match result.1 with
  | .useTarget target => ⟨result.2, (request, target) :: held⟩
  | _ => ⟨result.2, held⟩

/-- `QUuid::createUuid` makes no null identifier and none that is in use. -/
def Fresh (session : Session) (uuid : QUuid) : Prop :=
  uuid ≠ 0 ∧ uuid ∉ session.outstanding.map fun held => held.2.reservationId

instance (session : Session) (uuid : QUuid) : Decidable (session.Fresh uuid) :=
  inferInstanceAs (Decidable (_ ∧ _))

end Session

inductive ResolverEvent where
  | resolve (request : ConflictResolveRequest) (views : Nat → DirectoryView) (uuid : QUuid)
  | retry (request : ConflictResolveRequest) (reservationId : QUuid) (views : Nat → DirectoryView)
      (uuid : QUuid)
  | release (reservationId : QUuid)

def step (qt : QtText) (arg : Arg) (session : Session) : ResolverEvent → Option Session
  | .resolve request views uuid =>
    if session.Fresh uuid then
      some (.grant request session.outstanding
        (resolve qt arg request views uuid session.resolver))
    else none
  | .retry request reservationId views uuid =>
    if session.Fresh uuid then
      some (.grant request
        (if reservationId = 0 then session.outstanding else session.others reservationId)
        (retry qt arg request reservationId views uuid session.resolver))
    else none
  | .release reservationId =>
    some ⟨(release reservationId session.resolver).2,
      if reservationId = 0 then session.outstanding else session.others reservationId⟩

def machine (qt : QtText) (arg : Arg) : Machine Session ResolverEvent where
  start session := session = {}
  step := step qt arg

structure Tracked (qt : QtText) (session : Session) : Prop where
  reservations : session.resolver.reservations = session.outstanding.map fun held =>
    (held.2.reservationId, reservationKey qt held.1 held.2)
  nodup : (session.resolver.reservations.map Prod.snd).Nodup
  normalized : ∀ held ∈ session.outstanding,
    qt.normalizedC held.2.relativeProtocolPath = held.2.relativeProtocolPath
  path : ∀ held ∈ session.outstanding, pathKey qt held.2.absolutePath =
    pathKey qt (PathPolicy.under qt held.1.targetRoot held.2.relativeProtocolPath)
  nonNull : ∀ held ∈ session.outstanding, held.2.reservationId ≠ 0

namespace Tracked

variable {session : Session}

theorem start : Tracked qt {} :=
  ⟨rfl, List.nodup_nil, nofun, nofun, nofun⟩

theorem remove (h : Tracked qt session) (reservationId : QUuid) :
    Tracked qt ⟨(session.resolver.remove reservationId).2, session.others reservationId⟩ := by
  have hmem : ∀ held ∈ session.others reservationId, held ∈ session.outstanding :=
    fun held hheld => List.mem_of_mem_filter hheld
  refine ⟨?_, ?_, fun held hheld => h.normalized held (hmem held hheld),
    fun held hheld => h.path held (hmem held hheld),
    fun held hheld => h.nonNull held (hmem held hheld)⟩
  · change session.resolver.reservations.filter _ = _
    rw [h.reservations, List.filter_map]
    rfl
  · exact h.nodup.sublist (List.filter_sublist.map Prod.snd)

theorem grant (hunicode : DocumentedUnicode qt) (h : Tracked qt session)
    (hfresh : session.Fresh uuid) {views : Nat → DirectoryView}
    {result : ConflictDecision × ConflictResolver}
    (houtcome : Outcome qt request views uuid session.resolver result) :
    Tracked qt (.grant request session.outstanding result) := by
  obtain ⟨target, index, hdecision, hgranted⟩ | ⟨hdecision, hsame⟩ := houtcome
  · have hgrant : Session.grant request session.outstanding result =
        ⟨result.2, (request, target) :: session.outstanding⟩ := by
      unfold Session.grant
      rw [hdecision]
    have hinsert : result.2.reservations =
        (uuid, reservationKey qt request target) :: session.resolver.reservations := by
      rw [hgranted.reserved]
      refine congrArg (List.cons _) (List.filter_eq_self.mpr fun entry hentry => decide_eq_true ?_)
      rintro rfl
      apply hfresh.2
      rw [h.reservations] at hentry
      obtain ⟨held, hheld, rfl⟩ := List.mem_map.mp hentry
      exact List.mem_map_of_mem hheld
    rw [hgrant]
    refine ⟨?_, ?_, ?_, ?_, ?_⟩
    · rw [hinsert, h.reservations, List.map_cons, hgranted.id]
    · rw [hinsert, List.map_cons]
      exact List.nodup_cons.mpr ⟨hgranted.unreserved, h.nodup⟩
    · exact List.forall_mem_cons.mpr ⟨hgranted.normalizedC_relative hunicode, h.normalized⟩
    · exact List.forall_mem_cons.mpr ⟨hgranted.pathKey_eq hunicode, h.path⟩
    · exact List.forall_mem_cons.mpr ⟨hgranted.id ▸ hfresh.1, h.nonNull⟩
  · have hgrant : Session.grant request session.outstanding result =
        ⟨session.resolver, session.outstanding⟩ := by
      unfold Session.grant
      rw [hsame]
      split
      · rename_i target htarget
        exact absurd htarget (hdecision target)
      · rfl
    rw [hgrant]
    exact h

end Tracked

variable {session : Session}

theorem Tracked.step (hpaths : DocumentedPaths qt rootOf) (hunicode : DocumentedUnicode qt)
    {after : Session} {event : ResolverEvent} (h : Tracked qt session)
    (hstep : step qt arg session event = some after) : Tracked qt after := by
  cases event with
  | resolve request views uuid =>
    obtain ⟨hfresh, hafter⟩ := Option.ite_none_right_eq_some.mp hstep
    cases hafter
    exact h.grant hunicode hfresh (resolve_outcome hpaths hunicode views)
  | retry request reservationId views uuid =>
    obtain ⟨hfresh, hafter⟩ := Option.ite_none_right_eq_some.mp hstep
    cases hafter
    by_cases hid : reservationId = 0
    · rw [if_pos hid]
      unfold retry
      rw [if_pos hid]
      exact h
    · rw [if_neg hid]
      have hothers : (Session.mk (session.resolver.remove reservationId).2
          (session.others reservationId)).Fresh uuid := by
        refine ⟨hfresh.1, fun hmem => hfresh.2 ?_⟩
        exact (List.filter_sublist.map _).subset hmem
      exact (h.remove reservationId).grant hunicode hothers (retry_outcome hpaths hunicode hid views)
  | release reservationId =>
    cases hstep
    unfold release
    by_cases hid : reservationId = 0
    · rw [if_pos hid, if_pos hid]
      exact h
    · rw [if_neg hid, if_neg hid]
      exact h.remove reservationId

theorem tracked_of_reachable (hpaths : DocumentedPaths qt rootOf) (hunicode : DocumentedUnicode qt)
    (h : (machine qt arg).Reachable (fun _ _ => True) session) : Tracked qt session := by
  have hkeep : ∀ session event after, Tracked qt session → True →
      (machine qt arg).step session event = some after → Tracked qt after :=
    fun _ _ _ htracked _ hstep => htracked.step hpaths hunicode hstep
  refine h.invariant ?_ hkeep
  rintro session rfl
  exact .start

/-- The target is not there at the attempt that chose it, no listed name the policy accepts folds
like it, and no other decision held under a comparable root names a path that folds like it. -/
def Free (qt : QtText) (request : ConflictResolveRequest) (views : Nat → DirectoryView)
    (others : List (ConflictResolveRequest × UseTarget)) (target : UseTarget) : Prop :=
  (∃ attempt, (views attempt).pathExists target.absolutePath = false ∧
      ∀ sibling ∈ siblings (views attempt) target.absolutePath,
        (PathPolicy.validateRelative qt sibling).ok = true →
          pathKey qt sibling ≠ pathKey qt (fileName target.absolutePath)) ∧
    ∀ held ∈ others, Comparable qt held.1 request →
      pathKey qt held.2.absolutePath ≠ pathKey qt target.absolutePath

theorem Tracked.free (hunicode : DocumentedUnicode qt) (h : Tracked qt session)
    {views : Nat → DirectoryView} {result : ConflictDecision × ConflictResolver}
    (houtcome : Outcome qt request views uuid session.resolver result)
    (hpolicy : request.policy ≠ .overwrite) (hdecision : result.1 = .useTarget target) :
    Free qt request views session.outstanding target := by
  obtain ⟨granted, index, hgrants, hgranted⟩ | ⟨hother, -⟩ := houtcome
  · obtain rfl : granted = target := ConflictDecision.useTarget.inj (hgrants.symm.trans hdecision)
    refine ⟨⟨index, ?_⟩, ?_⟩
    · obtain ⟨-, hfree⟩ | ⟨hoverwrite, -⟩ := hgranted.path
      · exact filesystemCollision_eq_none hfree
      · exact absurd hoverwrite hpolicy
    · intro held hheld hroots
      rw [h.path held hheld, hgranted.pathKey_eq hunicode]
      apply pathKey_under_ne hunicode hroots (h.normalized held hheld)
        (hgranted.normalizedC_relative hunicode)
      intro hkeys
      apply hgranted.unreserved
      rw [← hkeys, h.reservations, List.map_map]
      exact List.mem_map_of_mem hheld
  · exact absurd hdecision (hother target)

/-- In every run no two reservations have one key, and a decision that does not overwrite names a
free path, whether it comes from a first call or from a retry, which gives up its own first. -/
theorem reservations_never_clash (hpaths : DocumentedPaths qt rootOf)
    (hunicode : DocumentedUnicode qt) {session : Session}
    (h : (machine qt arg).Reachable (fun _ _ => True) session) :
    (session.resolver.reservations.map Prod.snd).Nodup ∧
      (∀ request views uuid target, request.policy ≠ .overwrite →
        (resolve qt arg request views uuid session.resolver).1 = .useTarget target →
          Free qt request views session.outstanding target) ∧
      ∀ request reservationId views uuid target, request.policy ≠ .overwrite →
        (retry qt arg request reservationId views uuid session.resolver).1 = .useTarget target →
          Free qt request views (session.others reservationId) target := by
  have htracked := tracked_of_reachable hpaths hunicode h
  refine ⟨htracked.nodup, ?_, ?_⟩
  · intro request views uuid target hpolicy hdecision
    exact htracked.free hunicode (resolve_outcome hpaths hunicode views) hpolicy hdecision
  · intro request reservationId views uuid target hpolicy hdecision
    have hid : reservationId ≠ 0 := by
      rintro rfl
      exact absurd hdecision nofun
    exact (htracked.remove reservationId).free hunicode
      (retry_outcome hpaths hunicode hid views) hpolicy hdecision

section Sample

def fillMarker (digit : UInt16) (text : QString) : QString → QString
  | 0x25 :: next :: rest =>
    if next = digit then text ++ fillMarker digit text rest
    else 0x25 :: fillMarker digit text (next :: rest)
  | unit :: rest => unit :: fillMarker digit text rest
  | [] => []

def asciiArg : Arg := fun format text =>
  let isMarked (digit : UInt16) : Bool := fillMarker digit [] format ≠ format
  match [0x31, 0x32, 0x33, 0x34, 0x35, 0x36, 0x37, 0x38, 0x39].find? isMarked with
  | some digit => fillMarker digit text format
  | none => format

def sharpText : QtText :=
  { QtText.posix with
    toCaseFolded := fun text => text.flatMap fun unit =>
      if unit = 0xdf ∨ unit = 0x1e9e then [0x73, 0x73] else QtText.posix.toCaseFolded [unit] }

theorem documentedPaths_sharpText : DocumentedPaths sharpText posixRoot where
  roots := PathPolicy.documentedPaths_posix.roots
  absolute := PathPolicy.documentedPaths_posix.absolute
  absoluteStart := PathPolicy.documentedPaths_posix.absoluteStart
  cleanPath := PathPolicy.documentedPaths_posix.cleanPath
  absoluteFilePath := PathPolicy.documentedPaths_posix.absoluteFilePath
  nativeSeparators := PathPolicy.documentedPaths_posix.nativeSeparators

theorem documentedUnicode_sharpText : DocumentedUnicode sharpText where
  normalizedC_normalizedC _ := rfl
  normalizedC_nil := rfl
  normalizedC_slash _ _ := rfl
  backslash_of_normalizedC _ h := h
  toCaseFolded_nil := rfl
  toCaseFolded_slash _ _ := List.flatMap_append
  slash_not_control := by decide

def noEntries : DirectoryView where
  pathExists _ := false
  isDir _ := false
  dirExists _ := true
  entryInfoList _ := []

def wanted (targetRoot relativeProtocolPath : String) : ConflictResolveRequest :=
  { targetRoot := QString.literal targetRoot
    relativeProtocolPath := QString.literal relativeProtocolPath }

def heldOn (targetRoot relativeProtocolPath : String) : Session :=
  .grant (wanted targetRoot relativeProtocolPath) []
    (resolve sharpText asciiArg (wanted targetRoot relativeProtocolPath) (fun _ => noEntries) 1 {})

theorem reachable_heldOn (targetRoot relativeProtocolPath : String) :
    (machine sharpText asciiArg).Reachable (fun _ _ => True)
      (heldOn targetRoot relativeProtocolPath) := by
  have hstart : (machine sharpText asciiArg).Run (fun _ _ => True) {} {} := .refl
  refine ⟨{}, rfl, @hstart.tail _ _ _ _ _ _ _
    (.resolve (wanted targetRoot relativeProtocolPath) (fun _ => noEntries) 1) trivial ?_⟩
  have hfresh : Session.Fresh {} 1 := ⟨by decide, List.not_mem_nil⟩
  change (if Session.Fresh {} 1 then some (heldOn targetRoot relativeProtocolPath) else none) = _
  exact if_pos hfresh

theorem reservations_never_clash_renamed :
    let target : UseTarget :=
      { absolutePath := QString.literal "/inbox/a (1).txt"
        relativeProtocolPath := QString.literal "a (1).txt"
        reservationId := 2 }
    (resolve sharpText asciiArg (wanted "/inbox" "a.txt") (fun _ => noEntries) 2
        (heldOn "/inbox" "A.TXT").resolver).1 = .useTarget target ∧
      Free sharpText (wanted "/inbox" "a.txt") (fun _ => noEntries)
        (heldOn "/inbox" "A.TXT").outstanding target := by
  intro target
  have hdecision : (resolve sharpText asciiArg (wanted "/inbox" "a.txt") (fun _ => noEntries) 2
      (heldOn "/inbox" "A.TXT").resolver).1 = .useTarget target := by
    decide +kernel
  exact ⟨hdecision, (reservations_never_clash documentedPaths_sharpText documentedUnicode_sharpText
    (reachable_heldOn "/inbox" "A.TXT")).2.1 _ _ _ _ (by decide) hdecision⟩

/-- A sibling whose name is too long for the policy is passed over, although a shorter name folds
like it; and the root directory's reservations are not seen from a directory below it. -/
theorem reservations_clash :
    ¬ (∀ (qt : QtText) (arg : Arg) (rootOf : QString → QString) (session : Session) request views
        uuid target, DocumentedPaths qt rootOf → DocumentedUnicode qt →
          (machine qt arg).Reachable (fun _ _ => True) session → request.policy ≠ .overwrite →
            (resolve qt arg request views uuid session.resolver).1 = .useTarget target →
              ∃ attempt, ∀ sibling ∈ siblings (views attempt) target.absolutePath,
                pathKey qt sibling ≠ pathKey qt (fileName target.absolutePath)) ∧
      ¬ (∀ (qt : QtText) (arg : Arg) (rootOf : QString → QString) (session : Session) request views
        uuid target, DocumentedPaths qt rootOf → DocumentedUnicode qt →
          (machine qt arg).Reachable (fun _ _ => True) session → request.policy ≠ .overwrite →
            (resolve qt arg request views uuid session.resolver).1 = .useTarget target →
              ∀ held ∈ session.outstanding, held.2.absolutePath ≠ target.absolutePath) := by
  constructor
  · intro h
    let view : DirectoryView := { noEntries with
      entryInfoList := fun _ => [List.replicate 86 0x1e9e] }
    let target : UseTarget :=
      { absolutePath := QString.literal "/inbox/" ++ List.replicate 172 0x73
        relativeProtocolPath := List.replicate 172 0x73
        reservationId := 1 }
    have hdecision : (resolve sharpText asciiArg
        { targetRoot := QString.literal "/inbox", relativeProtocolPath := List.replicate 172 0x73 }
        (fun _ => view) 1 {}).1 = .useTarget target := by
      decide +kernel
    obtain ⟨attempt, hfree⟩ := h sharpText asciiArg posixRoot {} _ _ _ _ documentedPaths_sharpText
      documentedUnicode_sharpText (.of_start rfl) (by decide) hdecision
    exact hfree (List.replicate 86 0x1e9e) (by decide +kernel) (by decide +kernel)
  · intro h
    have hdecision : (resolve sharpText asciiArg (wanted "/x" "a") (fun _ => noEntries) 2
        (heldOn "/" "x/a").resolver).1 = .useTarget
          { absolutePath := QString.literal "/x/a"
            relativeProtocolPath := QString.literal "a"
            reservationId := 2 } := by
      decide +kernel
    have hheld : (heldOn "/" "x/a").outstanding = [(wanted "/" "x/a",
        { absolutePath := QString.literal "/x/a"
          relativeProtocolPath := QString.literal "x/a"
          reservationId := 1 })] := by
      decide +kernel
    have hfree := h sharpText asciiArg posixRoot _ _ _ _ _ documentedPaths_sharpText
      documentedUnicode_sharpText (reachable_heldOn "/" "x/a") (by decide) hdecision
    rw [hheld] at hfree
    exact hfree _ (List.mem_singleton_self _) rfl

end Sample

end ConflictResolver

end DeskflowPlus.Transfer
