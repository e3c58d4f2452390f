import DeskflowPlus.Transfer.QtTypes

/-!
# The path policy

Protocol paths are relative, separated by slashes, in normalization form C, and valid on every
platform. The receiver joins an accepted path under its root lexically and compares case-folded
forms, so that nothing the peer sends names a file outside the root.
-/

namespace DeskflowPlus.Transfer

inductive PathError where
  | none
  | empty
  | invalidUnicodeOrControl
  | absolute
  | invalidSeparator
  | emptyComponent
  | dotComponent
  | parentTraversal
  | componentTooLong
  | pathTooLong
  | tooDeep
  | invalidCharacter
  | windowsReservedName
  | windowsTrailingDotOrSpace
  | rootNotAbsolute
  | escapesRoot
  deriving DecidableEq

structure PathLimits where
  maxUtf8Bytes : UInt32 := 4096
  maxComponentUtf8Bytes : UInt32 := 255
  maxDepth : UInt32 := 128
  deriving DecidableEq

structure PathValidationResult where
  ok : Bool := false
  error : PathError := .none
  normalized : QString := []
  collisionKey : QString := []
  diagnostic : String := ""

namespace PathPolicy

def fail (error : PathError) (diagnostic : String) : PathValidationResult :=
  { ok := false, error, normalized := [], collisionKey := [], diagnostic }

variable (qt : QtText)

def hasInvalidUnicodeOrControl : QString → Bool
  | [] => false
  | [unit] => QString.isHighSurrogate unit || QString.isLowSurrogate unit || qt.isOtherControl unit
  | unit :: next :: rest =>
    if QString.isHighSurrogate unit then
      if QString.isLowSurrogate next then hasInvalidUnicodeOrControl rest else true
    else if QString.isLowSurrogate unit || qt.isOtherControl unit then true
    else hasInvalidUnicodeOrControl (next :: rest)

/-- The pattern `^[A-Za-z]:`. -/
def hasDrivePrefix : QString → Bool
  | letter :: 0x3a :: _ => (0x41 ≤ letter && letter ≤ 0x5a) || (0x61 ≤ letter && letter ≤ 0x7a)
  | _ => false

def isWindowsReservedName (component : QString) : Bool :=
  let section0 := component.takeWhile (· ≠ 0x2e)
  let stem := qt.toUpper (section0.reverse.dropWhile fun unit => unit = 0x2e ∨ unit = 0x20).reverse
  stem ∈ [QString.literal "CON", QString.literal "PRN", QString.literal "AUX",
      QString.literal "NUL"] ||
    match stem with
    | [c0, c1, c2, digit] =>
      ([c0, c1, c2] = QString.literal "COM" || [c0, c1, c2] = QString.literal "LPT") &&
        ((0x31 ≤ digit && digit ≤ 0x39) || digit = 0xb9 || digit = 0xb2 || digit = 0xb3)
    | _ => false

def collisionKeyForProtocolPath (normalized : QString) : QString :=
  qt.normalizedC (qt.toCaseFolded normalized)

def comparableLocalPath (path : QString) : QString :=
  collisionKeyForProtocolPath qt (qt.fromNativeSeparators (qt.cleanPath path))

/-- The checks on one component; the first that fails. -/
def validateComponent (component : QString) (limits : PathLimits) : Option PathValidationResult :=
  if component = [] then some (fail .emptyComponent "protocol path contains an empty component")
  else if component = QString.literal "." then
    some (fail .dotComponent "'.' path components are not allowed")
  else if component = QString.literal ".." then
    some (fail .parentTraversal "'..' path components are not allowed")
  else if component.toUtf8.length > limits.maxComponentUtf8Bytes.toNat then
    some (fail .componentTooLong "UTF-8 path component exceeds the configured limit")
  else if hasInvalidUnicodeOrControl qt component then
    some (fail .invalidUnicodeOrControl
      "path component contains invalid Unicode or control characters")
  else if component.any fun character => character ∈ QString.literal "<>:\"|?*" then
    some (fail .invalidCharacter "path contains a cross-platform invalid character")
  else if component.getLast? = some 0x2e ∨ component.getLast? = some 0x20 then
    some (fail .windowsTrailingDotOrSpace "portable path components cannot end in dot or space")
  else if isWindowsReservedName qt component then
    some (fail .windowsReservedName "path contains a Windows reserved device name")
  else none

def validateRelative (path : QString) (limits : PathLimits := {}) : PathValidationResult :=
  if path = [] then fail .empty "protocol path is empty"
  else if QString.literal "//" <+: path ∨ QString.literal "\\\\" <+: path ∨
      QString.literal "/" <+: path ∨ qt.isAbsolutePath path ∨ hasDrivePrefix path then
    fail .absolute "absolute, UNC, and drive paths are not allowed"
  else if 0x5c ∈ path then fail .invalidSeparator "protocol paths must use '/' separators"
  else if hasInvalidUnicodeOrControl qt path then
    fail .invalidUnicodeOrControl "path contains invalid Unicode, NUL, or control characters"
  else
    let normalized := qt.normalizedC path
    if normalized.toUtf8.length > limits.maxUtf8Bytes.toNat then
      fail .pathTooLong "UTF-8 protocol path exceeds the configured limit"
    else
      let components := normalized.splitOn 0x2f
      if components.length > limits.maxDepth.toNat then
        fail .tooDeep "protocol path depth exceeds the configured limit"
      else
        match components.findSome? fun component => validateComponent qt component limits with
        | some failure => failure
        | none =>
          { ok := true, error := .none, normalized,
            collisionKey := collisionKeyForProtocolPath qt normalized, diagnostic := "" }

def joinLexicallyUnderRoot (absoluteRoot relativePath : QString) (limits : PathLimits := {}) :
    PathValidationResult × QString :=
  if ¬ qt.isAbsolutePath absoluteRoot then
    (fail .rootNotAbsolute "receive root must be absolute", [])
  else
    let validated := validateRelative qt relativePath limits
    if ¬ validated.ok then (validated, [])
    else
      let cleanedRoot := qt.cleanPath absoluteRoot
      let candidate := qt.cleanPath (qt.absoluteFilePath cleanedRoot validated.normalized)
      let comparableRoot := comparableLocalPath qt cleanedRoot
      let comparableCandidate := comparableLocalPath qt candidate
      let rootWithSeparator :=
        if comparableRoot.getLast? = some 0x2f then comparableRoot else comparableRoot ++ [0x2f]
      if comparableCandidate ≠ comparableRoot ∧ ¬ rootWithSeparator <+: comparableCandidate then
        (fail .escapesRoot "resolved path escapes the receive root", [])
      else (validated, candidate)

variable {qt}

variable {limits : PathLimits}

theorem validateComponent_ok {component : QString} {result : PathValidationResult}
    (h : validateComponent qt component limits = some result) :
    result.ok = false := by
  unfold validateComponent at h
  split_ifs at h <;> cases h <;> rfl

theorem validateRelative_normalized {path : QString}
    (h : (validateRelative qt path limits).ok = true) :
    (validateRelative qt path limits).normalized = qt.normalizedC path := by
  unfold validateRelative at h ⊢
  dsimp only at h ⊢
  cases hcomponents : ((qt.normalizedC path).splitOn 0x2f).findSome?
      fun component => validateComponent qt component limits with
  | none =>
    rw [hcomponents] at h
    split_ifs at h ⊢ <;> first | rfl | exact absurd h (by simp [fail])
  | some failure =>
    obtain ⟨component, -, hfailure⟩ := List.exists_of_findSome?_eq_some hcomponents
    have hrefused := validateComponent_ok hfailure
    rw [hcomponents] at h
    split_ifs at h <;> simp_all [fail]

theorem joinLexicallyUnderRoot_normalized {root path : QString}
    (h : (joinLexicallyUnderRoot qt root path limits).1.ok = true) :
    (joinLexicallyUnderRoot qt root path limits).1.normalized = qt.normalizedC path := by
  unfold joinLexicallyUnderRoot at h ⊢
  dsimp only at h ⊢
  -- the verdict is the validation's own, or a refusal
  split_ifs at h ⊢ <;>
    first
    | exact validateRelative_normalized h
    | exact absurd h (by simp [fail])

end PathPolicy

end DeskflowPlus.Transfer
