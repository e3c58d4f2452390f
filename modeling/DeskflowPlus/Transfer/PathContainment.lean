import DeskflowPlus.Lib.PathSegments
import DeskflowPlus.Transfer.PathPolicy

/-!
# Accepted paths stay under the root

An accepted path has no segment that is empty, a dot or two dots, before and after normalization,
so that joining it under a clean root leaves nothing to clean. The comparison that looks for paths
outside the root then always finds the root, followed by a slash, at the start of the joined path.
What this takes of Qt is documented: which forms of a path are absolute, how a path is cleaned and
where its separators are, and that a slash takes part in no normalization or folding.
-/

namespace DeskflowPlus.Transfer

open PathSegments

structure DocumentedPaths (qt : QtText) (rootOf : QString → QString) : Prop where
  roots : Roots 0x2f rootOf
  absolute : ∀ path, qt.isAbsolutePath path = true ↔ rootOf (qt.fromNativeSeparators path) ≠ []
  absoluteStart : ∀ path, qt.isAbsolutePath path = true →
    path.head? = some 0x2f ∨ path.head? = some 0x5c ∨ path.head? = some 0x3a ∨
      PathPolicy.hasDrivePrefix path = true
  cleanPath : ∀ path, qt.isAbsolutePath path = true →
    qt.cleanPath path = cleanRooted 0x2f 0x2e rootOf (qt.fromNativeSeparators path)
  absoluteFilePath : ∀ directory name, qt.isAbsolutePath directory = true →
    qt.isAbsolutePath name = false →
      qt.absoluteFilePath directory name = withSeparator 0x2f directory ++ name
  nativeSeparators : (∀ path, qt.fromNativeSeparators path = path) ∨
    ∀ path, qt.fromNativeSeparators path = path.map fun unit => if unit = 0x5c then 0x2f else unit

structure DocumentedUnicode (qt : QtText) : Prop where
  normalizedC_normalizedC : ∀ text, qt.normalizedC (qt.normalizedC text) = qt.normalizedC text
  normalizedC_nil : qt.normalizedC [] = []
  normalizedC_slash : ∀ left right,
    qt.normalizedC (left ++ 0x2f :: right) = qt.normalizedC left ++ 0x2f :: qt.normalizedC right
  backslash_of_normalizedC : ∀ text, 0x5c ∈ qt.normalizedC text → 0x5c ∈ text
  toCaseFolded_nil : qt.toCaseFolded [] = []
  toCaseFolded_slash : ∀ left right,
    qt.toCaseFolded (left ++ 0x2f :: right) = qt.toCaseFolded left ++ 0x2f :: qt.toCaseFolded right
  slash_not_control : qt.isOtherControl 0x2f = false

def posixRoot (path : QString) : QString :=
  if path.head? = some 0x2f then [0x2f] else []

def QtText.posix : QtText :=
  { QtText.ascii with
    cleanPath := fun path =>
      if path.head? = some 0x2f then cleanRooted 0x2f 0x2e posixRoot path else path
    absoluteFilePath := fun directory name =>
      if name.head? = some 0x2f then name else withSeparator 0x2f directory ++ name }

namespace PathPolicy

variable {qt : QtText} {rootOf : QString → QString}

theorem roots_posixRoot : Roots 0x2f posixRoot := by
  have hroot : ∀ path, posixRoot path ≠ [] → posixRoot path = [0x2f] := by
    intro path h
    unfold posixRoot at h ⊢
    split_ifs at h ⊢
    · rfl
    · exact absurd rfl h
  constructor
  · intro path
    unfold posixRoot
    split_ifs with hhead
    · obtain ⟨rest, rfl⟩ := List.head?_eq_some_iff.mp hhead
      exact ⟨rest, rfl⟩
    · exact List.nil_prefix
  · intro path
    unfold posixRoot
    split_ifs with hhead hnil hnil
    · rfl
    · exact absurd rfl hnil
    · exact absurd hnil nofun
    · rfl
  · intro path rest h _
    rw [hroot path h]
    rfl

theorem documentedPaths_posix : DocumentedPaths QtText.posix posixRoot := by
  have habsolute : ∀ path, QtText.posix.isAbsolutePath path = true ↔ path.head? = some 0x2f :=
    fun path => decide_eq_true_iff
  refine ⟨roots_posixRoot, ?_, ?_, ?_, ?_, .inl fun _ => rfl⟩
  · intro path
    rw [habsolute]
    change _ ↔ posixRoot path ≠ []
    unfold posixRoot
    split_ifs with hhead
    · exact iff_of_true hhead nofun
    · exact iff_of_false hhead (not_not_intro rfl)
  · exact fun path h => .inl ((habsolute path).mp h)
  · exact fun path h => if_pos ((habsolute path).mp h)
  · intro directory name _ hname
    apply if_neg
    intro hhead
    exact absurd (((habsolute name).mpr hhead).symm.trans hname) nofun

theorem documentedUnicode_posix : DocumentedUnicode QtText.posix where
  normalizedC_normalizedC _ := rfl
  normalizedC_nil := rfl
  normalizedC_slash _ _ := rfl
  backslash_of_normalizedC _ h := h
  toCaseFolded_nil := rfl
  toCaseFolded_slash _ _ := List.map_append
  slash_not_control := by decide

structure Accepted (qt : QtText) (limits : PathLimits) (path : QString) : Prop where
  unicode : hasInvalidUnicodeOrControl qt path = false
  separators : 0x5c ∉ path
  length : (qt.normalizedC path).toUtf8.length ≤ limits.maxUtf8Bytes.toNat
  depth : ((qt.normalizedC path).splitOn 0x2f).length ≤ limits.maxDepth.toNat
  components : ∀ component ∈ (qt.normalizedC path).splitOn 0x2f,
    validateComponent qt component limits = none

def accepted (qt : QtText) (path : QString) : PathValidationResult :=
  { ok := true, error := .none, normalized := qt.normalizedC path,
    collisionKey := collisionKeyForProtocolPath qt (qt.normalizedC path), diagnostic := "" }

variable {limits : PathLimits}

theorem validateRelative_of_ok {path : QString} (h : (validateRelative qt path limits).ok = true) :
    Accepted qt limits path ∧ validateRelative qt path limits = accepted qt path := by
  unfold validateRelative at h ⊢
  dsimp only at h ⊢
  cases hcomponents : ((qt.normalizedC path).splitOn 0x2f).findSome?
      fun component => validateComponent qt component limits with
  | none =>
    rw [hcomponents] at h
    split_ifs at h ⊢ with _ _ hseparator hunicode hlength hdepth <;>
      first
      | exact ⟨⟨Bool.not_eq_true _ |>.mp hunicode, hseparator, Nat.not_lt.mp hlength,
          Nat.not_lt.mp hdepth, List.findSome?_eq_none_iff.mp hcomponents⟩, rfl⟩
      | exact absurd h (by simp [fail])
  | some failure =>
    obtain ⟨component, -, hfailure⟩ := List.exists_of_findSome?_eq_some hcomponents
    have hrefused := validateComponent_ok hfailure
    rw [hcomponents] at h
    split_ifs at h <;> simp_all [fail]

theorem validateRelative_of_accepted {path : QString} (hne : path ≠ [])
    (hslash : path.head? ≠ some 0x2f) (habsolute : qt.isAbsolutePath path = false)
    (hdrive : hasDrivePrefix path = false) (h : Accepted qt limits path) :
    validateRelative qt path limits = accepted qt path := by
  have hcomponents : ((qt.normalizedC path).splitOn 0x2f).findSome?
      (fun component => validateComponent qt component limits) = none :=
    List.findSome?_eq_none_iff.mpr h.components
  have hstarts : ∀ text : String, (∃ rest, QString.literal text = 0x2f :: rest) →
      ¬ QString.literal text <+: path := by
    rintro text ⟨rest, htext⟩ ⟨behind, rfl⟩
    rw [htext] at hslash
    exact hslash rfl
  have hbackslash : ¬ QString.literal "\\\\" <+: path := by
    rintro ⟨behind, rfl⟩
    exact h.separators List.mem_cons_self
  unfold validateRelative
  dsimp only
  rw [if_neg hne, if_neg, if_neg h.separators, if_neg (Bool.not_eq_true _ |>.mpr h.unicode),
    if_neg (Nat.not_lt.mpr h.length), if_neg (Nat.not_lt.mpr h.depth), hcomponents]
  · rfl
  · rw [habsolute, hdrive]
    rintro (hstart | hstart | hstart | hstart | hstart)
    · exact hstarts "//" ⟨_, rfl⟩ hstart
    · exact hbackslash hstart
    · exact hstarts "/" ⟨_, rfl⟩ hstart
    · exact absurd hstart nofun
    · exact absurd hstart nofun

/-- What the checks on a component leave. -/
structure Portable (qt : QtText) (component : QString) : Prop where
  proper : Proper 0x2e component
  unicode : hasInvalidUnicodeOrControl qt component = false
  characters : ∀ character ∈ component, character ∉ QString.literal "<>:\"|?*"

theorem portable_of_validateComponent {component : QString}
    (h : validateComponent qt component limits = none) : Portable qt component := by
  unfold validateComponent at h
  split_ifs at h with hempty hdot hparent _ hunicode hcharacters
  refine ⟨⟨hempty, hdot, hparent⟩, Bool.not_eq_true _ |>.mp hunicode, ?_⟩
  intro character hmem hinvalid
  exact hcharacters (List.any_eq_true.mpr ⟨character, hmem, decide_eq_true hinvalid⟩)

theorem hasInvalidUnicodeOrControl_append (hslash : qt.isOtherControl 0x2f = false)
    {left right : QString} (hleft : hasInvalidUnicodeOrControl qt left = false)
    (hright : hasInvalidUnicodeOrControl qt right = false) :
    hasInvalidUnicodeOrControl qt (left ++ 0x2f :: right) = false := by
  have hnext : hasInvalidUnicodeOrControl qt (0x2f :: right) = false := by
    cases right with
    | nil =>
      rw [hasInvalidUnicodeOrControl, hslash]
      rfl
    | cons unit rest =>
      rw [hasInvalidUnicodeOrControl, hslash]
      exact hright
  have hskip : ∀ unit rest, QString.isHighSurrogate unit = false →
      QString.isLowSurrogate unit = false → qt.isOtherControl unit = false →
        hasInvalidUnicodeOrControl qt (unit :: rest) = hasInvalidUnicodeOrControl qt rest := by
    intro unit rest hhigh hlow hcontrol
    cases rest with
    | nil =>
      have hnil : hasInvalidUnicodeOrControl qt [] = false := rfl
      rw [hnil, hasInvalidUnicodeOrControl, hhigh, hlow, hcontrol]
      rfl
    | cons next rest =>
      rw [hasInvalidUnicodeOrControl, hhigh, hlow, hcontrol]
      rfl
  induction left using hasInvalidUnicodeOrControl.induct qt with
  | case1 => exact hnext
  | case2 unit =>
    rw [hasInvalidUnicodeOrControl, Bool.or_eq_false_iff, Bool.or_eq_false_iff] at hleft
    exact (hskip unit (0x2f :: right) hleft.1.1 hleft.1.2 hleft.2).trans hnext
  | case3 unit next rest hhigh hlow ih =>
    rw [hasInvalidUnicodeOrControl, if_pos hhigh, if_pos hlow] at hleft
    rw [List.cons_append, List.cons_append, hasInvalidUnicodeOrControl, if_pos hhigh, if_pos hlow]
    exact ih hleft
  | case4 unit next rest hhigh hlow =>
    rw [hasInvalidUnicodeOrControl, if_pos hhigh, if_neg hlow] at hleft
    exact absurd hleft nofun
  | case5 unit next rest hhigh hrefused =>
    rw [hasInvalidUnicodeOrControl, if_neg hhigh, if_pos hrefused] at hleft
    exact absurd hleft nofun
  | case6 unit next rest hhigh hrefused ih =>
    rw [hasInvalidUnicodeOrControl, if_neg hhigh, if_neg hrefused] at hleft
    rw [Bool.not_eq_true, Bool.or_eq_false_iff] at hrefused
    rw [List.cons_append, hskip unit _ (Bool.not_eq_true _ |>.mp hhigh) hrefused.1 hrefused.2]
    exact ih hleft

theorem hasInvalidUnicodeOrControl_intercalate (hslash : qt.isOtherControl 0x2f = false)
    {components : List QString}
    (h : ∀ component ∈ components, hasInvalidUnicodeOrControl qt component = false) :
    hasInvalidUnicodeOrControl qt ([0x2f].intercalate components) = false := by
  induction components with
  | nil => rfl
  | cons component rest ih =>
    have hrest := ih fun other hother => h other (List.mem_cons_of_mem _ hother)
    cases rest with
    | nil =>
      rw [List.intercalate_singleton]
      exact h component List.mem_cons_self
    | cons next rest =>
      rw [List.intercalate_cons_cons, List.append_assoc]
      exact hasInvalidUnicodeOrControl_append hslash (h component List.mem_cons_self) hrest

namespace Accepted

variable {limits : PathLimits} {path : QString}

theorem portable (h : Accepted qt limits path) :
    ∀ component ∈ (qt.normalizedC path).splitOn 0x2f, Portable qt component :=
  fun component hmem => portable_of_validateComponent (h.components component hmem)

theorem descends (h : Accepted qt limits path) : Descends 0x2f 0x2e (qt.normalizedC path) :=
  fun component hmem => (h.portable component hmem).proper

theorem not_mem_normalizedC (h : Accepted qt limits path) {unit : UInt16}
    (hunit : unit ∈ QString.literal "<>:\"|?*") : unit ∉ qt.normalizedC path := by
  intro hmem
  obtain rfl | ⟨component, hcomponent, hmem⟩ := @exists_segment_of_mem _ _ 0x2f _ _ hmem
  · exact absurd hunit (by decide)
  · exact (h.portable component hcomponent).characters unit hmem hunit

theorem backslash_not_mem (hunicode : DocumentedUnicode qt) (h : Accepted qt limits path) :
    0x5c ∉ qt.normalizedC path :=
  fun hmem => h.separators (hunicode.backslash_of_normalizedC path hmem)

theorem hasDrivePrefix_normalizedC (h : Accepted qt limits path) :
    hasDrivePrefix (qt.normalizedC path) = false := by
  have hcolon : (0x3a : UInt16) ∉ qt.normalizedC path := h.not_mem_normalizedC (by decide)
  generalize qt.normalizedC path = normalized at hcolon
  unfold hasDrivePrefix
  split
  · exact absurd (List.mem_cons_of_mem _ List.mem_cons_self) hcolon
  · rfl

theorem isAbsolutePath_normalizedC (hpaths : DocumentedPaths qt rootOf)
    (hunicode : DocumentedUnicode qt) (h : Accepted qt limits path) :
    qt.isAbsolutePath (qt.normalizedC path) = false := by
  rw [← Bool.not_eq_true]
  intro habsolute
  obtain hhead | hhead | hhead | hdrive := hpaths.absoluteStart _ habsolute
  · exact h.descends.head?_ne hhead
  · exact h.backslash_not_mem hunicode (List.mem_of_head? hhead)
  · exact h.not_mem_normalizedC (by decide) (List.mem_of_head? hhead)
  · exact absurd (hdrive.symm.trans h.hasDrivePrefix_normalizedC) nofun

theorem normalizedC (hunicode : DocumentedUnicode qt) (h : Accepted qt limits path) :
    Accepted qt limits (qt.normalizedC path) := by
  have hself := hunicode.normalizedC_normalizedC path
  refine ⟨?_, h.backslash_not_mem hunicode, ?_, ?_, ?_⟩
  · have hjoined : List.intercalate [0x2f] ((qt.normalizedC path).splitOn 0x2f) =
        qt.normalizedC path := List.intercalate_splitOn 0x2f
    rw [← hjoined]
    exact hasInvalidUnicodeOrControl_intercalate hunicode.slash_not_control
      fun component hmem => (h.portable component hmem).unicode
  · rw [hself]
    exact h.length
  · rw [hself]
    exact h.depth
  · rw [hself]
    exact h.components

theorem validateRelative_normalizedC (hpaths : DocumentedPaths qt rootOf)
    (hunicode : DocumentedUnicode qt) (h : Accepted qt limits path) :
    validateRelative qt (qt.normalizedC path) limits = accepted qt path := by
  rw [validateRelative_of_accepted h.descends.ne_nil h.descends.head?_ne
    (h.isAbsolutePath_normalizedC hpaths hunicode) h.hasDrivePrefix_normalizedC
    (h.normalizedC hunicode)]
  unfold accepted
  rw [hunicode.normalizedC_normalizedC]

end Accepted

section Join

variable {root : QString}

theorem fromNativeSeparators_of_mem (hpaths : DocumentedPaths qt rootOf) {path text : QString}
    (h : ∀ unit ∈ text, unit ∈ qt.fromNativeSeparators path ∨ unit ≠ 0x5c) :
    qt.fromNativeSeparators text = text := by
  obtain hsame | hslashes := hpaths.nativeSeparators
  · exact hsame text
  · rw [hslashes]
    refine (List.map_congr_left fun unit hmem => ?_).trans (List.map_id text)
    have hne : unit ≠ 0x5c := by
      obtain hunit | hne := h unit hmem
      · rw [hslashes] at hunit
        obtain ⟨original, -, rfl⟩ := List.mem_map.mp hunit
        split_ifs with horiginal
        · decide
        · exact horiginal
      · exact hne
    exact if_neg hne

theorem mem_cleanPath (hpaths : DocumentedPaths qt rootOf)
    (hroot : qt.isAbsolutePath root = true) :
    ∀ unit ∈ qt.cleanPath root, unit ∈ qt.fromNativeSeparators root ∨ unit ≠ 0x5c := by
  intro unit hmem
  rw [hpaths.cleanPath root hroot] at hmem
  obtain rfl | hmem := mem_of_mem_cleanRooted hpaths.roots hmem
  · exact .inr (by decide)
  · exact .inl hmem

theorem fromNativeSeparators_cleanPath (hpaths : DocumentedPaths qt rootOf)
    (hroot : qt.isAbsolutePath root = true) :
    qt.fromNativeSeparators (qt.cleanPath root) = qt.cleanPath root :=
  fromNativeSeparators_of_mem hpaths (mem_cleanPath hpaths hroot)

theorem rootOf_cleanPath (hpaths : DocumentedPaths qt rootOf)
    (hroot : qt.isAbsolutePath root = true) :
    rootOf (qt.cleanPath root) = rootOf (qt.fromNativeSeparators root) := by
  rw [hpaths.cleanPath root hroot]
  exact rootOf_cleanRooted hpaths.roots ((hpaths.absolute root).mp hroot)

theorem isAbsolutePath_cleanPath (hpaths : DocumentedPaths qt rootOf)
    (hroot : qt.isAbsolutePath root = true) : qt.isAbsolutePath (qt.cleanPath root) = true := by
  rw [hpaths.absolute, fromNativeSeparators_cleanPath hpaths hroot, rootOf_cleanPath hpaths hroot]
  exact (hpaths.absolute root).mp hroot

theorem cleanPath_cleanPath (hpaths : DocumentedPaths qt rootOf)
    (hroot : qt.isAbsolutePath root = true) :
    qt.cleanPath (qt.cleanPath root) = qt.cleanPath root := by
  rw [hpaths.cleanPath _ (isAbsolutePath_cleanPath hpaths hroot),
    fromNativeSeparators_cleanPath hpaths hroot, hpaths.cleanPath root hroot]
  exact cleanRooted_cleanRooted hpaths.roots ((hpaths.absolute root).mp hroot)

variable {relative : QString}

/-- The path that names `relative` from the clean root. -/
def under (qt : QtText) (root relative : QString) : QString :=
  withSeparator 0x2f (qt.cleanPath root) ++ relative

theorem fromNativeSeparators_under (hpaths : DocumentedPaths qt rootOf)
    (hroot : qt.isAbsolutePath root = true) (hbackslash : 0x5c ∉ relative) :
    qt.fromNativeSeparators (under qt root relative) = under qt root relative := by
  apply fromNativeSeparators_of_mem hpaths
  intro unit hmem
  obtain hmem | hmem := List.mem_append.mp hmem
  · obtain rfl | hmem := mem_of_mem_withSeparator hmem
    · exact .inr (by decide)
    · exact mem_cleanPath hpaths hroot unit hmem
  · exact .inr fun heq => hbackslash (heq ▸ hmem)

theorem rootOf_under (hpaths : DocumentedPaths qt rootOf)
    (hroot : qt.isAbsolutePath root = true) (hdescends : Descends 0x2f 0x2e relative) :
    ∃ rest, Descends 0x2f 0x2e rest ∧ under qt root relative =
      withSeparator 0x2f (rootOf (qt.fromNativeSeparators root)) ++ rest := by
  unfold under
  rw [hpaths.cleanPath root hroot]
  obtain hclean | ⟨rest, hrest, hclean⟩ :=
    @cleanRooted_cases _ _ 0x2f 0x2e rootOf (qt.fromNativeSeparators root)
  · exact ⟨relative, hdescends, by rw [hclean]⟩
  · refine ⟨rest ++ 0x2f :: relative, hrest.append hdescends, ?_⟩
    rw [hclean, hrest.withSeparator_eq, List.append_assoc, List.append_assoc]
    rfl

theorem cleanPath_under (hpaths : DocumentedPaths qt rootOf)
    (hroot : qt.isAbsolutePath root = true) (hdescends : Descends 0x2f 0x2e relative)
    (hbackslash : 0x5c ∉ relative) :
    qt.cleanPath (under qt root relative) = under qt root relative := by
  have hnonempty := (hpaths.absolute root).mp hroot
  have hnative := fromNativeSeparators_under hpaths hroot hbackslash
  obtain ⟨rest, hrest, hunder⟩ := rootOf_under hpaths hroot hdescends
  have habsolute : qt.isAbsolutePath (under qt root relative) = true := by
    rw [hpaths.absolute, hnative, hunder, hpaths.roots.append _ rest hnonempty hrest.head?_ne]
    exact hnonempty
  rw [hpaths.cleanPath _ habsolute, hnative, hunder]
  exact cleanRooted_of_descends hpaths.roots hnonempty hrest

theorem collisionKey_slash (hunicode : DocumentedUnicode qt) (left right : QString) :
    collisionKeyForProtocolPath qt (left ++ 0x2f :: right) =
      collisionKeyForProtocolPath qt left ++ 0x2f :: collisionKeyForProtocolPath qt right := by
  unfold collisionKeyForProtocolPath
  rw [hunicode.toCaseFolded_slash, hunicode.normalizedC_slash]

theorem collisionKey_nil (hunicode : DocumentedUnicode qt) :
    collisionKeyForProtocolPath qt [] = [] := by
  unfold collisionKeyForProtocolPath
  rw [hunicode.toCaseFolded_nil, hunicode.normalizedC_nil]

theorem collisionKey_withSeparator (hunicode : DocumentedUnicode qt) (directory path : QString) :
    (if (collisionKeyForProtocolPath qt directory).getLast? = some 0x2f then
        collisionKeyForProtocolPath qt directory
      else collisionKeyForProtocolPath qt directory ++ [0x2f]) <+:
      collisionKeyForProtocolPath qt (withSeparator 0x2f directory ++ path) := by
  by_cases hlast : directory.getLast? = some 0x2f
  · obtain ⟨front, rfl⟩ := List.getLast?_eq_some_iff.mp hlast
    have hkey : collisionKeyForProtocolPath qt (front ++ [0x2f]) =
        collisionKeyForProtocolPath qt front ++ [0x2f] := by
      rw [collisionKey_slash hunicode, collisionKey_nil hunicode]
    unfold withSeparator
    rw [if_pos hlast, hkey, if_pos List.getLast?_concat, List.append_assoc]
    change _ <+: collisionKeyForProtocolPath qt (front ++ 0x2f :: path)
    rw [collisionKey_slash hunicode]
    exact ⟨_, List.append_assoc ..⟩
  · unfold withSeparator
    rw [if_neg hlast, List.append_assoc]
    change _ <+: collisionKeyForProtocolPath qt (directory ++ 0x2f :: path)
    rw [collisionKey_slash hunicode]
    split_ifs
    · exact List.prefix_append ..
    · exact ⟨_, List.append_assoc ..⟩

theorem joinLexicallyUnderRoot_of_accepted {path : QString} (hpaths : DocumentedPaths qt rootOf)
    (hunicode : DocumentedUnicode qt) (hroot : qt.isAbsolutePath root = true)
    (hpath : (validateRelative qt path limits).ok = true) :
    joinLexicallyUnderRoot qt root path limits =
      (accepted qt path, under qt root (qt.normalizedC path)) := by
  obtain ⟨haccepted, hvalidated⟩ := validateRelative_of_ok hpath
  have hbackslash := haccepted.backslash_not_mem hunicode
  have hcandidate := cleanPath_under hpaths hroot haccepted.descends hbackslash
  have hnative := @fromNativeSeparators_under _ _ root _ hpaths hroot hbackslash
  have hjoined : qt.absoluteFilePath (qt.cleanPath root) (accepted qt path).normalized =
      under qt root (qt.normalizedC path) :=
    hpaths.absoluteFilePath _ _ (isAbsolutePath_cleanPath hpaths hroot)
      (haccepted.isAbsolutePath_normalizedC hpaths hunicode)
  unfold joinLexicallyUnderRoot
  dsimp only
  rw [if_neg (not_not_intro hroot), if_neg (not_not_intro hpath), hvalidated, hjoined, hcandidate]
  -- the comparison finds the folded root, with its separator, at the start
  apply if_neg
  rintro ⟨-, houtside⟩
  apply houtside
  unfold comparableLocalPath
  rw [cleanPath_cleanPath hpaths hroot, fromNativeSeparators_cleanPath hpaths hroot, hcandidate,
    hnative]
  exact collisionKey_withSeparator hunicode _ _

theorem joinLexicallyUnderRoot_of_ok {path : QString} (hpaths : DocumentedPaths qt rootOf)
    (hunicode : DocumentedUnicode qt) (h : (joinLexicallyUnderRoot qt root path limits).1.ok = true) :
    Accepted qt limits path ∧ joinLexicallyUnderRoot qt root path limits =
      (accepted qt path, under qt root (qt.normalizedC path)) := by
  have hchecks : qt.isAbsolutePath root = true ∧ (validateRelative qt path limits).ok = true := by
    unfold joinLexicallyUnderRoot at h
    dsimp only at h
    by_cases hroot : qt.isAbsolutePath root = true
    · rw [if_neg (not_not_intro hroot)] at h
      by_cases hpath : (validateRelative qt path limits).ok = true
      · exact ⟨hroot, hpath⟩
      · rw [if_pos hpath] at h
        exact absurd h hpath
    · rw [if_pos hroot] at h
      exact absurd h nofun
  exact ⟨(validateRelative_of_ok hchecks.2).1,
    joinLexicallyUnderRoot_of_accepted hpaths hunicode hchecks.1 hchecks.2⟩

/-- Joining an accepted path under an absolute root gives the clean root, a slash where it has none
at its end, and the normalized path. All that stands behind the platform's root goes down from it,
the joined path is clean, and the normalized path is accepted as it is. -/
theorem joinLexicallyUnderRoot_contained {path : QString} {limits : PathLimits}
    (hpaths : DocumentedPaths qt rootOf) (hunicode : DocumentedUnicode qt)
    (hroot : qt.isAbsolutePath root = true)
    (hpath : (validateRelative qt path limits).ok = true) :
    let validated := validateRelative qt path limits
    let candidate := withSeparator 0x2f (qt.cleanPath root) ++ validated.normalized
    joinLexicallyUnderRoot qt root path limits = (validated, candidate) ∧
      validated.error = .none ∧ validated.normalized ≠ [] ∧
      Descends 0x2f 0x2e validated.normalized ∧
      (∃ rest, Descends 0x2f 0x2e rest ∧
        candidate = withSeparator 0x2f (rootOf (qt.fromNativeSeparators root)) ++ rest) ∧
      qt.cleanPath candidate = candidate ∧
      validateRelative qt validated.normalized limits = validated := by
  intro validated candidate
  obtain ⟨haccepted, hvalidated⟩ : Accepted qt limits path ∧ validated = accepted qt path :=
    validateRelative_of_ok hpath
  have hcandidate : candidate = under qt root (qt.normalizedC path) := by
    change withSeparator 0x2f (qt.cleanPath root) ++ validated.normalized = _
    rw [hvalidated]
    rfl
  rw [hcandidate, hvalidated]
  refine ⟨joinLexicallyUnderRoot_of_accepted hpaths hunicode hroot hpath, rfl,
    haccepted.descends.ne_nil, haccepted.descends, rootOf_under hpaths hroot haccepted.descends,
    cleanPath_under hpaths hroot haccepted.descends (haccepted.backslash_not_mem hunicode), ?_⟩
  exact haccepted.validateRelative_normalizedC hpaths hunicode

theorem joinLexicallyUnderRoot_contained_home :
    let root := QString.literal "/home/./user//inbox"
    let path := QString.literal "docs/Report.txt"
    joinLexicallyUnderRoot QtText.posix root path =
        (validateRelative QtText.posix path,
          QString.literal "/home/user/inbox/" ++ (validateRelative QtText.posix path).normalized) := by
  have hroot : QtText.posix.isAbsolutePath (QString.literal "/home/./user//inbox") = true := by
    decide
  have hpath : (validateRelative QtText.posix (QString.literal "docs/Report.txt") {}).ok = true := by
    decide
  exact (joinLexicallyUnderRoot_contained documentedPaths_posix documentedUnicode_posix hroot
    hpath).1

/-- Under the root directory itself the slash is there already. -/
theorem joinLexicallyUnderRoot_root_directory :
    ¬ ∀ (qt : QtText) (rootOf : QString → QString) (root path : QString) (limits : PathLimits),
      DocumentedPaths qt rootOf → DocumentedUnicode qt → qt.isAbsolutePath root = true →
        (validateRelative qt path limits).ok = true →
          (joinLexicallyUnderRoot qt root path limits).2 =
            qt.cleanPath root ++ 0x2f :: (validateRelative qt path limits).normalized := by
  intro h
  have hjoined := h QtText.posix posixRoot (QString.literal "/") (QString.literal "a") {}
    documentedPaths_posix documentedUnicode_posix (by decide) (by decide)
  exact absurd hjoined (by decide)

end Join

end PathPolicy

end DeskflowPlus.Transfer
