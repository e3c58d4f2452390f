import Mathlib.Tactic.SplitIfs

/-!
# Lexical path segments

An absolute path is a root and, behind it, segments with separators between them. Cleaning the path
resolves the segments from left to right: an empty segment and a single dot stay where they are, two
dots go up one directory and stay at the root once there, and any other segment goes down.
-/

namespace PathSegments

variable {α : Type*} [DecidableEq α]

section Definitions

variable (separator dot : α)

/-- The directories above, innermost first, after one more segment. -/
def enter (above : List (List α)) (segment : List α) : List (List α) :=
  if segment = [] ∨ segment = [dot] then above
  else if segment = [dot, dot] then above.tail
  else segment :: above

def resolve (segments : List (List α)) : List (List α) :=
  (segments.foldl (enter dot) []).reverse

/-- The resolved form of a path behind its root. -/
def clean (path : List α) : List α :=
  [separator].intercalate (resolve dot (path.splitOn separator))

/-- A directory with a separator behind it, so that a relative path can follow. -/
def withSeparator (directory : List α) : List α :=
  if directory.getLast? = some separator then directory else directory ++ [separator]

/-- The path behind the root; the root alone is not given a separator. -/
def rooted (root path : List α) : List α :=
  if path = [] then root else withSeparator separator root ++ path

def cleanRooted (rootOf : List α → List α) (path : List α) : List α :=
  rooted separator (rootOf path) (clean separator dot (path.drop (rootOf path).length))

/-- A segment that goes down one directory. -/
def Proper (segment : List α) : Prop :=
  segment ≠ [] ∧ segment ≠ [dot] ∧ segment ≠ [dot, dot]

/-- Every segment of the path goes down. -/
def Descends (path : List α) : Prop :=
  ∀ segment ∈ path.splitOn separator, Proper dot segment

structure Roots (rootOf : List α → List α) : Prop where
  starts : ∀ path, rootOf path <+: path
  self : ∀ path, rootOf (rootOf path) = rootOf path
  append : ∀ path rest, rootOf path ≠ [] → rest.head? ≠ some separator →
    rootOf (withSeparator separator (rootOf path) ++ rest) = rootOf path

end Definitions

variable {separator dot : α}

variable {segment : List α}

theorem enter_of_proper (h : Proper dot segment) (above : List (List α)) :
    enter dot above segment = segment :: above := by
  unfold enter
  rw [if_neg (not_or.mpr ⟨h.1, h.2.1⟩), if_neg h.2.2]

variable {segments : List (List α)}

theorem foldl_enter_of_proper (h : ∀ segment ∈ segments, Proper dot segment) (above : List (List α)) :
    segments.foldl (enter dot) above = segments.reverse ++ above := by
  induction segments generalizing above with
  | nil => rfl
  | cons segment rest ih =>
    have hrest : ∀ other ∈ rest, Proper dot other :=
      fun other hother => h other (List.mem_cons_of_mem _ hother)
    rw [List.foldl_cons, enter_of_proper (h segment List.mem_cons_self), ih hrest,
      List.reverse_cons, List.append_assoc]
    rfl

theorem resolve_of_proper (h : ∀ segment ∈ segments, Proper dot segment) :
    resolve dot segments = segments := by
  unfold resolve
  rw [foldl_enter_of_proper h, List.append_nil, List.reverse_reverse]

/-- One more segment leaves only directories that were there or that it names. -/
theorem proper_of_mem_enter {above : List (List α)} {next : List α}
    (habove : ∀ segment ∈ above, Proper dot segment) (h : segment ∈ enter dot above next) :
    Proper dot segment ∧ (segment = next ∨ segment ∈ above) := by
  unfold enter at h
  split_ifs at h with hstay hback
  · exact ⟨habove segment h, .inr h⟩
  · exact ⟨habove segment (List.mem_of_mem_tail h), .inr (List.mem_of_mem_tail h)⟩
  · obtain rfl | hmem := List.mem_cons.mp h
    · exact ⟨⟨fun h => hstay (.inl h), fun h => hstay (.inr h), hback⟩, .inl rfl⟩
    · exact ⟨habove segment hmem, .inr hmem⟩

theorem proper_of_mem_foldl_enter {above : List (List α)}
    (habove : ∀ segment ∈ above, Proper dot segment)
    (h : segment ∈ segments.foldl (enter dot) above) :
    Proper dot segment ∧ (segment ∈ segments ∨ segment ∈ above) := by
  induction segments generalizing above with
  | nil => exact ⟨habove segment h, .inr h⟩
  | cons next rest ih =>
    obtain ⟨hproper, hmem⟩ := ih (fun _ hother => (proper_of_mem_enter habove hother).1) h
    obtain hrest | hentered := hmem
    · exact ⟨hproper, .inl (List.mem_cons_of_mem _ hrest)⟩
    · obtain rfl | hmem := (proper_of_mem_enter habove hentered).2
      · exact ⟨hproper, .inl List.mem_cons_self⟩
      · exact ⟨hproper, .inr hmem⟩

theorem proper_of_mem_resolve (h : segment ∈ resolve dot segments) :
    Proper dot segment ∧ segment ∈ segments := by
  have hnone : ∀ segment ∈ ([] : List (List α)), Proper dot segment :=
    fun _ hmem => absurd hmem List.not_mem_nil
  obtain ⟨hproper, hmem⟩ := proper_of_mem_foldl_enter hnone (List.mem_reverse.mp h)
  exact ⟨hproper, hmem.resolve_right List.not_mem_nil⟩

variable {path : List α}

theorem separator_not_mem_of_mem_splitOn (h : segment ∈ path.splitOn separator) :
    separator ∉ segment := by
  induction path generalizing segment with
  | nil =>
    rw [List.splitOn_nil, List.mem_singleton] at h
    rw [h]
    exact List.not_mem_nil
  | cons first rest ih =>
    rw [List.splitOn_cons_eq_if_modifyHead] at h
    split_ifs at h with hfirst
    · obtain rfl | hmem := List.mem_cons.mp h
      · exact List.not_mem_nil
      · exact ih hmem
    · obtain ⟨head, tail, hsplit⟩ :=
        List.exists_cons_of_ne_nil (List.splitOn_ne_nil separator rest)
      rw [hsplit] at h ih
      obtain rfl | hmem := List.mem_cons.mp h
      · intro hseparator
        obtain heq | hhead := List.mem_cons.mp hseparator
        · exact hfirst (beq_iff_eq.mpr heq.symm)
        · exact ih List.mem_cons_self hhead
      · exact ih (List.mem_cons_of_mem _ hmem)

variable {element : α}

omit [DecidableEq α] in
theorem mem_of_mem_intercalate (h : element ∈ [separator].intercalate segments) :
    element = separator ∨ ∃ segment ∈ segments, element ∈ segment := by
  induction segments with
  | nil => exact absurd h List.not_mem_nil
  | cons segment rest ih =>
    cases rest with
    | nil =>
      rw [List.intercalate_singleton] at h
      exact .inr ⟨segment, List.mem_cons_self, h⟩
    | cons next rest =>
      rw [List.intercalate_cons_cons, List.mem_append, List.mem_append, List.mem_singleton] at h
      obtain (hmem | rfl) | hmem := h
      · exact .inr ⟨segment, List.mem_cons_self, hmem⟩
      · exact .inl rfl
      · obtain rfl | ⟨other, hother, hmem⟩ := ih hmem
        · exact .inl rfl
        · exact .inr ⟨other, List.mem_cons_of_mem _ hother, hmem⟩

theorem mem_of_mem_splitOn (hsegment : segment ∈ path.splitOn separator) (h : element ∈ segment) :
    element ∈ path := by
  have hjoined : [separator].intercalate (path.splitOn separator) = path :=
    List.intercalate_splitOn separator
  rw [← hjoined]
  generalize path.splitOn separator = segments at hsegment
  induction segments with
  | nil => exact absurd hsegment List.not_mem_nil
  | cons first rest ih =>
    cases rest with
    | nil =>
      rw [List.intercalate_singleton]
      exact List.mem_singleton.mp hsegment ▸ h
    | cons next rest =>
      rw [List.intercalate_cons_cons, List.mem_append, List.mem_append]
      obtain rfl | hmem := List.mem_cons.mp hsegment
      · exact .inl (.inl h)
      · exact .inr (ih hmem)

theorem exists_segment_of_mem (h : element ∈ path) :
    element = separator ∨ ∃ segment ∈ path.splitOn separator, element ∈ segment := by
  have hjoined : [separator].intercalate (path.splitOn separator) = path :=
    List.intercalate_splitOn separator
  rw [← hjoined] at h
  exact mem_of_mem_intercalate h

namespace Descends

variable {path front : List α}

theorem ne_nil (h : Descends separator dot path) : path ≠ [] := by
  rintro rfl
  exact (h [] (List.mem_singleton.mpr rfl)).1 rfl

theorem head?_ne (h : Descends separator dot path) : path.head? ≠ some separator := by
  intro hhead
  obtain ⟨rest, rfl⟩ := List.head?_eq_some_iff.mp hhead
  have hsplit : ([] ++ separator :: rest).splitOn separator = [[]] ++ rest.splitOn separator :=
    List.splitOn_append_cons_self [] rest
  rw [List.nil_append] at hsplit
  have hempty : [] ∈ (separator :: rest).splitOn separator := by
    rw [hsplit]
    exact List.mem_cons_self
  exact (h [] hempty).1 rfl

theorem getLast?_ne (h : Descends separator dot path) : path.getLast? ≠ some separator := by
  intro hlast
  obtain ⟨rest, rfl⟩ := List.getLast?_eq_some_iff.mp hlast
  have hempty : [] ∈ (rest ++ [separator]).splitOn separator := by
    rw [List.splitOn_append_cons_self rest []]
    exact List.mem_append_right _ List.mem_cons_self
  exact (h [] hempty).1 rfl

theorem append (hfront : Descends separator dot front) (h : Descends separator dot path) :
    Descends separator dot (front ++ separator :: path) := by
  intro segment hmem
  rw [List.splitOn_append_cons_self, List.mem_append] at hmem
  obtain hmem | hmem := hmem
  · exact hfront segment hmem
  · exact h segment hmem

theorem clean_eq (h : Descends separator dot path) : clean separator dot path = path := by
  unfold clean
  rw [resolve_of_proper h, List.intercalate_splitOn]

theorem withSeparator_eq (h : Descends separator dot path) (directory : List α) :
    withSeparator separator (directory ++ path) = directory ++ path ++ [separator] := by
  unfold withSeparator
  have hlast := List.getLast?_eq_some_getLast h.ne_nil
  have hne := h.getLast?_ne
  rw [hlast] at hne
  rw [List.getLast?_append, hlast, Option.some_or, if_neg hne]

end Descends

theorem clean_cons_separator (path : List α) :
    clean separator dot (separator :: path) = clean separator dot path := by
  have hsplit : ([] ++ separator :: path).splitOn separator = [[]] ++ path.splitOn separator :=
    List.splitOn_append_cons_self [] path
  unfold clean resolve
  rw [List.nil_append] at hsplit
  rw [hsplit, List.foldl_append]
  rfl

theorem descends_clean (h : clean separator dot path ≠ []) :
    Descends separator dot (clean separator dot path) := by
  have hresolved : resolve dot (path.splitOn separator) ≠ [] := by
    intro hnil
    unfold clean at h
    rw [hnil] at h
    exact h rfl
  intro segment hmem
  unfold clean at hmem
  rw [List.splitOn_intercalate separator
    (fun _ hmem => separator_not_mem_of_mem_splitOn (proper_of_mem_resolve hmem).2) hresolved]
    at hmem
  exact (proper_of_mem_resolve hmem).1

theorem mem_of_mem_clean (h : element ∈ clean separator dot path) :
    element = separator ∨ element ∈ path := by
  obtain rfl | ⟨segment, hsegment, hmem⟩ := mem_of_mem_intercalate h
  · exact .inl rfl
  · exact .inr (mem_of_mem_splitOn (proper_of_mem_resolve hsegment).2 hmem)

theorem getLast?_withSeparator (directory : List α) :
    (withSeparator separator directory).getLast? = some separator := by
  unfold withSeparator
  split_ifs with h
  · exact h
  · exact List.getLast?_concat

theorem withSeparator_eq_append (directory : List α) :
    ∃ front, withSeparator separator directory = front ++ [separator] :=
  List.getLast?_eq_some_iff.mp (getLast?_withSeparator directory)

section Rooted

variable {rootOf : List α → List α}

theorem clean_drop_root (root path : List α) :
    clean separator dot ((withSeparator separator root ++ path).drop root.length) =
      clean separator dot path := by
  unfold withSeparator
  split_ifs
  · rw [List.drop_left]
  · rw [List.append_assoc, List.drop_left]
    exact clean_cons_separator path

theorem cleanRooted_of_descends (hroots : Roots separator rootOf) {start : List α}
    (hroot : rootOf start ≠ []) (h : Descends separator dot path) :
    cleanRooted separator dot rootOf (withSeparator separator (rootOf start) ++ path) =
      withSeparator separator (rootOf start) ++ path := by
  unfold cleanRooted rooted
  rw [hroots.append start path hroot h.head?_ne, clean_drop_root, h.clean_eq, if_neg h.ne_nil]

theorem cleanRooted_cases (rootOf : List α → List α) (path : List α) :
    cleanRooted separator dot rootOf path = rootOf path ∨
      ∃ rest, Descends separator dot rest ∧
        cleanRooted separator dot rootOf path = withSeparator separator (rootOf path) ++ rest := by
  unfold cleanRooted rooted
  split_ifs with hnil
  · exact .inl rfl
  · exact .inr ⟨_, descends_clean hnil, rfl⟩

theorem mem_of_mem_withSeparator {directory : List α}
    (h : element ∈ withSeparator separator directory) :
    element = separator ∨ element ∈ directory := by
  unfold withSeparator at h
  split_ifs at h
  · exact .inr h
  · rw [List.mem_append, List.mem_singleton] at h
    exact h.symm

theorem mem_of_mem_cleanRooted (hroots : Roots separator rootOf)
    (h : element ∈ cleanRooted separator dot rootOf path) :
    element = separator ∨ element ∈ path := by
  have hroot : ∀ element ∈ rootOf path, element ∈ path := (hroots.starts path).subset
  unfold cleanRooted rooted at h
  split_ifs at h
  · exact .inr (hroot element h)
  · obtain h | h := List.mem_append.mp h
    · exact (mem_of_mem_withSeparator h).imp_right (hroot element)
    · exact (mem_of_mem_clean h).imp_right List.mem_of_mem_drop

theorem rootOf_cleanRooted (hroots : Roots separator rootOf) {start : List α}
    (hroot : rootOf start ≠ []) :
    rootOf (cleanRooted separator dot rootOf start) = rootOf start := by
  obtain hclean | ⟨rest, hrest, hclean⟩ :=
    @cleanRooted_cases _ _ separator dot rootOf start
  · rw [hclean, hroots.self]
  · rw [hclean]
    exact hroots.append start rest hroot hrest.head?_ne

theorem cleanRooted_cleanRooted (hroots : Roots separator rootOf) {start : List α}
    (hroot : rootOf start ≠ []) :
    cleanRooted separator dot rootOf (cleanRooted separator dot rootOf start) =
      cleanRooted separator dot rootOf start := by
  obtain hclean | ⟨rest, hrest, hclean⟩ :=
    @cleanRooted_cases _ _ separator dot rootOf start
  · rw [hclean]
    unfold cleanRooted
    rw [hroots.self, List.drop_length]
    rfl
  · rw [hclean]
    exact cleanRooted_of_descends hroots hroot hrest

end Rooted

end PathSegments
