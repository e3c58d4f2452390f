import DeskflowPlus.Transfer.ManifestPageCodec
import Mathlib.Data.List.Nodup

/-!
# Entries in canonical order

Entries that are valid one by one, sorted by path, and without a path or an identifier twice. Both
ends build such a list entry by entry: each compares a new entry with the last one, by path first,
and looks its collision key up among those seen.
-/

namespace DeskflowPlus.Transfer.ManifestPageCodec

open Checks

variable {qt : QtText} {pathLimits : PathLimits}

/-- The path of the first comes before the path of the second. -/
def PathLess (left right : ManifestEntry) : Prop :=
  left.relativeProtocolPath.toUtf8 < right.relativeProtocolPath.toUtf8

theorem PathLess.trans {first second third : ManifestEntry} (hfirst : PathLess first second)
    (hsecond : PathLess second third) : PathLess first third :=
  @List.lt_trans _ _ ⟨fun h h' => UInt8.lt_trans h h'⟩ _ _ _ hfirst hsecond

theorem PathLess.ne {left right : ManifestEntry} (h : PathLess left right) :
    left.relativeProtocolPath.toUtf8 ≠ right.relativeProtocolPath.toUtf8 := by
  intro heq
  rw [PathLess, heq] at h
  exact @List.lt_irrefl _ _ ⟨fun _ => UInt8.lt_irrefl _⟩ _ h

theorem PathLess.entryLess {left right : ManifestEntry} (h : PathLess left right) :
    entryLess left right = true := by
  unfold ManifestPageCodec.entryLess
  dsimp only
  rw [if_pos h.ne]
  exact decide_eq_true h

theorem isWellFormed_of_hasInvalidUnicodeOrControl {path : QString}
    (h : PathPolicy.hasInvalidUnicodeOrControl qt path = false) :
    QString.isWellFormed path = true := by
  induction path using QString.isWellFormed.induct with
  | case1 => rfl
  | case2 unit =>
    rw [PathPolicy.hasInvalidUnicodeOrControl, Bool.or_eq_false_iff, Bool.or_eq_false_iff] at h
    rw [QString.isWellFormed, h.1.1, h.1.2]
    rfl
  | case3 unit next rest hhigh ih =>
    rw [PathPolicy.hasInvalidUnicodeOrControl, if_pos hhigh] at h
    by_cases hlow : QString.isLowSurrogate next = true
    · rw [if_pos hlow] at h
      rw [QString.isWellFormed, if_pos hhigh, hlow, ih h]
      rfl
    · rw [if_neg hlow] at h
      contradiction
  | case4 unit next rest hhigh ih =>
    rw [PathPolicy.hasInvalidUnicodeOrControl, if_neg hhigh] at h
    by_cases hrefused : (QString.isLowSurrogate unit || qt.isOtherControl unit) = true
    · rw [if_pos hrefused] at h
      contradiction
    · rw [if_neg hrefused] at h
      rw [Bool.not_eq_true, Bool.or_eq_false_iff] at hrefused
      rw [QString.isWellFormed, if_neg hhigh, hrefused.1, ih h]
      rfl

structure ValidEntry (qt : QtText) (pathLimits : PathLimits) (entry : ManifestEntry) : Prop where
  pathOk : (PathPolicy.validateRelative qt entry.relativeProtocolPath pathLimits).ok = true
  pathNormalized : (PathPolicy.validateRelative qt entry.relativeProtocolPath pathLimits).normalized =
    entry.relativeProtocolPath
  timeValid : entry.modifiedUtc.isValid = true
  sizeBound : entry.size < 2 ^ 63
  timeNonNegative : 0 ≤ entry.modifiedUtc.toMSecsSinceEpoch
  timeBound : entry.modifiedUtc.toMSecsSinceEpoch < 2 ^ 63
  directoryEmpty : entry.type = .directory → entry.size = 0 ∧ entry.sha256 = []
  digest : entry.sha256 = [] ∨ entry.sha256.length = kSha256Bytes

theorem isWireInteger_iff {value : Nat} : isWireInteger value = true ↔ value < 2 ^ 63 := by
  unfold isWireInteger kMaxWireInteger
  rw [decide_eq_true_iff]
  omega

theorem validateEntry_eq_ok {entry : ManifestEntry} :
    validateEntry qt entry pathLimits = .ok () ↔ ValidEntry qt pathLimits entry := by
  unfold validateEntry
  dsimp only
  rw [require_bind_eq_ok, require_bind_eq_ok, isWireInteger_iff, isWireInteger_iff]
  constructor
  · rintro ⟨⟨hok, hnormalized⟩, ⟨htime, hsize, hnonneg, hbound⟩, hkind⟩
    have hlarge : entry.modifiedUtc.toMSecsSinceEpoch < 2 ^ 63 := by omega
    by_cases hdirectory : entry.type = .directory
    · rw [if_pos hdirectory, require_eq_ok] at hkind
      exact ⟨hok, hnormalized, htime, hsize, hnonneg, hlarge, fun _ => hkind, .inl hkind.2⟩
    · rw [if_neg hdirectory, require_eq_ok] at hkind
      exact ⟨hok, hnormalized, htime, hsize, hnonneg, hlarge, fun h => absurd h hdirectory, hkind⟩
  · intro h
    have hbound := h.timeBound
    have hnonneg := h.timeNonNegative
    refine ⟨⟨h.pathOk, h.pathNormalized⟩, ⟨h.timeValid, h.sizeBound, hnonneg, by omega⟩, ?_⟩
    by_cases hdirectory : entry.type = .directory
    · rw [if_pos hdirectory, require_eq_ok]
      exact h.directoryEmpty hdirectory
    · rw [if_neg hdirectory, require_eq_ok]
      exact h.digest

theorem validateRelative_ok {path : QString}
    (h : (PathPolicy.validateRelative qt path pathLimits).ok = true) :
    PathPolicy.hasInvalidUnicodeOrControl qt path = false ∧
      (qt.normalizedC path).toUtf8.length ≤ pathLimits.maxUtf8Bytes.toNat ∧
      (PathPolicy.validateRelative qt path pathLimits).collisionKey =
        PathPolicy.collisionKeyForProtocolPath qt (qt.normalizedC path) := by
  unfold PathPolicy.validateRelative at h ⊢
  dsimp only at h ⊢
  cases hcomponents : ((qt.normalizedC path).splitOn 0x2f).findSome?
      fun component => PathPolicy.validateComponent qt component pathLimits with
  | none =>
    rw [hcomponents] at h
    split_ifs at h ⊢ with _ _ _ hunicode hlength <;>
      first
      | exact ⟨Bool.not_eq_true _ |>.mp hunicode, Nat.not_lt.mp hlength, rfl⟩
      | exact absurd h (by simp [PathPolicy.fail])
  | some failure =>
    obtain ⟨component, -, hfailure⟩ := List.exists_of_findSome?_eq_some hcomponents
    have hrefused := PathPolicy.validateComponent_ok hfailure
    rw [hcomponents] at h
    split_ifs at h <;> simp_all [PathPolicy.fail]

namespace ValidEntry

variable {entry other : ManifestEntry}

theorem wellFormed (h : ValidEntry qt pathLimits entry) :
    QString.isWellFormed entry.relativeProtocolPath = true :=
  isWellFormed_of_hasInvalidUnicodeOrControl (validateRelative_ok h.pathOk).1

theorem path_length (h : ValidEntry qt pathLimits entry) :
    entry.relativeProtocolPath.toUtf8.length < 2 ^ 32 := by
  have hnormalized := PathPolicy.validateRelative_normalized h.pathOk
  have hlength := (validateRelative_ok h.pathOk).2.1
  rw [← hnormalized, h.pathNormalized] at hlength
  exact Nat.lt_of_le_of_lt hlength pathLimits.maxUtf8Bytes.toNat_lt

theorem path_eq (h : ValidEntry qt pathLimits entry) (hother : ValidEntry qt pathLimits other)
    (hpath : entry.relativeProtocolPath.toUtf8 = other.relativeProtocolPath.toUtf8) :
    entry.relativeProtocolPath = other.relativeProtocolPath :=
  QString.toUtf8_inj h.wellFormed hother.wellFormed hpath

theorem pathLess (h : ValidEntry qt pathLimits entry) (hother : ValidEntry qt pathLimits other)
    (hless : entryLess entry other = true)
    (hkey : collisionKey qt entry pathLimits ≠ collisionKey qt other pathLimits) :
    PathLess entry other := by
  unfold entryLess at hless
  dsimp only at hless
  by_cases hpath : entry.relativeProtocolPath.toUtf8 = other.relativeProtocolPath.toUtf8
  · refine absurd ?_ hkey
    unfold collisionKey
    rw [h.path_eq hother hpath]
  · rw [if_pos hpath] at hless
    exact @of_decide_eq_true (_ < _) _ hless

end ValidEntry

structure Canonical (qt : QtText) (pathLimits : PathLimits) (entries : List ManifestEntry) :
    Prop where
  valid : ∀ entry ∈ entries, ValidEntry qt pathLimits entry
  sorted : entries.Pairwise PathLess
  keys : (entries.map (collisionKey qt · pathLimits)).Nodup
  ids : (entries.map (·.id.toBytes)).Nodup

namespace Canonical

variable {entries later : List ManifestEntry} {entry : ManifestEntry}

theorem nil : Canonical qt pathLimits [] :=
  ⟨nofun, .nil, .nil, .nil⟩

theorem of_append (h : Canonical qt pathLimits (entries ++ later)) :
    Canonical qt pathLimits entries where
  valid entry hentry := h.valid entry (List.mem_append_left _ hentry)
  sorted := (List.pairwise_append.mp h.sorted).1
  keys := by
    have hkeys := h.keys
    rw [List.map_append] at hkeys
    exact (List.nodup_append.mp hkeys).1
  ids := by
    have hids := h.ids
    rw [List.map_append] at hids
    exact (List.nodup_append.mp hids).1

theorem ids_nodup (h : Canonical qt pathLimits entries) : (entries.map (·.id)).Nodup := by
  have hids := h.ids
  rw [show entries.map (·.id.toBytes) = (entries.map (·.id)).map FileId.toBytes by
    rw [List.map_map]; rfl] at hids
  exact List.Nodup.of_map _ hids

theorem pathLess_of_getLast (h : entries.Pairwise PathLess) {last : ManifestEntry}
    (hlast : entries.getLast? = some last) (hless : PathLess last entry) :
    ∀ earlier ∈ entries, PathLess earlier entry := by
  obtain ⟨before, rfl⟩ := List.getLast?_eq_some_iff.mp hlast
  intro earlier hearlier
  rcases List.mem_append.mp hearlier with hbefore | hsame
  · have hstep := (List.pairwise_append.mp h).2.2 earlier hbefore last (List.mem_singleton_self _)
    exact hstep.trans hless
  · obtain rfl : earlier = last := List.mem_singleton.mp hsame
    exact hless

/-- **One entry more.** The checks that both ends make on a new entry are those that the longer list
needs. -/
theorem concat_iff (h : Canonical qt pathLimits entries) :
    Canonical qt pathLimits (entries ++ [entry]) ↔
      ValidEntry qt pathLimits entry ∧ follows entries.getLast? entry = true ∧
        collisionKey qt entry pathLimits ∉ entries.map (collisionKey qt · pathLimits) ∧
        entry.id.toBytes ∉ entries.map (·.id.toBytes) := by
  constructor
  · intro hlonger
    have hkeys := hlonger.keys
    have hids := hlonger.ids
    rw [List.map_append, List.map_singleton, List.nodup_append] at hkeys hids
    refine ⟨hlonger.valid entry (List.mem_append_right _ (List.mem_singleton_self _)), ?_,
      fun hkey => hkeys.2.2 _ hkey _ (List.mem_singleton_self _) rfl,
      fun hid => hids.2.2 _ hid _ (List.mem_singleton_self _) rfl⟩
    cases hlast : entries.getLast? with
    | none => rfl
    | some last =>
      have hless := (List.pairwise_append.mp hlonger.sorted).2.2 last (List.mem_of_getLast? hlast)
        entry (List.mem_singleton_self _)
      exact hless.entryLess
  · rintro ⟨hvalid, hfollows, hkey, hid⟩
    have hless : ∀ earlier ∈ entries, PathLess earlier entry := by
      cases hlast : entries.getLast? with
      | none =>
        rw [List.getLast?_eq_none_iff.mp hlast]
        exact nofun
      | some last =>
        rw [hlast] at hfollows
        have hmem := List.mem_of_getLast? hlast
        refine pathLess_of_getLast h.sorted hlast ((h.valid last hmem).pathLess hvalid hfollows ?_)
        exact fun heq => hkey (List.mem_map.mpr ⟨last, hmem, heq⟩)
    constructor
    · intro earlier hearlier
      rcases List.mem_append.mp hearlier with hbefore | hsame
      · exact h.valid earlier hbefore
      · rwa [List.mem_singleton.mp hsame]
    · refine List.pairwise_append.mpr ⟨h.sorted, List.pairwise_singleton _ _, ?_⟩
      intro earlier hearlier later hlater
      rw [List.mem_singleton.mp hlater]
      exact hless earlier hearlier
    · rw [List.map_append, List.map_singleton]
      rw [← List.concat_eq_append]
      exact List.Nodup.concat hkey h.keys
    · rw [List.map_append, List.map_singleton]
      rw [← List.concat_eq_append]
      exact List.Nodup.concat hid h.ids

end Canonical

end DeskflowPlus.Transfer.ManifestPageCodec
