import Mathlib
import DeskflowPlus.Lib.SortedRows
import DeskflowPlus.Model.TransferCenterModel

/-!
# The rows stay in order

The comparison of two entries is the order of a key that tells transfers apart: whether they have
ended, the time, and the text of the identifier. An upsert moves its entry to where the rows are in
ascending order again, and a removal leaves them so.
-/

namespace DeskflowPlus.Model

open Transfer SortedRows

theorem compareText_lt {left right : QString} :
    compareText left right < 0 ↔ left.map UInt16.toNat < right.map UInt16.toNat := by
  induction left generalizing right with
  | nil =>
    cases right with
    | nil => exact iff_of_false (lt_irrefl (0 : Int)) (lt_irrefl _)
    | cons unit right => exact iff_of_true neg_one_lt_zero (List.nil_lt_cons _ _)
  | cons first left ih =>
    cases right with
    | nil => exact iff_of_false (not_lt.mpr zero_le_one) (List.not_lt_nil _)
    | cons second right =>
      unfold compareText
      rw [List.map_cons, List.map_cons, List.cons_lt_cons_iff, ← UInt16.lt_iff_toNat_lt]
      by_cases hless : first < second
      · rw [if_pos hless]
        exact iff_of_true neg_one_lt_zero (.inl hless)
      · rw [if_neg hless]
        by_cases hgreater : second < first
        · rw [if_pos hgreater]
          refine iff_of_false (not_lt.mpr zero_le_one) ?_
          rintro (h | ⟨heq, -⟩)
          · exact hless h
          · rw [UInt16.lt_iff_toNat_lt, heq] at hgreater
            exact lt_irrefl _ hgreater
        · rw [if_neg hgreater, ih]
          have heq : first.toNat = second.toNat := by
            rw [UInt16.lt_iff_toNat_lt] at hless hgreater
            omega
          exact ⟨fun h => .inr ⟨heq, h⟩, fun h => h.elim (fun h => absurd h hless) And.right⟩

def timeKey (time : QDateTime) : (WithBot ℤ)ᵒᵈ := OrderDual.toDual (show WithBot ℤ from time.msecs)

theorem later_iff {left right : QDateTime} :
    later left right = true ↔ timeKey left < timeKey right := by
  unfold later timeKey
  rw [OrderDual.toDual_lt_toDual]
  obtain ⟨_ | left⟩ := left
  · exact iff_of_false nofun not_lt_bot
  · obtain ⟨_ | right⟩ := right
    · exact iff_of_true rfl (WithBot.bot_lt_coe left)
    · dsimp only
      rw [decide_eq_true_iff]
      exact WithBot.coe_lt_coe.symm

theorem timeKey_injective {left right : QDateTime} (h : timeKey left = timeKey right) :
    left = right := by
  obtain ⟨left⟩ := left
  obtain ⟨right⟩ := right
  exact congrArg QDateTime.mk h

namespace TransferCenterModel

def sortTime (entry : Entry) : QDateTime :=
  if TransferControlStateMachine.isTerminal entry.snapshot.state then entry.snapshot.finishedUtc
  else entry.snapshot.createdUtc

def rowKey (entry : Entry) : Bool ×ₗ (WithBot ℤ)ᵒᵈ ×ₗ List ℕ :=
  toLex (TransferControlStateMachine.isTerminal entry.snapshot.state,
    toLex (timeKey (sortTime entry), entry.snapshot.id.toString.map UInt16.toNat))

/-- **The comparison is the order of the key.** -/
theorem compare_lt_iff {left right : Entry} :
    compare left right < 0 ↔ rowKey left < rowKey right := by
  have hcompare : compare left right =
      if TransferControlStateMachine.isTerminal left.snapshot.state ≠
          TransferControlStateMachine.isTerminal right.snapshot.state then
        if TransferControlStateMachine.isTerminal left.snapshot.state then 1 else -1
      else if sortTime left ≠ sortTime right then
        if later (sortTime left) (sortTime right) then -1 else 1
      else compareText left.snapshot.id.toString right.snapshot.id.toString := rfl
  rw [hcompare]
  unfold rowKey
  rw [Prod.Lex.toLex_lt_toLex, Prod.Lex.toLex_lt_toLex]
  dsimp only
  by_cases hterminal : TransferControlStateMachine.isTerminal left.snapshot.state =
      TransferControlStateMachine.isTerminal right.snapshot.state
  · rw [if_neg (not_not.mpr hterminal), hterminal]
    simp only [lt_irrefl, false_or, true_and]
    by_cases htime : sortTime left = sortTime right
    · rw [if_neg (not_not.mpr htime), htime, compareText_lt]
      simp only [lt_irrefl, false_or, true_and]
    · rw [if_pos htime, ← later_iff]
      have hkeys : timeKey (sortTime left) ≠ timeKey (sortTime right) :=
        fun h => htime (timeKey_injective h)
      by_cases hlater : later (sortTime left) (sortTime right) = true
      · rw [if_pos hlater]
        exact iff_of_true neg_one_lt_zero (.inl hlater)
      · rw [if_neg hlater]
        exact iff_of_false (not_lt.mpr zero_le_one) fun h => h.elim hlater fun h => hkeys h.1
  · rw [if_pos hterminal]
    generalize TransferControlStateMachine.isTerminal left.snapshot.state = first at hterminal ⊢
    generalize TransferControlStateMachine.isTerminal right.snapshot.state = second at hterminal ⊢
    cases first with
    | false =>
      cases second with
      | false => exact absurd rfl hterminal
      | true => exact iff_of_true neg_one_lt_zero (.inl Bool.false_lt_true)
    | true =>
      refine iff_of_false (not_lt.mpr zero_le_one) ?_
      rintro (h | ⟨h, -⟩)
      · exact absurd (Bool.le_true second) (not_le.mpr h)
      · exact hterminal h

theorem toString_injective {left right : TransferId} (h : left.toString = right.toString) :
    left = right := by
  have hread := TransferId.fromString_toString left
  rw [h, TransferId.fromString_toString] at hread
  exact (Option.some.inj hread).symm

theorem id_eq_of_rowKey {left right : Entry} (h : rowKey left = rowKey right) :
    left.snapshot.id = right.snapshot.id := by
  simp only [rowKey, EmbeddingLike.apply_eq_iff_eq, Prod.mk.injEq] at h
  obtain ⟨-, -, htext⟩ := h
  exact toString_injective (List.map_injective_iff.mpr (fun _ _ => UInt16.toNat_inj.mp) htext)

structure Ordered (entries : List Entry) : Prop where
  unique : (entries.map (·.snapshot.id)).Nodup
  sorted : Ascending rowKey entries

variable {entries before after : List Entry} {entry old other : Entry} {transferId : TransferId}
  {row : Nat}

theorem indexOf_eq_none :
    indexOf transferId entries = none ↔ ∀ entry ∈ entries, entry.snapshot.id ≠ transferId := by
  unfold indexOf
  rw [List.findIdx?_eq_none_iff]
  simp only [decide_eq_false_iff_not, ne_eq]

theorem split_of_indexOf (h : indexOf transferId entries = some row) :
    ∃ before old after, entries = before ++ old :: after ∧ before.length = row ∧
      old.snapshot.id = transferId := by
  induction entries generalizing row with
  | nil => cases h
  | cons first rest ih =>
    unfold indexOf at h
    rw [List.findIdx?_cons] at h
    split at h
    · rename_i hid
      cases h
      exact ⟨[], first, rest, rfl, rfl, of_decide_eq_true hid⟩
    · obtain ⟨index, hindex, rfl⟩ := Option.map_eq_some_iff.mp h
      obtain ⟨before, old, after, rfl, rfl, hid⟩ := ih hindex
      exact ⟨first :: before, old, after, rfl, rfl, hid⟩

namespace Ordered

theorem ne_of_cons (h : Ordered (before ++ old :: after)) :
    ∀ entry ∈ before ++ after, entry.snapshot.id ≠ old.snapshot.id := by
  have hunique := h.unique
  rw [List.map_append, List.map_cons] at hunique
  obtain ⟨-, hrest, hdisjoint⟩ := List.nodup_append.mp hunique
  intro entry hentry
  obtain hentry | hentry := List.mem_append.mp hentry
  · exact hdisjoint _ (List.mem_map_of_mem hentry) _ List.mem_cons_self
  · exact fun heq => (List.nodup_cons.mp hrest).1 (heq ▸ List.mem_map_of_mem hentry)

theorem without (h : Ordered (before ++ old :: after)) : Ordered (before ++ after) where
  unique :=
    h.unique.sublist ((List.Sublist.append_left (List.sublist_cons_self _ _) _).map _)
  sorted := h.sorted.append_of_cons

theorem mem_without (h : Ordered (before ++ old :: after)) :
    other ∈ before ++ after ↔
      other ∈ before ++ old :: after ∧ other.snapshot.id ≠ old.snapshot.id := by
  constructor
  · intro hmem
    refine ⟨?_, h.ne_of_cons other hmem⟩
    rw [List.mem_append] at hmem ⊢
    exact hmem.imp id (List.mem_cons_of_mem _)
  · rintro ⟨hmem, hid⟩
    rw [List.mem_append, List.mem_cons] at hmem
    obtain hmem | rfl | hmem := hmem
    · exact List.mem_append_left _ hmem
    · exact absurd rfl hid
    · exact List.mem_append_right _ hmem

theorem insert (h : Ordered entries)
    (hnew : ∀ other ∈ entries, other.snapshot.id ≠ entry.snapshot.id) :
    Ordered (SortedRows.insert rowKey entry entries) where
  unique := by
    have hperm : (SortedRows.insert rowKey entry entries).Perm (entry :: entries) :=
      insert_perm entry entries
    refine (hperm.map (·.snapshot.id)).nodup_iff.mpr ?_
    refine List.nodup_cons.mpr ⟨fun hmem => ?_, h.unique⟩
    obtain ⟨other, hother, hid⟩ := List.mem_map.mp hmem
    exact hnew other hother hid
  sorted := h.sorted.insert fun other hother hkey => hnew other hother (id_eq_of_rowKey hkey)

end Ordered

theorem insertionIndexFrom_of_lt {ignoredIndex : Option Nat}
    (h : ∀ index ∈ ignoredIndex, index < row) :
    insertionIndexFrom entry ignoredIndex row entries = place rowKey entry entries := by
  induction entries generalizing row with
  | nil => rfl
  | cons first rest ih =>
    have hrow : some row ≠ ignoredIndex := fun heq => lt_irrefl row (h row heq.symm)
    unfold insertionIndexFrom place
    rw [if_neg hrow, ih fun index hindex => Nat.lt_succ_of_lt (h index hindex)]
    simp only [compare_lt_iff]

theorem insertionIndexFrom_ignored :
    insertionIndexFrom entry (some (row + before.length)) row (before ++ old :: after) =
      place rowKey entry (before ++ after) := by
  induction before generalizing row with
  | nil =>
    have hrest : insertionIndexFrom entry (some row) (row + 1) after = place rowKey entry after :=
      insertionIndexFrom_of_lt fun index hindex => Option.some.inj hindex ▸ Nat.lt_succ_self row
    exact (if_pos rfl).trans hrest
  | cons first before ih =>
    have hrow : some row ≠ some (row + (first :: before).length) := by
      rw [List.length_cons]
      intro heq
      have := Option.some.inj heq
      omega
    have hnext : row + (first :: before).length = row + 1 + before.length := by
      rw [List.length_cons]
      omega
    rw [List.cons_append, List.cons_append]
    unfold insertionIndexFrom place
    rw [if_neg hrow, hnext, ih]
    simp only [compare_lt_iff]

variable {model : TransferCenterModel}

theorem upsertEntry_of_split (hentries : model.entries = before ++ old :: after)
    (hrow : indexOf entry.snapshot.id model.entries = some before.length) (hold : old ≠ entry) :
    (model.upsertEntry entry).entries = SortedRows.insert rowKey entry (before ++ after) := by
  have hget : model.entries[before.length]? ≠ some entry := by
    rw [hentries, getElem?_append_length]
    exact fun heq => hold (Option.some.inj heq)
  have hplace : insertionIndex entry (some before.length) model.entries =
      place rowKey entry (before ++ after) := by
    have h := @insertionIndexFrom_ignored before after entry old 0
    rw [Nat.zero_add] at h
    rw [hentries]
    exact h
  unfold upsertEntry
  rw [hrow]
  dsimp only
  rw [if_neg hget, hplace]
  split
  · rename_i hstays
    show model.entries.set before.length entry = (before ++ after).insertIdx _ entry
    rw [hstays, insertIdx_append_length, hentries, set_append_length]
  · show (model.entries.eraseIdx before.length).insertIdx _ entry = _
    rw [hentries, eraseIdx_append_length]
    rfl

theorem upsertEntry_cases (entry : Entry) (h : Ordered model.entries) :
    (entry ∈ model.entries ∧ (model.upsertEntry entry).entries = model.entries) ∨
      ∃ others, Ordered others ∧
        (∀ other, other ∈ others ↔
          other ∈ model.entries ∧ other.snapshot.id ≠ entry.snapshot.id) ∧
        (model.upsertEntry entry).entries = SortedRows.insert rowKey entry others := by
  cases hrow : indexOf entry.snapshot.id model.entries with
  | none =>
    have hnew := indexOf_eq_none.mp hrow
    refine .inr ⟨model.entries, h, fun other => ⟨fun hmem => ⟨hmem, hnew other hmem⟩, And.left⟩, ?_⟩
    have hplace : insertionIndex entry none model.entries = place rowKey entry model.entries :=
      insertionIndexFrom_of_lt nofun
    unfold upsertEntry
    rw [hrow]
    dsimp only
    rw [hplace]
    rfl
  | some row =>
    obtain ⟨before, old, after, hentries, rfl, hid⟩ := split_of_indexOf hrow
    by_cases hold : old = entry
    · subst hold
      refine .inl ⟨hentries ▸ List.mem_append_right _ List.mem_cons_self, ?_⟩
      have hget : model.entries[before.length]? = some old := by
        rw [hentries, getElem?_append_length]
      unfold upsertEntry
      rw [hrow]
      exact congrArg entries (if_pos hget)
    · have hordered : Ordered (before ++ old :: after) := hentries ▸ h
      refine .inr ⟨before ++ after, hordered.without, fun other => ?_,
        upsertEntry_of_split hentries hrow hold⟩
      rw [hordered.mem_without, hentries, hid]

theorem Ordered.upsertEntry (entry : Entry) (h : Ordered model.entries) :
    Ordered (model.upsertEntry entry).entries := by
  obtain ⟨-, heq⟩ | ⟨others, hothers, hmem, heq⟩ := upsertEntry_cases entry h
  · exact heq ▸ h
  · rw [heq]
    exact hothers.insert fun other hother => ((hmem other).mp hother).2

/-- **The row of the transfer shows the entry, and the other rows are as they were.** -/
theorem mem_upsertEntry (h : Ordered model.entries) :
    other ∈ (model.upsertEntry entry).entries ↔
      other = entry ∨ other ∈ model.entries ∧ other.snapshot.id ≠ entry.snapshot.id := by
  obtain ⟨hentry, heq⟩ | ⟨others, -, hmem, heq⟩ := upsertEntry_cases entry h
  · rw [heq]
    constructor
    · intro hother
      by_cases hid : other.snapshot.id = entry.snapshot.id
      · exact .inl (List.inj_on_of_nodup_map h.unique hother hentry hid)
      · exact .inr ⟨hother, hid⟩
    · rintro (rfl | ⟨hother, -⟩)
      · exact hentry
      · exact hother
  · rw [heq, mem_insert, hmem]

theorem removeTransfer_cases (transferId : TransferId) (h : Ordered model.entries) :
    (model.removeTransfer transferId = (false, model) ∧
        ∀ entry ∈ model.entries, entry.snapshot.id ≠ transferId) ∨
      ∃ others row, Ordered others ∧
        (∀ other, other ∈ others ↔ other ∈ model.entries ∧ other.snapshot.id ≠ transferId) ∧
        (model.removeTransfer transferId).2 = { model.removePending transferId with
          entries := others
          lastPublishedMs := Function.update model.lastPublishedMs transferId none
          announced := model.announced ++ [.removed row] } := by
  cases hrow : indexOf transferId model.entries with
  | none =>
    refine .inl ⟨?_, indexOf_eq_none.mp hrow⟩
    unfold removeTransfer
    rw [hrow]
  | some row =>
    obtain ⟨before, old, after, hentries, rfl, rfl⟩ := split_of_indexOf hrow
    have hordered : Ordered (before ++ old :: after) := hentries ▸ h
    refine .inr ⟨before ++ after, before.length, hordered.without, fun other => ?_, ?_⟩
    · rw [hordered.mem_without, hentries]
    · have herase : model.entries.eraseIdx before.length = before ++ after := by
        rw [hentries, eraseIdx_append_length]
      unfold removeTransfer
      rw [hrow]
      dsimp only
      rw [herase]

theorem Ordered.removeTransfer (transferId : TransferId) (h : Ordered model.entries) :
    Ordered (model.removeTransfer transferId).2.entries := by
  obtain ⟨heq, -⟩ | ⟨others, row, hothers, -, heq⟩ := removeTransfer_cases transferId h
  · exact heq.symm ▸ h
  · exact heq.symm ▸ hothers

theorem mem_removeTransfer (h : Ordered model.entries) :
    other ∈ (model.removeTransfer transferId).2.entries ↔
      other ∈ model.entries ∧ other.snapshot.id ≠ transferId := by
  obtain ⟨heq, hnone⟩ | ⟨others, row, -, hmem, heq⟩ := removeTransfer_cases transferId h
  · rw [heq]
    exact ⟨fun hother => ⟨hother, hnone other hother⟩, And.left⟩
  · rw [heq]
    exact hmem other

end TransferCenterModel

end DeskflowPlus.Model
