import DeskflowPlus.Transfer.TransferHistoryStore
import Mathlib.Data.List.Sort

/-!
# One row for each transfer

Only adjacent rows of one transfer are dropped. The list has each transfer once, with its latest
record, unless an older record of some transfer is separated from a newer one by a record of another
transfer, and comes early enough to be listed again.
-/

namespace DeskflowPlus.Transfer.TransferHistoryStore

variable {first second third : TransferHistoryRecord}

def finishedMs (record : TransferHistoryRecord) : Int := record.finishedUtc.toMSecsSinceEpoch

instance : @Std.Asymm UInt8 (· < ·) := ⟨fun _ _ => UInt8.lt_asymm⟩

instance : @Std.Antisymm UInt8 (¬ · < ·) :=
  ⟨fun _ _ hleft hright => UInt8.le_antisymm (UInt8.not_lt.mp hright) (UInt8.not_lt.mp hleft)⟩

theorem toBytes_inj {left right : TransferId} (h : left.toBytes = right.toBytes) : left = right :=
  Option.some.inj (by rw [← left.fromBytes_toBytes, h, right.fromBytes_toBytes])

theorem newestFirst_iff :
    newestFirst first second = true ↔
      finishedMs second < finishedMs first ∨
        finishedMs first = finishedMs second ∧
          first.transferId.toBytes < second.transferId.toBytes := by
  unfold newestFirst finishedMs
  by_cases htime : first.finishedUtc.toMSecsSinceEpoch = second.finishedUtc.toMSecsSinceEpoch
  · rw [if_neg (not_not.mpr htime), decide_eq_true_iff, htime]
    simp
  · rw [if_pos htime, decide_eq_true_iff]
    simp [htime]

theorem newestFirst_irrefl (record : TransferHistoryRecord) :
    newestFirst record record = false := by
  rw [← Bool.not_eq_true, newestFirst_iff]
  rintro (htime | ⟨-, hid⟩)
  · exact Int.lt_irrefl _ htime
  · exact @List.lt_irrefl _ _ ⟨fun _ => UInt8.lt_irrefl _⟩ _ hid

theorem newestFirst_trans (hfirst : newestFirst first second = true)
    (hsecond : newestFirst second third = true) : newestFirst first third = true := by
  rw [newestFirst_iff] at hfirst hsecond ⊢
  rcases hfirst with hfirst | ⟨hsame, hid⟩
  · rcases hsecond with hsecond | ⟨hsame, -⟩
    · exact .inl (Int.lt_trans hsecond hfirst)
    · exact .inl (hsame ▸ hfirst)
  · rcases hsecond with hsecond | ⟨hsame', hid'⟩
    · exact .inl (hsame ▸ hsecond)
    · exact .inr ⟨hsame.trans hsame',
        @List.lt_trans _ _ ⟨fun h h' => UInt8.lt_trans h h'⟩ _ _ _ hid hid'⟩

theorem transferId_eq_of_not_newestFirst (hfirst : newestFirst first second = false)
    (hsecond : newestFirst second first = false) : first.transferId = second.transferId := by
  rw [← Bool.not_eq_true, newestFirst_iff, not_or, not_and] at hfirst hsecond
  have htime : finishedMs first = finishedMs second := by omega
  exact toBytes_inj (List.le_antisymm (hsecond.2 htime.symm) (hfirst.2 htime))

theorem newestFirst_of_ne (hid : first.transferId ≠ second.transferId)
    (h : newestFirst second first = false) : newestFirst first second = true := by
  by_contra hnot
  exact hid (transferId_eq_of_not_newestFirst (Bool.eq_false_iff.mpr hnot) h)

theorem isFresh_of_finishedMs_le {limits : TransferHistoryLimits} {now : QDateTime}
    (h : isFresh limits now first = true) (htime : finishedMs first ≤ finishedMs second) :
    isFresh limits now second = true := by
  unfold isFresh at h ⊢
  unfold finishedMs at htime
  dsimp only at h ⊢
  rw [Bool.not_eq_true', Bool.and_eq_false_iff] at h ⊢
  rcases h with hcutoff | hcutoff
  · exact .inl hcutoff
  · right
    rw [decide_eq_false_iff_not] at hcutoff ⊢
    omega

/-- The transfers with a row that comes before this one. -/
def newerTransfers (records : List TransferHistoryRecord) (record : TransferHistoryRecord) :
    List TransferId :=
  ((records.filter fun newer => newestFirst newer record).map (·.transferId)).dedup

/-- An older row of a transfer is cut off from a newer one by a row of another transfer, while fewer
transfers than the list holds have rows before it. -/
def Separated (limits : TransferHistoryLimits) (records : List TransferHistoryRecord) : Prop :=
  ∃ newer ∈ records, ∃ between ∈ records, ∃ older ∈ records,
    newestFirst newer between = true ∧ newestFirst between older = true ∧
      newer.transferId = older.transferId ∧ between.transferId ≠ older.transferId ∧
      (newerTransfers records older).length < limits.maximumEntries

instance (limits : TransferHistoryLimits) (records : List TransferHistoryRecord) :
    Decidable (Separated limits records) :=
  inferInstanceAs (Decidable (∃ _ ∈ _, ∃ _ ∈ _, ∃ _ ∈ _, _))

structure Listing (limits : TransferHistoryLimits) (now : QDateTime)
    (records rows : List TransferHistoryRecord) : Prop where
  mem : ∀ row ∈ rows, row ∈ records
  newestFirst : rows.Pairwise fun left right => newestFirst right left = false
  unique : (rows.map (·.transferId)).Nodup
  latest : ∀ row ∈ rows, ∀ record ∈ records, record.transferId = row.transferId →
    finishedMs record ≤ finishedMs row
  fresh : ∀ row ∈ rows, isFresh limits now row = true
  count : rows.length ≤ limits.maximumEntries
  /-- A valid row is left out for a later one of its transfer, or because the list is full of rows
  that do not come after it. -/
  complete : ∀ record ∈ records, isFresh limits now record = true →
    (∃ row ∈ rows, row.transferId = record.transferId) ∨
      rows.length = limits.maximumEntries ∧
        ∀ row ∈ rows, TransferHistoryStore.newestFirst record row = false

section Prune

variable {sort : StdSort newestFirst} {limits : TransferHistoryLimits} {now : QDateTime}
  {records : List TransferHistoryRecord}

variable {fresh : List TransferHistoryRecord}

theorem mem_sort {record : TransferHistoryRecord} :
    record ∈ sort.sort fresh ↔ record ∈ fresh :=
  (sort.perm fresh).mem_iff

variable {before after : List TransferHistoryRecord}

theorem newestFirst_of_split (h : sort.sort fresh = before ++ after) :
    ∀ early ∈ before, ∀ late ∈ after, newestFirst late early = false := by
  have hsorted := sort.sorted fresh
  rw [h, List.pairwise_append] at hsorted
  exact hsorted.2.2

theorem mem_of_newestFirst {early late : TransferHistoryRecord}
    (h : sort.sort fresh = before ++ late :: after) (hearly : early ∈ fresh)
    (hnewer : newestFirst early late = true) : early ∈ before := by
  have hmem : early ∈ before ++ late :: after := h ▸ mem_sort.mpr hearly
  have hsorted := sort.sorted fresh
  rw [h, List.pairwise_append, List.pairwise_cons] at hsorted
  rcases List.mem_append.mp hmem with hbefore | hafter
  · exact hbefore
  · rcases List.mem_cons.mp hafter with rfl | hafter
    · rw [newestFirst_irrefl] at hnewer
      cases hnewer
    · rw [hsorted.2.1.1 early hafter] at hnewer
      cases hnewer

theorem length_le_newerTransfers {rows : List TransferHistoryRecord} {older : TransferHistoryRecord}
    (hnodup : (rows.map (·.transferId)).Nodup)
    (hrows : ∀ id ∈ rows.map (·.transferId), id ∈ newerTransfers fresh older) :
    rows.length ≤ (newerTransfers fresh older).length := by
  have hlength := (List.subperm_of_subset hnodup hrows).length_le
  rwa [List.length_map] at hlength

theorem not_nodup_of_separated (h : Separated limits fresh) :
    ¬ (((StdUnique.unique (·.transferId) (sort.sort fresh)).take limits.maximumEntries).map
      (·.transferId)).Nodup := by
  intro hnodup
  obtain ⟨newer, hnewer, between, hbetween, older, holder, hfirst, hsecond, hsame, hne, hcount⟩ := h
  have holderSort : older ∈ sort.sort fresh := mem_sort.mpr holder
  obtain ⟨before, after, hsplit⟩ := List.append_of_mem holderSort
  have hbetweenMem := mem_of_newestFirst hsplit hbetween hsecond
  have hnewest := newestFirst_trans hfirst hsecond
  -- every transfer in front of the older row has a row that comes before it
  have hsubset : ∀ id ∈ before.map (·.transferId), id ∈ newerTransfers fresh older := by
    intro id hid
    obtain ⟨early, hearly, rfl⟩ := List.mem_map.mp hid
    have hearlyMem : early ∈ fresh := mem_sort.mp (hsplit ▸ List.mem_append_left _ hearly)
    have hlate := newestFirst_of_split hsplit early hearly older List.mem_cons_self
    refine List.mem_dedup.mpr (List.mem_map.mpr ?_)
    by_cases hbefore : TransferHistoryStore.newestFirst early older = true
    · exact ⟨early, List.mem_filter.mpr ⟨hearlyMem, hbefore⟩, rfl⟩
    · have hid := transferId_eq_of_not_newestFirst (Bool.eq_false_iff.mpr hbefore) hlate
      exact ⟨newer, List.mem_filter.mpr ⟨hnewer, hnewest⟩, hsame.trans hid.symm⟩
  have hrows : (StdUnique.unique (·.transferId) before).length < limits.maximumEntries := by
    by_contra hlarge
    have hlarge := Nat.le_of_not_lt hlarge
    obtain ⟨rest, hrest⟩ := StdUnique.unique_prefix_append (·.transferId) before (older :: after)
    rw [hsplit, ← hrest, List.take_append_of_le_length hlarge] at hnodup
    have hlength := length_le_newerTransfers hnodup fun id hid =>
      hsubset id (StdUnique.mem_map_unique.mp (((List.take_sublist _ _).map _).subset hid))
    rw [List.length_take, Nat.min_eq_left hlarge] at hlength
    omega
  have htriple : [newer, between, older].Sublist (before ++ [older]) := by
    obtain ⟨front, rest, rfl⟩ := List.append_of_mem hbetweenMem
    rw [List.append_assoc, List.cons_append] at hsplit
    have hfront : [newer].Sublist front :=
      List.singleton_sublist.mpr (mem_of_newestFirst hsplit hnewer hfirst)
    have hmiddle : [between].Sublist (between :: rest) :=
      List.singleton_sublist.mpr List.mem_cons_self
    exact (hfront.append hmiddle).append (List.Sublist.refl [older])
  have hinitial := StdUnique.unique_prefix_append (·.transferId) (before ++ [older]) after
  rw [List.append_assoc, List.singleton_append, ← hsplit] at hinitial
  have hshort :
      (StdUnique.unique (·.transferId) (before ++ [older])).length ≤ limits.maximumEntries := by
    rw [StdUnique.unique_concat]
    split
    · omega
    · rw [List.length_append, List.length_singleton]
      omega
  have hlisted := List.prefix_take_iff.mpr ⟨hinitial, hshort⟩
  exact hne (StdUnique.key_eq_of_nodup (hnodup.sublist (hlisted.sublist.map _)) htriple hsame)

theorem separated_of_mem {row : TransferHistoryRecord}
    (hsplit : sort.sort fresh = before ++ row :: after)
    (hlast : before.getLast?.map (·.transferId) ≠ some row.transferId)
    (hmem : row.transferId ∈ before.map (·.transferId))
    (hcount : (StdUnique.unique (·.transferId) before).length < limits.maximumEntries) :
    Separated limits fresh := by
  obtain ⟨newer, hnewer, hsame⟩ := List.mem_map.mp hmem
  obtain rfl | ⟨front, last, rfl⟩ := List.eq_nil_or_concat' before
  · cases hnewer
  rw [List.getLast?_concat, Option.map_some, Ne, Option.some.injEq] at hlast
  have hrow : row ∈ fresh := mem_sort.mp (hsplit ▸ List.mem_append_right _ List.mem_cons_self)
  have hlastMem : last ∈ fresh :=
    mem_sort.mp (hsplit ▸ List.mem_append_left _ (List.mem_append_right _ List.mem_cons_self))
  have hnewerMem : newer ∈ fresh := mem_sort.mp (hsplit ▸ List.mem_append_left _ hnewer)
  have hfront : newer ∈ front := by
    rcases List.mem_append.mp hnewer with hfront | hlast'
    · exact hfront
    · exact absurd (List.mem_singleton.mp hlast' ▸ hsame) hlast
  have hbetween := newestFirst_of_split hsplit last (List.mem_append_right _ List.mem_cons_self)
    row List.mem_cons_self
  have hfirst := newestFirst_of_split (hsplit.trans (List.append_assoc _ _ _)) newer hfront
    last (List.mem_append_left _ List.mem_cons_self)
  have hnewest : TransferHistoryStore.newestFirst newer last = true :=
    newestFirst_of_ne (fun hid => hlast (hid.symm.trans hsame)) hfirst
  refine ⟨newer, hnewerMem, last, hlastMem, row, hrow, hnewest, newestFirst_of_ne hlast hbetween,
    hsame, hlast, ?_⟩
  have hsubset : newerTransfers fresh row ⊆
      (StdUnique.unique (·.transferId) (front ++ [last])).map (·.transferId) := by
    intro id hid
    obtain ⟨early, hearly, rfl⟩ := List.mem_map.mp (List.mem_dedup.mp hid)
    obtain ⟨hearlyMem, hbefore⟩ := List.mem_filter.mp hearly
    exact StdUnique.mem_map_unique.mpr
      (List.mem_map_of_mem (mem_of_newestFirst hsplit hearlyMem hbefore))
  have hlength := (List.subperm_of_subset (List.nodup_dedup _) hsubset).length_le
  rw [List.length_map] at hlength
  exact Nat.lt_of_le_of_lt hlength hcount

theorem nodup_of_not_separated (h : ¬ Separated limits fresh) (count : Nat)
    (hcount : count ≤ limits.maximumEntries) :
    (((StdUnique.unique (·.transferId) (sort.sort fresh)).take count).map
      (·.transferId)).Nodup := by
  induction count with
  | zero => exact List.nodup_nil
  | succ count ih =>
    have ih := ih (Nat.le_of_succ_le hcount)
    by_cases hlength : (StdUnique.unique (·.transferId) (sort.sort fresh)).length ≤ count
    · rw [List.take_of_length_le (Nat.le_succ_of_le hlength)]
      rwa [List.take_of_length_le hlength] at ih
    · have hlength := Nat.lt_of_not_le hlength
      have hrows := List.take_append_drop count (StdUnique.unique (·.transferId) (sort.sort fresh))
      rw [List.drop_eq_getElem_cons hlength] at hrows
      obtain ⟨before, after, hsplit, hbefore, hlast⟩ :=
        StdUnique.exists_split_of_unique_eq hrows.symm
      rw [List.take_succ_eq_append_getElem hlength, List.map_append, List.nodup_append']
      refine ⟨ih, List.nodup_singleton _, List.disjoint_singleton.mpr fun hmem => h ?_⟩
      refine separated_of_mem hsplit hlast ?_ ?_
      · rwa [← hbefore, StdUnique.mem_map_unique] at hmem
      · rw [hbefore, List.length_take, Nat.min_eq_left (Nat.le_of_lt hlength)]
        exact hcount

theorem mem_of_mem_pruneRecords {row : TransferHistoryRecord}
    (h : row ∈ pruneRecords sort records limits now) : row ∈ records := by
  have hunique := List.mem_of_mem_take h
  have hsorted := (StdUnique.unique_sublist _ _).subset hunique
  exact List.mem_of_mem_filter (mem_sort.mp hsorted)

theorem listing_pruneRecords_iff :
    Listing limits now records (pruneRecords sort records limits now) ↔
      ¬ Separated limits (records.filter (isFresh limits now)) := by
  refine ⟨fun h hseparated => not_nodup_of_separated hseparated h.unique, fun h => ?_⟩
  have hnodup : ((pruneRecords sort records limits now).map (·.transferId)).Nodup :=
    nodup_of_not_separated h limits.maximumEntries (Nat.le_refl _)
  have hsublist : (pruneRecords sort records limits now).Sublist
      (sort.sort (records.filter (isFresh limits now))) :=
    (List.take_sublist _ _).trans (StdUnique.unique_sublist _ _)
  have hfresh (row : TransferHistoryRecord) (hrow : row ∈ pruneRecords sort records limits now) :
      row ∈ records.filter (isFresh limits now) := mem_sort.mp (hsublist.subset hrow)
  refine ⟨fun row hrow => (List.mem_filter.mp (hfresh row hrow)).1,
    (sort.sorted _).sublist hsublist, hnodup, fun row hrow record hrecord hid => ?_,
    fun row hrow => (List.mem_filter.mp (hfresh row hrow)).2, ?_, fun record hrecord hnew => ?_⟩
  · -- a later record of the transfer would have been listed in front of the row
    by_contra hlater
    have hlater := Int.lt_of_not_ge hlater
    have hnew := isFresh_of_finishedMs_le (List.mem_filter.mp (hfresh row hrow)).2
      (Int.le_of_lt hlater)
    obtain ⟨front, back, hlisted⟩ := List.append_of_mem hrow
    have hrows : StdUnique.unique (·.transferId) (sort.sort (records.filter (isFresh limits now))) =
        front ++ row :: (back ++ (StdUnique.unique (·.transferId)
          (sort.sort (records.filter (isFresh limits now)))).drop limits.maximumEntries) := by
      rw [← List.cons_append, ← List.append_assoc, ← hlisted]
      exact (List.take_append_drop _ _).symm
    obtain ⟨before, after, hsplit, hbefore, -⟩ := StdUnique.exists_split_of_unique_eq hrows
    have hmem := mem_of_newestFirst hsplit (List.mem_filter.mpr ⟨hrecord, hnew⟩)
      (newestFirst_iff.mpr (.inl hlater))
    rw [hlisted, List.map_append, List.nodup_append'] at hnodup
    have hrepeat : row.transferId ∈ front.map (·.transferId) := by
      rw [← hbefore, StdUnique.mem_map_unique, ← hid]
      exact List.mem_map_of_mem hmem
    exact hnodup.2.2 hrepeat List.mem_cons_self
  · exact List.length_take_le _ _
  · obtain ⟨before, after, hsplit, hbefore, hfull⟩ := StdUnique.exists_split_of_take
      (·.transferId) (sort.sort (records.filter (isFresh limits now)))
      limits.maximumEntries
    have hmem : record ∈ before ++ after :=
      hsplit ▸ mem_sort.mpr (List.mem_filter.mpr ⟨hrecord, hnew⟩)
    rcases List.mem_append.mp hmem with hfront | hback
    · have hid := StdUnique.mem_map_unique.mpr (List.mem_map_of_mem (f := (·.transferId)) hfront)
      rw [hbefore] at hid
      exact .inl (List.mem_map.mp hid)
    · refine .inr ⟨hfull (List.ne_nil_of_mem hback), fun row hrow => ?_⟩
      unfold pruneRecords at hrow
      dsimp only at hrow
      rw [← hbefore] at hrow
      have hfront := (StdUnique.unique_sublist (·.transferId) before).subset hrow
      exact newestFirst_of_split hsplit row hfront record hback

end Prune

variable (qt : QtText) (fromJson : QJsonParser) (sort : StdSort newestFirst)

def validRows (store : TransferHistoryStore) : List TransferHistoryRecord :=
  match store.contents with
  | none => []
  | some contents => (loadLines qt fromJson store.limits 0 (contents.splitOn 0x0a)).1

variable {fault : HistoryFault}

theorem validRows_of_loadAll {store : TransferHistoryStore}
    {loaded : List TransferHistoryRecord × List TransferHistoryIssue}
    (h : store.loadAll qt fromJson fault = .ok loaded) :
    loaded.1 = validRows qt fromJson store := by
  unfold loadAll at h
  unfold validRows
  cases hcontents : store.contents with
  | none =>
    rw [hcontents] at h
    cases h
    rfl
  | some contents =>
    simp only [hcontents, Checks.require_bind_eq_ok] at h
    cases fault with
    | some failure => exact absurd h.2 (by simp)
    | none => exact (Except.ok.inj h.2) ▸ rfl

/-- The file can be read: it is none, or small enough. -/
def Readable (store : TransferHistoryStore) : Prop :=
  ∀ contents, store.contents = some contents → contents.length ≤ store.limits.maximumFileBytes

structure ListsOnce (store : TransferHistoryStore) (now : QDateTime) : Prop where
  page : ∀ offset limit readFault page,
    store.page qt fromJson sort offset limit now readFault = .ok page →
      ∃ rows, Listing store.limits now (validRows qt fromJson store) rows ∧
        page.records = (rows.drop offset.toNat).take limit.toNat ∧
        page.totalValidEntries = rows.length
  compact : ∀ readFault writeFault compacted,
    store.compact qt fromJson sort now readFault writeFault = .ok compacted →
      compacted = store ∧ store.contents = none ∨
        ∃ rows, Listing store.limits now (validRows qt fromJson store) rows ∧
          encodeRecords store.limits [] rows = .ok (compacted.contents.getD [])

variable {qt fromJson sort} {store : TransferHistoryStore} {now : QDateTime}

theorem page_eq_ok {offset limit : Int} {page : TransferHistoryPage} :
    store.page qt fromJson sort offset limit now fault = .ok page ↔
      store.pathIsAbsolute = true ∧
        (validLimits store.limits = true ∧ 0 ≤ offset ∧ 0 < limit ∧
          limit ≤ store.limits.maximumEntries) ∧
        ∃ loaded, store.loadAll qt fromJson fault = .ok loaded ∧
          let records := pruneRecords sort loaded.1 store.limits now
          let first := min offset.toNat records.length
          let last := min records.length (first + limit.toNat)
          page = {
            records := (records.drop first).take (last - first)
            issues := loaded.2
            totalValidEntries := records.length } := by
  unfold TransferHistoryStore.page
  simp only [Checks.require_bind_eq_ok]
  rw [Checks.bind_eq_ok]
  refine and_congr_right fun _ => and_congr_right fun _ => exists_congr fun loaded =>
    and_congr_right fun _ => ?_
  exact ⟨fun h => (Except.ok.inj h).symm, fun h => congrArg Except.ok h.symm⟩

theorem compact_eq_ok {readFault writeFault : HistoryFault} {compacted : TransferHistoryStore}
    (h : store.compact qt fromJson sort now readFault writeFault = .ok compacted) :
    store.pathIsAbsolute = true ∧ validLimits store.limits = true ∧
      (compacted = store ∧ store.contents = none ∨
        ∃ loaded, store.loadAll qt fromJson readFault = .ok loaded ∧
          store.writeAll (pruneRecords sort loaded.1 store.limits now) writeFault =
            .ok compacted) := by
  unfold TransferHistoryStore.compact at h
  obtain ⟨habsolute, h⟩ := Checks.require_bind_eq_ok.mp h
  obtain ⟨hlimits, h⟩ := Checks.require_bind_eq_ok.mp h
  refine ⟨habsolute, hlimits, ?_⟩
  split at h
  · rename_i hnone
    exact .inl ⟨(Except.ok.inj h).symm, hnone⟩
  · exact .inr (Checks.bind_eq_ok.mp h)

theorem writeAll_eq_ok {records : List TransferHistoryRecord} {written : TransferHistoryStore}
    (h : store.writeAll records fault = .ok written) :
    ∃ contents, encodeRecords store.limits [] records = .ok contents ∧
      written = { store with contents := some contents } := by
  unfold TransferHistoryStore.writeAll at h
  obtain ⟨contents, hcontents, h⟩ := Checks.bind_eq_ok.mp h
  cases fault with
  | some failure => cases h
  | none => exact ⟨contents, hcontents, (Except.ok.inj h).symm⟩

theorem readable_of_loadAll {loaded : List TransferHistoryRecord × List TransferHistoryIssue}
    (h : store.loadAll qt fromJson fault = .ok loaded) : store.Readable := by
  intro contents hcontents
  unfold loadAll at h
  simp only [hcontents, Checks.require_bind_eq_ok] at h
  exact h.1.2

theorem loadAll_of_readable (qt : QtText) (fromJson : QJsonParser)
    (hlimits : validLimits store.limits = true) (h : store.Readable) :
    ∃ loaded, store.loadAll qt fromJson none = .ok loaded := by
  unfold loadAll
  cases hcontents : store.contents with
  | none => exact ⟨_, rfl⟩
  | some contents =>
    have hlimits := of_decide_eq_true hlimits
    refine ⟨_, Checks.require_bind_eq_ok.mpr ⟨⟨?_, h contents hcontents⟩, rfl⟩⟩
    omega

theorem slice_eq {α : Type*} (rows : List α) (offset limit : Nat) :
    (rows.drop (min offset rows.length)).take
        (min rows.length (min offset rows.length + limit) - min offset rows.length) =
      (rows.drop offset).take limit := by
  by_cases hoffset : offset ≤ rows.length
  · rw [Nat.min_eq_left hoffset]
    by_cases hlimit : offset + limit ≤ rows.length
    · rw [Nat.min_eq_right hlimit, Nat.add_sub_cancel_left]
    · have hlimit := Nat.le_of_not_le hlimit
      rw [Nat.min_eq_left hlimit, List.take_of_length_le, List.take_of_length_le]
      · rw [List.length_drop]
        omega
      · rw [List.length_drop]
  · have hoffset := Nat.le_of_not_le hoffset
    rw [Nat.min_eq_right hoffset, List.drop_of_length_le hoffset,
      List.drop_of_length_le (Nat.le_refl _), List.take_nil, List.take_nil]

theorem not_separated_of_listsOnce (h : ListsOnce qt fromJson sort store now)
    (habsolute : store.pathIsAbsolute = true) (hlimits : validLimits store.limits = true)
    (hreadable : store.Readable) :
    ¬ Separated store.limits ((validRows qt fromJson store).filter (isFresh store.limits now)) := by
  obtain ⟨loaded, hloaded⟩ := loadAll_of_readable qt fromJson hlimits hreadable
  have hentries : 0 < store.limits.maximumEntries := (of_decide_eq_true hlimits).1
  obtain ⟨rows, hlisting, hrecords, -⟩ := h.page 0 store.limits.maximumEntries none _
    (page_eq_ok.mpr ⟨habsolute, ⟨hlimits, Int.le_refl 0, by omega, Int.le_refl _⟩, loaded, hloaded,
      rfl⟩)
  dsimp only at hrecords
  have hlength : (pruneRecords sort loaded.1 store.limits now).length ≤
      store.limits.maximumEntries := List.length_take_le _ _
  rw [slice_eq, Int.toNat_zero, List.drop_zero, List.drop_zero, Int.toNat_natCast,
    List.take_of_length_le hlength, List.take_of_length_le hlisting.count,
    validRows_of_loadAll qt fromJson hloaded] at hrecords
  rw [← hrecords] at hlisting
  exact listing_pruneRecords_iff.mp hlisting

/-- Pages and the compacted file list each transfer once, with its latest record, exactly if no
unexpired row is separated from a newer row of its transfer. -/
theorem listsOnce_iff (qt : QtText) (fromJson : QJsonParser) (sort : StdSort newestFirst)
    (store : TransferHistoryStore) (now : QDateTime) :
    ListsOnce qt fromJson sort store now ↔
      (store.pathIsAbsolute = true → validLimits store.limits = true → store.Readable →
        ¬ Separated store.limits
          ((validRows qt fromJson store).filter (isFresh store.limits now))) := by
  refine ⟨not_separated_of_listsOnce, fun h => ⟨?_, ?_⟩⟩
  · intro offset limit readFault page hpage
    obtain ⟨habsolute, ⟨hlimits, -⟩, loaded, hloaded, rfl⟩ := page_eq_ok.mp hpage
    refine ⟨pruneRecords sort loaded.1 store.limits now, ?_, slice_eq _ _ _, rfl⟩
    rw [validRows_of_loadAll qt fromJson hloaded]
    exact listing_pruneRecords_iff.mpr (h habsolute hlimits (readable_of_loadAll hloaded))
  · intro readFault writeFault compacted hcompact
    obtain ⟨habsolute, hlimits, hnone | ⟨loaded, hloaded, hwritten⟩⟩ := compact_eq_ok hcompact
    · exact .inl hnone
    · obtain ⟨contents, hcontents, rfl⟩ := writeAll_eq_ok hwritten
      refine .inr ⟨pruneRecords sort loaded.1 store.limits now, ?_, hcontents⟩
      rw [validRows_of_loadAll qt fromJson hloaded]
      exact listing_pruneRecords_iff.mpr (h habsolute hlimits (readable_of_loadAll hloaded))

def rowObject (record : TransferHistoryRecord) : QJsonObject :=
  [("completedRelativePath", .string record.completedRelativePath),
    ("direction", .string (directionName record.direction)),
    ("displayName", .string record.displayName),
    ("errorCode", .number (some record.errorCode.toNat)),
    ("fileCount", .number (some record.fileCount)),
    ("finishedAtMs", .number (some record.finishedUtc.toMSecsSinceEpoch)),
    ("peerDeviceId", .string record.peerDeviceId.toString),
    ("peerDisplayName", .string record.peerDisplayName),
    ("schemaVersion", .number (some kTransferHistorySchemaVersion)),
    ("startedAtMs", .number (some record.startedUtc.toMSecsSinceEpoch)),
    ("status", .string (statusName record.status)),
    ("topLevelTargetRelativePath", .string record.topLevelTargetRelativePath),
    ("totalBytes", .number (some record.totalBytes)),
    ("transferId", .string record.transferId.toString)].map
      fun entry => (QString.literal entry.1, entry.2)

def rowParser (rows : List TransferHistoryRecord) : QJsonParser := fun line =>
  (rows.find? fun record => encodeRecord record = line).map rowObject

theorem newestFirst_total (left right : TransferHistoryRecord) :
    newestFirst right left = false ∨ newestFirst left right = false := by
  by_contra hnot
  rw [not_or, Bool.not_eq_false, Bool.not_eq_false] at hnot
  have hself := newestFirst_trans hnot.1 hnot.2
  rw [newestFirst_irrefl] at hself
  cases hself

theorem not_newestFirst_trans (hfirst : newestFirst second first = false)
    (hsecond : newestFirst third second = false) :
    newestFirst third first = false := by
  rw [← Bool.not_eq_true, newestFirst_iff, not_or, not_and] at hfirst hsecond ⊢
  refine ⟨by omega, fun htime hid => ?_⟩
  have hleft := hfirst.2 (by omega)
  have hright := hsecond.2 (by omega)
  exact List.le_trans hleft hright hid

def insertionRows : StdSort newestFirst where
  sort := List.insertionSort fun left right => newestFirst right left = false
  perm := List.perm_insertionSort _
  sorted records := by
    have htotal : Std.Total fun left right => newestFirst right left = false :=
      ⟨newestFirst_total⟩
    have htrans : IsTrans TransferHistoryRecord fun left right => newestFirst right left = false :=
      ⟨fun _ _ _ => not_newestFirst_trans⟩
    exact List.pairwise_insertionSort _ records

def sampleRow (transferId : TransferId) (finishedMs : Int) : TransferHistoryRecord where
  transferId
  peerDeviceId := ⟨1, one_nonNull⟩
  peerDisplayName := []
  displayName := QString.literal "notes.txt"
  startedUtc := ⟨some 1⟩
  finishedUtc := ⟨some finishedMs⟩
  completedRelativePath := []
  topLevelTargetRelativePath := []

def interleavedRows : List TransferHistoryRecord :=
  [sampleRow ⟨1, one_nonNull⟩ 4, sampleRow ⟨2, two_nonNull⟩ 3, sampleRow ⟨1, one_nonNull⟩ 2]

def interleavedStore : TransferHistoryStore where
  contents := some (interleavedRows.flatMap fun record => encodeRecord record ++ [0x0a])

theorem validRows_interleavedStore :
    validRows QtText.ascii (rowParser interleavedRows) interleavedStore = interleavedRows := by
  decide +kernel

theorem interleavedStore_listed_twice :
    ¬ ListsOnce QtText.ascii (rowParser interleavedRows) insertionRows interleavedStore
      ⟨some 5⟩ := by
  intro h
  refine not_separated_of_listsOnce h rfl rfl ?_ ?_
  · intro contents hcontents
    cases hcontents
    decide +kernel
  · rw [validRows_interleavedStore]
    decide +kernel

end DeskflowPlus.Transfer.TransferHistoryStore
