import DeskflowPlus.Model.RowOrder

/-!
# The rows and the last snapshots

Over every run of upserts, removals and flushes, a transfer's row shows the last snapshot that was
accepted for it, or that snapshot is held back and differs from what is shown only in the progress.
What is held back is never older than what is shown.
-/

namespace DeskflowPlus.Model

open Transfer

namespace TransferCenterModel

variable {model : TransferCenterModel} {entry : Entry} {id transferId : TransferId} {now : Int}
  {snapshot : TransferSnapshot}

theorem upsertEntry_pendingEntries (entry : Entry) (model : TransferCenterModel) :
    (model.upsertEntry entry).pendingEntries = model.pendingEntries := by
  unfold upsertEntry
  dsimp only
  split
  · rfl
  · split
    · rfl
    · split
      · rfl
      · rfl

theorem upsertEntry_lastPublishedMs (entry : Entry) (model : TransferCenterModel) :
    (model.upsertEntry entry).lastPublishedMs = model.lastPublishedMs := by
  unfold upsertEntry
  dsimp only
  split
  · rfl
  · split
    · rfl
    · split
      · rfl
      · rfl

theorem removePending_pending (transferId id : TransferId) (model : TransferCenterModel) :
    (model.removePending transferId).pending id =
      if id = transferId then none else model.pending id := by
  show (model.pendingEntries.filter (·.snapshot.id ≠ transferId)).find? (·.snapshot.id = id) = _
  rw [List.find?_filter]
  split
  · rename_i heq
    subst heq
    exact List.find?_eq_none.mpr fun entry _ => by simp
  · rename_i hne
    refine congrArg (fun test => model.pendingEntries.find? test) (funext fun entry => ?_)
    by_cases hid : entry.snapshot.id = id
    · simp [hid, hne]
    · simp [hid]

theorem insertPending_pending (entry : Entry) (id : TransferId) (model : TransferCenterModel) :
    (model.insertPending entry).pending id =
      if id = entry.snapshot.id then some entry else model.pending id := by
  show (entry :: (model.removePending entry.snapshot.id).pendingEntries).find?
    (·.snapshot.id = id) = _
  rw [List.find?_cons]
  split
  · rename_i hid
    rw [if_pos (of_decide_eq_true hid).symm]
  · rename_i hid
    have hne : id ≠ entry.snapshot.id := fun heq => of_decide_eq_false hid heq.symm
    rw [if_neg hne]
    exact (removePending_pending entry.snapshot.id id model).trans (if_neg hne)

def published (entry : Entry) (now : Int) (model : TransferCenterModel) : TransferCenterModel :=
  ((model.removePending entry.snapshot.id).upsertEntry entry).publishedAt entry.snapshot.id now

theorem published_pending (entry : Entry) (now : Int) (id : TransferId)
    (model : TransferCenterModel) :
    (model.published entry now).pending id =
      if id = entry.snapshot.id then none else model.pending id := by
  rw [← removePending_pending]
  exact congrArg (List.find? (·.snapshot.id = id)) (upsertEntry_pendingEntries _ _)

theorem published_heldBack (hne : id ≠ entry.snapshot.id) :
    (model.published entry now).heldBack id now = model.heldBack id now := by
  have hlast : (model.published entry now).lastPublishedMs id = model.lastPublishedMs id := by
    show Function.update _ _ _ id = _
    rw [Function.update_of_ne hne, upsertEntry_lastPublishedMs]
    rfl
  unfold heldBack
  rw [hlast]

theorem Ordered.published (entry : Entry) (now : Int) (h : Ordered model.entries) :
    Ordered (model.published entry now).entries := by
  have hremoved : Ordered (model.removePending entry.snapshot.id).entries := h
  exact hremoved.upsertEntry entry

theorem mem_published {other : Entry} (h : Ordered model.entries) :
    other ∈ (model.published entry now).entries ↔
      other = entry ∨ other ∈ model.entries ∧ other.snapshot.id ≠ entry.snapshot.id := by
  have hremoved : Ordered (model.removePending entry.snapshot.id).entries := h
  exact mem_upsertEntry hremoved

theorem removePending_eq_self (h : model.pending id = none) : model.removePending id = model := by
  have hfilter : model.pendingEntries.filter (·.snapshot.id ≠ id) = model.pendingEntries := by
    refine List.filter_eq_self.mpr fun entry hentry => ?_
    have hne := List.find?_eq_none.mp h entry hentry
    simpa using hne
  unfold removePending
  rw [hfilter]

theorem id_of_pending (h : model.pending id = some entry) : entry.snapshot.id = id :=
  of_decide_eq_true (List.find?_some (p := fun entry : Entry => entry.snapshot.id = id) h)

theorem flushEntry_cases (now : Int) (id : TransferId) (model : TransferCenterModel) :
    (model.flushEntry now id = model ∧ (model.heldBack id now = true ∨ model.pending id = none)) ∨
      ∃ entry, model.pending id = some entry ∧ model.heldBack id now = false ∧
        model.flushEntry now id = model.published entry now := by
  cases hheld : model.heldBack id now with
  | true => exact .inl ⟨if_pos hheld, .inl rfl⟩
  | false =>
    unfold flushEntry
    rw [hheld]
    cases hentry : model.pending id with
    | none => exact .inl ⟨rfl, .inr rfl⟩
    | some entry =>
      obtain rfl := id_of_pending hentry
      exact .inr ⟨entry, rfl, rfl, rfl⟩

def Shows (model : TransferCenterModel) (entry : Entry) (snapshot : TransferSnapshot) : Prop :=
  entry = { snapshot } ∧ model.pending snapshot.id = none ∨
    model.pending snapshot.id = some { snapshot } ∧
      isProgressOnlyChange entry.snapshot snapshot = true

structure Fresh (upserted : TransferId → Option TransferSnapshot) (model : TransferCenterModel) :
    Prop where
  ordered : Ordered model.entries
  keyed : ∀ {id snapshot}, upserted id = some snapshot → snapshot.id = id
  shown : ∀ {id snapshot}, upserted id = some snapshot →
    ∃ entry ∈ model.entries, entry.snapshot.id = id ∧ model.Shows entry snapshot
  newest : ∀ {id entry}, model.pending id = some entry →
    entry.history = none ∧ upserted id = some entry.snapshot
  live : ∀ entry ∈ model.entries, entry.history = none → (upserted entry.snapshot.id).isSome

namespace Fresh

variable {upserted : TransferId → Option TransferSnapshot}

variable {other : TransferCenterModel} {last : Option TransferSnapshot}

theorem update (h : Fresh upserted model) (hordered : Ordered other.entries)
    (hrows : ∀ entry, entry.snapshot.id ≠ transferId →
      (entry ∈ other.entries ↔ entry ∈ model.entries))
    (hpending : ∀ id, id ≠ transferId → other.pending id = model.pending id)
    (hshown : ∀ snapshot, last = some snapshot → snapshot.id = transferId ∧
      ∃ entry ∈ other.entries, entry.snapshot.id = transferId ∧ other.Shows entry snapshot)
    (hnewest : ∀ entry, other.pending transferId = some entry →
      entry.history = none ∧ last = some entry.snapshot)
    (hlive : ∀ entry ∈ other.entries, entry.snapshot.id = transferId → last.isSome) :
    Fresh (Function.update upserted transferId last) other where
  ordered := hordered
  keyed := by
    intro id snapshot hsnapshot
    by_cases hid : id = transferId
    · subst hid
      rw [Function.update_self] at hsnapshot
      exact (hshown snapshot hsnapshot).1
    · rw [Function.update_of_ne hid] at hsnapshot
      exact h.keyed hsnapshot
  shown := by
    intro id snapshot hsnapshot
    by_cases hid : id = transferId
    · subst hid
      rw [Function.update_self] at hsnapshot
      exact (hshown snapshot hsnapshot).2
    · rw [Function.update_of_ne hid] at hsnapshot
      obtain ⟨entry, hentry, hrow, hshows⟩ := h.shown hsnapshot
      refine ⟨entry, (hrows entry (hrow.symm ▸ hid)).mpr hentry, hrow, ?_⟩
      unfold Shows at hshows ⊢
      rw [h.keyed hsnapshot] at hshows ⊢
      rw [hpending id hid]
      exact hshows
  newest := by
    intro id entry hentry
    by_cases hid : id = transferId
    · subst hid
      rw [Function.update_self]
      exact hnewest entry hentry
    · rw [hpending id hid] at hentry
      rw [Function.update_of_ne hid]
      exact h.newest hentry
  live := by
    intro entry hentry hhistory
    by_cases hid : entry.snapshot.id = transferId
    · rw [hid, Function.update_self]
      exact hlive entry hentry hid
    · rw [Function.update_of_ne hid]
      exact h.live entry ((hrows entry hid).mp hentry) hhistory

theorem published (h : Fresh upserted model) (snapshot : TransferSnapshot) (now : Int) :
    Fresh (Function.update upserted snapshot.id (some snapshot))
      (model.published { snapshot } now) := by
  have hpending (id : TransferId) := published_pending { snapshot } now id model
  refine h.update (h.ordered.published { snapshot } now) (fun entry hid => ?_)
    (fun id hid => (hpending id).trans (if_neg hid)) ?_ (fun entry hentry => ?_) fun _ _ _ => rfl
  · rw [mem_published h.ordered]
    refine ⟨?_, fun hentry => .inr ⟨hentry, hid⟩⟩
    rintro (rfl | ⟨hentry, -⟩)
    · exact absurd rfl hid
    · exact hentry
  · rintro _ ⟨⟩
    refine ⟨rfl, { snapshot }, (mem_published h.ordered).mpr (.inl rfl), rfl, .inl ⟨rfl, ?_⟩⟩
    exact (hpending snapshot.id).trans (if_pos rfl)
  · rw [hpending, if_pos rfl] at hentry
    cases hentry

theorem insertPending (h : Fresh upserted model) {current : Entry}
    (hcurrent : current ∈ model.entries) (hid : current.snapshot.id = snapshot.id)
    (hprogress : isProgressOnlyChange current.snapshot snapshot = true) :
    Fresh (Function.update upserted snapshot.id (some snapshot))
      (model.insertPending { snapshot }) := by
  have hpending (id : TransferId) := insertPending_pending { snapshot } id model
  refine h.update h.ordered (fun entry _ => Iff.rfl) (fun id hid => (hpending id).trans (if_neg hid))
    ?_ (fun entry hentry => ?_) fun _ _ _ => rfl
  · rintro _ ⟨⟩
    refine ⟨rfl, current, hcurrent, hid, .inr ⟨?_, hprogress⟩⟩
    exact (hpending snapshot.id).trans (if_pos rfl)
  · rw [hpending, if_pos rfl] at hentry
    cases hentry
    exact ⟨rfl, rfl⟩

theorem pending_eq_none (h : Fresh upserted model)
    (hnone : ∀ entry ∈ model.entries, entry.snapshot.id ≠ id) : model.pending id = none := by
  by_contra hsome
  obtain ⟨entry, hentry⟩ := Option.ne_none_iff_exists'.mp hsome
  obtain ⟨row, hmem, hid, -⟩ := h.shown (h.newest hentry).2
  exact hnone row hmem hid

theorem upsertTransfer (h : Fresh upserted model) (snapshot : TransferSnapshot) (now : Int) :
    Fresh (lastUpserted upserted (.upsert snapshot now)) (model.upsertTransfer snapshot now).2 := by
  unfold lastUpserted TransferCenterModel.upsertTransfer
  by_cases hvalid : validSnapshot snapshot = true
  · rw [if_neg (not_not.mpr hvalid)]
    dsimp only
    rw [if_pos hvalid]
    cases hrow : indexOf snapshot.id model.entries with
    | none =>
      have hnothing := h.pending_eq_none (indexOf_eq_none.mp hrow)
      have hpublished := h.published snapshot now
      unfold TransferCenterModel.published at hpublished
      rw [removePending_eq_self hnothing] at hpublished
      exact hpublished
    | some row =>
      obtain ⟨before, current, after, hentries, rfl, hid⟩ := split_of_indexOf hrow
      have hget : model.entries[before.length]? = some current := by
        rw [hentries, SortedRows.getElem?_append_length]
      dsimp only
      rw [hget]
      split
      · rename_i hheld
        refine h.insertPending ?_ hid (Bool.and_eq_true_iff.mp hheld).1
        rw [hentries]
        exact List.mem_append_right _ List.mem_cons_self
      · exact h.published snapshot now
  · rw [if_pos hvalid]
    dsimp only
    rw [if_neg hvalid]
    exact h

theorem removeTransfer (h : Fresh upserted model) (transferId : TransferId) :
    Fresh (lastUpserted upserted (.remove transferId)) (model.removeTransfer transferId).2 := by
  have hpending (id : TransferId) : (model.removeTransfer transferId).2.pending id =
      if id = transferId then none else model.pending id := by
    obtain ⟨heq, hnone⟩ | ⟨others, row, -, -, heq⟩ := removeTransfer_cases transferId h.ordered
    · rw [heq]
      split
      · rename_i hid
        exact h.pending_eq_none (hid.symm ▸ hnone)
      · rfl
    · rw [heq]
      exact removePending_pending transferId id model
  show Fresh (Function.update upserted transferId none) _
  refine h.update (h.ordered.removeTransfer transferId) (fun entry hid => ?_)
    (fun id hid => (hpending id).trans (if_neg hid)) (fun _ hlast => ?_) (fun entry hentry => ?_)
    fun entry hentry hid => ?_
  · rw [mem_removeTransfer h.ordered]
    exact ⟨And.left, fun hentry => ⟨hentry, hid⟩⟩
  · cases hlast
  · rw [hpending, if_pos rfl] at hentry
    cases hentry
  · exact absurd hid ((mem_removeTransfer h.ordered).mp hentry).2

theorem flushEntry (h : Fresh upserted model) (now : Int) (id : TransferId) :
    Fresh upserted (model.flushEntry now id) := by
  obtain ⟨heq, -⟩ | ⟨entry, hentry, -, heq⟩ := flushEntry_cases now id model
  · rw [heq]
    exact h
  · rw [heq]
    obtain ⟨hhistory, hlast⟩ := h.newest hentry
    obtain rfl := h.keyed hlast
    obtain ⟨snapshot, history⟩ := entry
    obtain rfl : history = none := hhistory
    have hsame : Function.update upserted snapshot.id (some snapshot) = upserted :=
      Function.update_eq_self_iff.mpr hlast.symm
    exact hsame ▸ h.published snapshot now

theorem flushDueUpdates (h : Fresh upserted model) (now : Int) (order : HashOrder) :
    Fresh upserted (model.flushDueUpdates now order) := by
  unfold TransferCenterModel.flushDueUpdates
  generalize order.arrange (model.pendingEntries.map (·.snapshot.id)) = ids
  induction ids generalizing model with
  | nil => exact h
  | cons id ids ih => exact ih (h.flushEntry now id)

theorem step (h : Fresh upserted model) (call : ModelCall) :
    Fresh (lastUpserted upserted call) (model.step call) := by
  cases call with
  | upsert snapshot now => exact h.upsertTransfer snapshot now
  | remove transferId => exact h.removeTransfer transferId
  | flush now order => exact h.flushDueUpdates now order

theorem run (h : Fresh upserted model) (calls : List ModelCall) :
    Fresh (calls.foldl lastUpserted upserted) (model.run calls) := by
  induction calls generalizing upserted model with
  | nil => exact h
  | cons call calls ih => exact ih (h.step call)

end Fresh

theorem flushEntry_pending (now : Int) (id transferId : TransferId) (model : TransferCenterModel) :
    (model.flushEntry now transferId).pending id =
      if id = transferId ∧ model.heldBack id now = false then none else model.pending id := by
  obtain ⟨heq, hleft⟩ | ⟨entry, hentry, hdue, heq⟩ := flushEntry_cases now transferId model
  · rw [heq]
    split
    · rename_i hid
      obtain ⟨rfl, hdue⟩ := hid
      exact hleft.resolve_left (Bool.eq_false_iff.mp hdue)
    · rfl
  · rw [heq, published_pending, id_of_pending hentry]
    by_cases hid : id = transferId
    · rw [if_pos hid, if_pos ⟨hid, hid.symm ▸ hdue⟩]
    · rw [if_neg hid, if_neg fun h => hid h.1]

theorem flushEntry_heldBack (hne : id ≠ transferId) :
    (model.flushEntry now transferId).heldBack id now = model.heldBack id now := by
  obtain ⟨heq, -⟩ | ⟨entry, hentry, -, heq⟩ := flushEntry_cases now transferId model
  · rw [heq]
  · rw [heq, published_heldBack]
    exact (id_of_pending hentry).symm ▸ hne

theorem foldl_flushEntry_pending (ids : List TransferId) (model : TransferCenterModel) :
    (ids.foldl (flushEntry now) model).pending id =
      if id ∈ ids ∧ model.heldBack id now = false then none else model.pending id := by
  induction ids generalizing model with
  | nil => exact (if_neg fun h => List.not_mem_nil h.1).symm
  | cons first ids ih =>
    rw [List.foldl_cons, ih]
    by_cases hid : id = first
    · subst hid
      by_cases hdue : model.heldBack id now = false
      · have hgone : (model.flushEntry now id).pending id = none :=
          (flushEntry_pending now id id model).trans (if_pos ⟨rfl, hdue⟩)
        rw [hgone, ite_self, if_pos ⟨List.mem_cons_self, hdue⟩]
      · have hsame : model.flushEntry now id = model := if_pos (Bool.not_eq_false _ ▸ hdue)
        rw [hsame, if_neg fun h => hdue h.2, if_neg fun h => hdue h.2]
    · have hkept : (model.flushEntry now first).pending id = model.pending id :=
        (flushEntry_pending now id first model).trans (if_neg fun h => hid h.1)
      rw [flushEntry_heldBack hid, hkept]
      simp only [List.mem_cons, hid, false_or]

theorem flushDueUpdates_pending (now : Int) (order : HashOrder) (id : TransferId)
    (model : TransferCenterModel) :
    (model.flushDueUpdates now order).pending id =
      if model.heldBack id now then model.pending id else none := by
  unfold flushDueUpdates
  rw [foldl_flushEntry_pending]
  cases hheld : model.heldBack id now with
  | true => rw [if_neg fun h => Bool.noConfusion h.2, if_pos rfl]
  | false =>
    cases hentry : model.pending id with
    | none => simp only [ite_self]
    | some entry =>
      have hmem : id ∈ model.pendingEntries.map (·.snapshot.id) :=
        id_of_pending hentry ▸ List.mem_map_of_mem (List.mem_of_find?_eq_some hentry)
      rw [if_pos ⟨(order.perm _).mem_iff.mpr hmem, rfl⟩]
      rfl

theorem Fresh.flushed {upserted : TransferId → Option TransferSnapshot} {order : HashOrder}
    (h : Fresh upserted model) (hentry : entry ∈ (model.flushDueUpdates now order).entries)
    (hlive : entry.history = none) :
    ∃ snapshot, upserted entry.snapshot.id = some snapshot ∧
      (entry.snapshot = snapshot ∨
        model.heldBack snapshot.id now = true ∧
          (model.flushDueUpdates now order).pending snapshot.id = some { snapshot } ∧
          isProgressOnlyChange entry.snapshot snapshot = true) := by
  have hafter := h.flushDueUpdates now order
  obtain ⟨snapshot, hsnapshot⟩ := Option.isSome_iff_exists.mp (hafter.live entry hentry hlive)
  obtain ⟨row, hrow, hid, hshows⟩ := hafter.shown hsnapshot
  obtain rfl : row = entry := List.inj_on_of_nodup_map hafter.ordered.unique hrow hentry hid
  refine ⟨snapshot, hsnapshot, ?_⟩
  obtain ⟨rfl, -⟩ | ⟨hpending, hprogress⟩ := hshows
  · exact .inl rfl
  · refine .inr ⟨?_, hpending, hprogress⟩
    rw [flushDueUpdates_pending] at hpending
    by_contra hdue
    rw [if_neg hdue] at hpending
    cases hpending

def liveSnapshots (model : TransferCenterModel) (id : TransferId) : Option TransferSnapshot :=
  ((model.entries.filter (·.history.isNone)).find? (·.snapshot.id = id)).map (·.snapshot)

structure Settled (model : TransferCenterModel) : Prop where
  ordered : Ordered model.entries
  nothingPending : model.pendingEntries = []

theorem settled_empty : Settled {} where
  ordered := { unique := List.nodup_nil, sorted := List.Pairwise.nil }
  nothingPending := rfl

theorem liveSnapshots_eq_some (h : model.liveSnapshots id = some snapshot) :
    snapshot.id = id ∧ ({ snapshot } : Entry) ∈ model.entries := by
  obtain ⟨⟨shown, history⟩, hfind, rfl⟩ := Option.map_eq_some_iff.mp h
  obtain ⟨hmem, hlive⟩ := List.mem_filter.mp (List.mem_of_find?_eq_some hfind)
  obtain rfl : history = none := Option.isNone_iff_eq_none.mp hlive
  have hid := List.find?_some (p := fun entry : Entry => entry.snapshot.id = id) hfind
  exact ⟨of_decide_eq_true hid, hmem⟩

theorem Settled.pending_eq_none (h : Settled model) (id : TransferId) :
    model.pending id = none := by
  unfold pending
  rw [h.nothingPending]
  rfl

theorem Settled.fresh (h : Settled model) : Fresh model.liveSnapshots model where
  ordered := h.ordered
  keyed := fun hsnapshot => (liveSnapshots_eq_some hsnapshot).1
  shown := by
    intro id snapshot hsnapshot
    obtain ⟨hid, hmem⟩ := liveSnapshots_eq_some hsnapshot
    exact ⟨{ snapshot }, hmem, hid, .inl ⟨rfl, h.pending_eq_none _⟩⟩
  newest := by
    intro id entry hentry
    rw [h.pending_eq_none] at hentry
    cases hentry
  live := by
    intro entry hentry hlive
    have hmem : entry ∈ model.entries.filter (·.history.isNone) :=
      List.mem_filter.mpr ⟨hentry, hlive.symm ▸ rfl⟩
    unfold liveSnapshots
    rw [Option.isSome_map, List.find?_isSome]
    exact ⟨entry, hmem, decide_eq_true rfl⟩

/-- **Rows stay unique and sorted, and what a flush leaves behind was published a moment ago.** -/
theorem run_shows_last {start : TransferCenterModel} (hstart : Settled start)
    (calls : List ModelCall) :
    let model := start.run calls
    let upserted := calls.foldl lastUpserted start.liveSnapshots
    model.ids.Nodup ∧
    model.entries.Pairwise (fun left right => compare left right < 0) ∧
    (∀ id pending, model.pending id = some pending →
      pending.history = none ∧ upserted id = some pending.snapshot) ∧
    (∀ id snapshot, upserted id = some snapshot →
      ∃ entry ∈ model.entries, entry.snapshot.id = id ∧ model.Shows entry snapshot) ∧
    ∀ now order entry, entry ∈ (model.flushDueUpdates now order).entries → entry.history = none →
      ∃ snapshot, upserted entry.snapshot.id = some snapshot ∧
        (entry.snapshot = snapshot ∨
          model.heldBack snapshot.id now = true ∧
            (model.flushDueUpdates now order).pending snapshot.id = some { snapshot } ∧
            isProgressOnlyChange entry.snapshot snapshot = true) := by
  have hfresh := hstart.fresh.run calls
  refine ⟨hfresh.ordered.unique, ?_, fun id pending => hfresh.newest,
    fun id snapshot => hfresh.shown, fun now order entry => hfresh.flushed⟩
  exact hfresh.ordered.sorted.imp compare_lt_iff.mpr

def begunSnapshot : TransferSnapshot where
  id := ⟨1, one_nonNull⟩
  peerId := ⟨2, two_nonNull⟩
  peerDisplayName := []
  displayName := [97]
  state := .transferring
  progress := { totalBytes := 10, totalFiles := 1 }
  createdUtc := ⟨some 1⟩

def advancedSnapshot : TransferSnapshot :=
  { begunSnapshot with progress := { completedBytes := 5, totalBytes := 10, totalFiles := 1 } }

def progressCalls : List ModelCall := [.upsert begunSnapshot 0, .upsert advancedSnapshot 50]

theorem run_shows_last_progress :
    let model := ({} : TransferCenterModel).run progressCalls
    model.ids.Nodup ∧ ∃ entry ∈ model.entries,
      entry.snapshot.id = begunSnapshot.id ∧ model.Shows entry advancedSnapshot := by
  obtain ⟨hunique, -, -, hshown, -⟩ := run_shows_last settled_empty progressCalls
  exact ⟨hunique, hshown begunSnapshot.id advancedSnapshot (by decide)⟩

/-- The row was published 100 ms before, so the flush leaves the progress of 50 ms later pending. -/
theorem flush_shows_begun :
    ¬ ∀ (calls : List ModelCall) (now : Int) (order : HashOrder) (entry : Entry),
      entry ∈ ((({} : TransferCenterModel).run calls).flushDueUpdates now order).entries →
        entry.history = none →
          calls.foldl lastUpserted (fun _ => none) entry.snapshot.id = some entry.snapshot := by
  intro h
  have hlast := h progressCalls 100 { arrange := id, perm := fun ids => .refl ids }
    { snapshot := begunSnapshot } (by decide) rfl
  exact absurd hlast (by decide)

end TransferCenterModel

end DeskflowPlus.Model
