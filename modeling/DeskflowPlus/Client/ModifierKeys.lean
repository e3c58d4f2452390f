import DeskflowPlus.Client.KeyMapping
import DeskflowPlus.Lib.BitMask

/-!
# The keys of the modifiers

Once a key map is finished, its groups are counted and the keys that generate each modifier are listed.
-/

namespace DeskflowPlus

namespace KeyMap

variable {keyMap : KeyMap} {item : KeyItem}

theorem lt_of_modifier {bit : Nat} (hbit : bit < kKeyModifierNumBits) : bit < 32 :=
  Nat.lt_trans hbit (by decide)

theorem and_bitMask_eq_zero_iff {mask : KeyModifierMask} {bit : Nat}
    (hbit : bit < kKeyModifierNumBits) : mask &&& bitMask bit = 0 ↔ hasBit mask bit = false :=
  and_one_shiftLeft_eq_zero_iff (lt_of_modifier hbit)

theorem hasBit_of_and_bitMask_ne_zero {mask : KeyModifierMask} {bit : Nat}
    (hbit : bit < kKeyModifierNumBits) (h : mask &&& bitMask bit ≠ 0) : hasBit mask bit = true :=
  Bool.not_eq_false _ ▸ mt (and_bitMask_eq_zero_iff hbit).mpr h

theorem hasBit_bitMask {bit other : Nat} (hbit : bit < kKeyModifierNumBits) :
    hasBit (bitMask bit) other = decide (other = bit) :=
  hasBit_one_shiftLeft (lt_of_modifier hbit)

variable {id : KeyID}

theorem mem_items_update {change : KeyGroupTable → KeyGroupTable}
    {keyIDMap : List (KeyID × KeyGroupTable)} (h : item ∈ itemsOf (update id change keyIDMap)) :
    item ∈ itemsOf keyIDMap ∨
      ∃ table, (table = [] ∨ (id, table) ∈ keyIDMap) ∧ ∃ entries ∈ change table, item ∈ entries.flatten
    := by
  induction keyIDMap with
  | nil =>
    obtain ⟨key, hkey, entries, hentries, hitem⟩ := mem_itemsOf.mp h
    obtain rfl := List.mem_singleton.mp hkey
    exact .inr ⟨[], .inl rfl, entries, hentries, hitem⟩
  | cons entry rest ih =>
    have hkept (key : KeyID × KeyGroupTable) (hkey : key ∈ entry :: rest)
        (hitem : ∃ entries ∈ key.2, item ∈ entries.flatten) : item ∈ itemsOf (entry :: rest) :=
      mem_itemsOf.mpr ⟨key, hkey, hitem⟩
    obtain ⟨key, hkey, hitem⟩ := mem_itemsOf.mp h
    unfold update at hkey
    split_ifs at hkey with hsame hbefore
    · rcases List.mem_cons.mp hkey with rfl | hrest
      · exact .inr ⟨entry.2, .inr (hsame ▸ List.mem_cons_self), hitem⟩
      · exact .inl (hkept key (List.mem_cons_of_mem _ hrest) hitem)
    · rcases List.mem_cons.mp hkey with rfl | hrest
      · exact .inr ⟨[], .inl rfl, hitem⟩
      · exact .inl (hkept key hrest hitem)
    · rcases List.mem_cons.mp hkey with rfl | hrest
      · exact .inl (hkept _ List.mem_cons_self hitem)
      · rcases ih (mem_itemsOf.mpr ⟨key, hrest, hitem⟩) with hrest | ⟨table, htable, hitem⟩
        · obtain ⟨other, hother, hitem⟩ := mem_itemsOf.mp hrest
          exact .inl (hkept other (List.mem_cons_of_mem _ hother) hitem)
        · exact .inr ⟨table, htable.imp_right (List.mem_cons_of_mem _), hitem⟩

variable {numGroups : Nat} {table : KeyGroupTable}

theorem mem_of_mem_resize {entries : KeyEntryList} (h : entries ∈ resize numGroups table) :
    entries = [] ∨ entries ∈ table := by
  rcases List.mem_append.mp h with h | h
  · exact .inr h
  · exact .inl (List.eq_of_mem_replicate h)

theorem mem_items_resize (h : item ∈ (keyMap.change id (resize numGroups) extends_resize).items) :
    item ∈ keyMap.items := by
  rcases mem_items_update h with h | ⟨table, htable, entries, hentries, hitem⟩
  · exact h
  rcases mem_of_mem_resize hentries with rfl | hmem
  · cases hitem
  · rcases htable with rfl | hlisted
    · cases hmem
    · exact mem_itemsOf.mpr ⟨_, hlisted, entries, hmem, hitem⟩

theorem mem_items_pushEntry {group : Nat} {entry : KeyItemList}
    (h : item ∈ (keyMap.change id (pushEntry group entry) extends_pushEntry).items) :
    item ∈ keyMap.items ∨ item ∈ entry := by
  rcases mem_items_update h with h | ⟨table, htable, entries, hentries, hitem⟩
  · exact .inl h
  obtain ⟨index, hindex, rfl⟩ := List.getElem_of_mem hentries
  simp only [pushEntry, List.getElem_modify] at hitem
  have hbound : index < table.length := by simpa [pushEntry] using hindex
  have hold (hmem : item ∈ (table[index]).flatten) : item ∈ keyMap.items := by
    rcases htable with rfl | hlisted
    · exact absurd hbound (Nat.not_lt_zero _)
    · exact mem_itemsOf.mpr ⟨_, hlisted, _, List.getElem_mem hbound, hmem⟩
  split_ifs at hitem
  · rw [List.flatten_append, List.mem_append] at hitem
    rcases hitem with hmem | hnew
    · exact .inl (hold hmem)
    · exact .inr (by simpa using hnew)
  · exact .inl (hold hitem)

theorem mem_of_lookup {keyIDMap : List (KeyID × KeyGroupTable)} {key : KeyID}
    (h : keyIDMap.lookup key = some table) : (key, table) ∈ keyIDMap := by
  obtain ⟨before, after, rfl, -⟩ := List.lookup_eq_some_iff.mp h
  exact List.mem_append_right _ List.mem_cons_self

structure WellFormed (keyMap : KeyMap) : Prop where
  group_lt : ∀ item ∈ keyMap.items, item.group < keyMap.numGroups
  generates : ∀ group bit, bit < kKeyModifierNumBits →
    ∀ item ∈ keyMap.modifierKeys.getD (group * kKeyModifierNumBits + bit) [],
      hasBit item.generates bit = true

def Collected (keyMap : KeyMap) : Prop :=
  ∀ item ∈ keyMap.items, ∃ key ∈ keyMap.keyIDMap, item.group < key.2.length

theorem le_foldl_max {bounds : List Nat} {bound first : Nat} (h : bound ≤ first ∨ bound ∈ bounds) :
    bound ≤ bounds.foldl max first := by
  induction bounds generalizing first with
  | nil =>
    rcases h with h | h
    · exact h
    · cases h
  | cons next rest ih =>
    refine ih ?_
    rcases h with h | h
    · exact .inl (Nat.le_trans h (Nat.le_max_left _ _))
    rcases List.mem_cons.mp h with rfl | h
    · exact .inl (Nat.le_max_right _ _)
    · exact .inr h

theorem le_findNumGroups {key : KeyID × KeyGroupTable} (h : key ∈ keyMap.keyIDMap) :
    key.2.length ≤ keyMap.findNumGroups :=
  le_foldl_max (.inr (List.mem_map_of_mem h))

theorem mem_items_finish (h : item ∈ keyMap.finish.items) : item ∈ keyMap.items := by
  obtain ⟨key, hkey, entries, hentries, hitem⟩ := mem_itemsOf.mp h
  obtain ⟨old, hold, rfl⟩ := List.mem_map.mp hkey
  rcases mem_of_mem_resize hentries with rfl | hmem
  · cases hitem
  · exact mem_itemsOf.mpr ⟨old, hold, entries, hmem, hitem⟩

def ModifiersGenerate (keyMap : KeyMap) : Prop :=
  ∀ group bit, bit < kKeyModifierNumBits →
    ∀ item ∈ keyMap.modifierKeys.getD (group * kKeyModifierNumBits + bit) [],
      hasBit item.generates bit = true

theorem modifiersGenerate_finish : ModifiersGenerate keyMap.finish := by
  intro group bit hbit item hitem
  unfold finish at hitem
  dsimp only at hitem
  rw [List.getD_eq_getElem?_getD, List.getElem?_map] at hitem
  by_cases hbound : group * kKeyModifierNumBits + bit < keyMap.findNumGroups * kKeyModifierNumBits
  · rw [List.getElem?_range hbound] at hitem
    have hindex : (group * kKeyModifierNumBits + bit) % kKeyModifierNumBits = bit := by
      rw [Nat.mul_add_mod', Nat.mod_eq_of_lt hbit]
    have hlisted : item ∈ modifierKeysOf _ _ _ := hitem
    rw [hindex] at hlisted
    obtain ⟨key, -, hitem⟩ := List.mem_flatMap.mp hlisted
    obtain ⟨entry, -, hfound⟩ := List.mem_filterMap.mp hitem
    split at hfound
    · split_ifs at hfound with hgenerates
      obtain rfl := Option.some.inj hfound
      rw [UInt32.and_comm] at hgenerates
      exact hasBit_of_and_bitMask_ne_zero hbit hgenerates
    · cases hfound
  · rw [List.getElem?_eq_none (by simpa using hbound)] at hitem
    cases hitem

theorem wellFormed_finish (h : Collected keyMap) : WellFormed keyMap.finish where
  group_lt item hitem := by
    obtain ⟨key, hkey, hgroup⟩ := h item (mem_items_finish hitem)
    exact Nat.lt_of_lt_of_le hgroup (le_findNumGroups hkey)
  generates := modifiersGenerate_finish

theorem exists_of_mem_update {id : KeyID} {change : KeyGroupTable → KeyGroupTable}
    (hgrows : ∀ table, table.length ≤ (change table).length)
    {keyIDMap : List (KeyID × KeyGroupTable)} {key : KeyID × KeyGroupTable} (h : key ∈ keyIDMap) :
    ∃ later ∈ update id change keyIDMap, key.2.length ≤ later.2.length := by
  induction keyIDMap with
  | nil => cases h
  | cons entry rest ih =>
    unfold update
    split_ifs
    · rcases List.mem_cons.mp h with rfl | h
      · exact ⟨_, List.mem_cons_self, hgrows _⟩
      · exact ⟨key, List.mem_cons_of_mem _ h, Nat.le_refl _⟩
    · exact ⟨key, List.mem_cons_of_mem _ h, Nat.le_refl _⟩
    · rcases List.mem_cons.mp h with rfl | h
      · exact ⟨key, List.mem_cons_self, Nat.le_refl _⟩
      · obtain ⟨later, hlater, hle⟩ := ih h
        exact ⟨later, List.mem_cons_of_mem _ hlater, hle⟩

theorem exists_changed_mem_update {id : KeyID} {change : KeyGroupTable → KeyGroupTable}
    {keyIDMap : List (KeyID × KeyGroupTable)} :
    ∃ later ∈ update id change keyIDMap, ∃ table, later.2 = change table := by
  induction keyIDMap with
  | nil => exact ⟨_, List.mem_cons_self, [], rfl⟩
  | cons entry rest ih =>
    unfold update
    split_ifs
    · exact ⟨_, List.mem_cons_self, entry.2, rfl⟩
    · exact ⟨_, List.mem_cons_self, [], rfl⟩
    · obtain ⟨later, hlater, htable⟩ := ih
      exact ⟨later, List.mem_cons_of_mem _ hlater, htable⟩

theorem length_resize_ge :
    table.length ≤ (resize numGroups table).length ∧ numGroups ≤ (resize numGroups table).length := by
  unfold resize
  rw [List.length_append, List.length_replicate]
  omega

theorem length_pushEntry {group : Nat} {entry : KeyItemList} :
    table.length ≤ (pushEntry group entry table).length := by
  unfold pushEntry
  exact Nat.le_of_eq (List.length_modify ..).symm

theorem collected_empty : Collected empty := fun _ hitem => nomatch hitem

theorem Collected.change (h : Collected keyMap) {change : KeyGroupTable → KeyGroupTable}
    (hgrows : ∀ table, table.length ≤ (change table).length) (hitem : item ∈ keyMap.items) :
    ∃ key ∈ update id change keyMap.keyIDMap, item.group < key.2.length := by
  obtain ⟨key, hkey, hgroup⟩ := h item hitem
  obtain ⟨later, hlater, hle⟩ := exists_of_mem_update hgrows hkey
  exact ⟨later, hlater, Nat.lt_of_lt_of_le hgroup hle⟩

theorem Collected.enlarged (h : Collected keyMap) :
    Collected (keyMap.change id (resize numGroups) extends_resize) :=
  fun _ hitem => h.change (fun _ => length_resize_ge.1) (mem_items_resize hitem)

theorem Collected.addKeyEntry (h : Collected keyMap) {added : KeyItem} :
    Collected (keyMap.addKeyEntry added) := by
  unfold KeyMap.addKeyEntry
  split_ifs
  · exact h
  extract_lets numGroups resized newItem table
  have hresized : ∃ key ∈ resized.keyIDMap, added.group < key.2.length := by
    obtain ⟨key, hkey, table, htable⟩ :=
      @exists_changed_mem_update added.id (resize numGroups) keyMap.keyIDMap
    refine ⟨key, hkey, ?_⟩
    rw [htable]
    exact Nat.lt_of_lt_of_le (Nat.le_max_right _ _) length_resize_ge.2
  have hcollected : Collected resized := h.enlarged
  split_ifs
  · exact hcollected
  · intro item hitem
    rcases mem_items_pushEntry hitem with hitem | hnew
    · exact hcollected.change (fun _ => length_pushEntry) hitem
    · obtain ⟨key, hkey, hgroup⟩ := hresized
      obtain ⟨later, hlater, hle⟩ := @exists_of_mem_update added.id
        (pushEntry added.group [newItem]) (fun _ => length_pushEntry) _ _ hkey
      rw [List.mem_singleton.mp hnew]
      exact ⟨later, hlater, Nat.lt_of_lt_of_le hgroup hle⟩

end KeyMap

end DeskflowPlus
