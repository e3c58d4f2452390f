import Mathlib.Data.List.Perm.Basic
import Mathlib.Data.List.Nodup
import DeskflowPlus.Server.InputFilter
import DeskflowPlus.Server.Server

/-!
# Registered hotkeys

A hotkey is outstanding from the call that registers it to the call that takes its identifier back.
The conditions of a filter match a client's outstanding hotkeys when each identifier stands on both
sides equally often and no call took back what was not outstanding.
-/

namespace DeskflowPlus.Server

/-- The hotkeys registered and not taken back, those with identifier 0 refused; and the identifiers
that were taken back without being outstanding. -/
structure HotKeyTable where
  outstanding : List HotKey := []
  strays : List UInt32 := []

namespace HotKeyTable

def record (table : HotKeyTable) : HotKeyCall → HotKeyTable
  | .registerHotKey key mask id =>
    { table with outstanding := table.outstanding ++ [⟨id, key, mask⟩] }
  | .unregisterHotKey id =>
    if id ∈ table.outstanding.map HotKey.id then
      { table with outstanding := table.outstanding.eraseP (·.id = id) }
    else { table with strays := table.strays ++ [id] }

end HotKeyTable

def hotKeyTable (calls : List HotKeyCall) : HotKeyTable :=
  calls.foldl HotKeyTable.record {}

def outstanding (calls : List HotKeyCall) : List HotKey := (hotKeyTable calls).outstanding

def strays (calls : List HotKeyCall) : List UInt32 := (hotKeyTable calls).strays

/-- The identifiers that tell hotkeys apart: those of hotkeys that were not refused. -/
def liveIds (hotKeys : List HotKey) : List UInt32 :=
  (hotKeys.map HotKey.id).filter (· ≠ 0)

theorem liveIds_cons {hotKey : HotKey} {hotKeys : List HotKey} (h : hotKey.id ≠ 0) :
    liveIds (hotKey :: hotKeys) = hotKey.id :: liveIds hotKeys :=
  List.filter_cons_of_pos (decide_eq_true h)

/-- A screen refuses a hotkey, or tells it from every other one that is outstanding. -/
def HotKeyScreen.Fresh (screen : HotKeyScreen) : Prop :=
  ∀ calls key mask, screen calls key mask = 0 ∨
    screen calls key mask ∉ (outstanding calls).map HotKey.id

section Calls

variable {calls : List HotKeyCall} {key : KeyID} {mask : KeyModifierMask} {id : UInt32}

theorem hotKeyTable_append (call : HotKeyCall) :
    hotKeyTable (calls ++ [call]) = (hotKeyTable calls).record call := by
  unfold hotKeyTable
  rw [List.foldl_append]
  rfl

theorem outstanding_register :
    outstanding (calls ++ [.registerHotKey key mask id]) =
      outstanding calls ++ [⟨id, key, mask⟩] := by
  unfold outstanding
  rw [hotKeyTable_append]
  rfl

theorem strays_register : strays (calls ++ [.registerHotKey key mask id]) = strays calls := by
  unfold strays
  rw [hotKeyTable_append]
  rfl

theorem outstanding_unregister :
    outstanding (calls ++ [.unregisterHotKey id]) = (outstanding calls).eraseP (·.id = id) := by
  unfold outstanding
  rw [hotKeyTable_append]
  unfold HotKeyTable.record
  dsimp only
  split
  · rfl
  · rename_i habsent
    exact (List.eraseP_of_forall_not fun hotKey hmem heq =>
      habsent (List.mem_map.mpr ⟨hotKey, hmem, of_decide_eq_true heq⟩)).symm

theorem strays_unregister (h : id ∈ (outstanding calls).map HotKey.id) :
    strays (calls ++ [.unregisterHotKey id]) = strays calls := by
  unfold strays
  rw [hotKeyTable_append]
  unfold HotKeyTable.record
  dsimp only
  split
  · rfl
  · rename_i habsent
    exact absurd h habsent

theorem ids_unregister :
    (outstanding (calls ++ [.unregisterHotKey id])).map HotKey.id =
      ((outstanding calls).map HotKey.id).erase id := by
  rw [outstanding_unregister, List.erase_eq_eraseP', List.eraseP_map]
  congr 2

end Calls

/-- The hotkeys of conditions and those outstanding at a client. -/
structure Matches (hotKeys : List HotKey) (calls : List HotKeyCall) : Prop where
  ids : (hotKeys.map HotKey.id).Perm ((outstanding calls).map HotKey.id)
  held : ∀ hotKey ∈ hotKeys, hotKey.id ≠ 0 → hotKey ∈ outstanding calls
  strays : strays calls = []
  distinct : (liveIds (outstanding calls)).Nodup

namespace Matches

variable {hotKeys before after : List HotKey} {calls : List HotKeyCall} {hotKey : HotKey}

theorem liveIds_nodup (h : Matches hotKeys calls) : (liveIds hotKeys).Nodup :=
  (h.ids.filter _).nodup_iff.mpr h.distinct

theorem register (h : Matches hotKeys calls)
    (hfresh : hotKey.id = 0 ∨ hotKey.id ∉ (outstanding calls).map HotKey.id) :
    Matches (hotKeys ++ [hotKey])
      (calls ++ [.registerHotKey hotKey.key hotKey.mask hotKey.id]) := by
  constructor
  · rw [outstanding_register, List.map_append, List.map_append]
    exact h.ids.append_right _
  · intro other hother hlive
    rw [outstanding_register]
    obtain hold | hnew := List.mem_append.mp hother
    · exact List.mem_append_left _ (h.held other hold hlive)
    · exact List.mem_append_right _ hnew
  · exact strays_register.trans h.strays
  · unfold liveIds
    rw [outstanding_register, List.map_append, List.filter_append]
    refine List.nodup_append.mpr ⟨h.distinct, ?_, ?_⟩
    · exact (List.nodup_singleton _).filter _
    · intro id hid other hother heq
      obtain ⟨hmem, hnonzero⟩ := List.mem_filter.mp hother
      rw [List.mem_singleton.mp hmem] at heq hnonzero
      obtain hzero | habsent := hfresh
      · exact of_decide_eq_true hnonzero hzero
      · exact habsent (heq ▸ (List.mem_filter.mp hid).1)

theorem unregister (h : Matches (before ++ hotKey :: after) calls) :
    Matches (before ++ after) (calls ++ [.unregisterHotKey hotKey.id]) := by
  have hmiddle : (before ++ hotKey :: after).Perm (hotKey :: (before ++ after)) :=
    List.perm_middle
  have hids := (hmiddle.map HotKey.id).symm.trans h.ids
  have hpresent : hotKey.id ∈ (outstanding calls).map HotKey.id :=
    hids.mem_iff.mp List.mem_cons_self
  have hdistinct : (liveIds (hotKey :: (before ++ after))).Nodup :=
    ((hmiddle.map HotKey.id).filter _).nodup_iff.mp h.liveIds_nodup
  constructor
  · rw [ids_unregister]
    exact (hids.erase hotKey.id).symm.trans (by rw [List.map_cons, List.erase_cons_head]) |>.symm
  · intro other hother hlive
    rw [outstanding_unregister]
    have hheld : other ∈ outstanding calls :=
      h.held other (hmiddle.mem_iff.mpr (List.mem_cons_of_mem _ hother)) hlive
    refine (List.mem_eraseP_of_neg fun heq => ?_).mpr hheld
    have hsame : other.id = hotKey.id := of_decide_eq_true heq
    have hnonzero : hotKey.id ≠ 0 := hsame ▸ hlive
    have hlater : hotKey.id ∈ liveIds (before ++ after) :=
      List.mem_filter.mpr ⟨List.mem_map.mpr ⟨other, hother, hsame⟩, decide_eq_true hnonzero⟩
    rw [liveIds_cons hnonzero] at hdistinct
    exact (List.nodup_cons.mp hdistinct).1 hlater
  · exact (strays_unregister hpresent).trans h.strays
  · rw [outstanding_unregister]
    exact h.distinct.sublist ((List.eraseP_sublist.map _).filter _)

theorem nothing (houtstanding : outstanding calls = []) (hstrays : Server.strays calls = []) :
    Matches [] calls := by
  refine ⟨?_, nofun, hstrays, ?_⟩
  · rw [houtstanding]
  · rw [houtstanding]
    exact List.nodup_nil

end Matches

def Condition.hotKey : Condition → Option HotKey
  | .keystroke id key mask => some ⟨id, key, mask⟩
  | _ => none

def Rule.hotKey {Action : Type} (rule : Rule Action) : Option HotKey :=
  rule.condition.bind Condition.hotKey

/-- The hotkeys of keystroke conditions, in the order of the rules. -/
def hotKeys {Action : Type} (rules : List (Rule Action)) : List HotKey :=
  rules.filterMap Rule.hotKey

section Rules

variable {Action : Type} {screen : HotKeyScreen} {rule : Rule Action} {rules : List (Rule Action)}
  {calls : List HotKeyCall} {before : List HotKey}

theorem Rule.hotKey_copy (rule : Rule Action) :
    rule.copy.hotKey = rule.hotKey.map fun hotKey => { hotKey with id := 0 } := by
  unfold Rule.hotKey Rule.copy
  cases rule.condition with
  | none => rfl
  | some condition => cases condition <;> rfl

theorem Rule.copy_eq_iff :
    rule.copy = rule ↔ ∀ hotKey, rule.hotKey = some hotKey → hotKey.id = 0 := by
  constructor
  · intro hcopy hotKey hhotKey
    have hzero := rule.hotKey_copy
    rw [hcopy, hhotKey] at hzero
    exact congrArg HotKey.id (Option.some.inj hzero)
  · intro hzero
    cases rule with
    | mk condition activateActions deactivateActions =>
      cases condition with
      | none => rfl
      | some condition =>
        cases condition with
        | keystroke id key mask =>
          have hid : id = 0 := hzero ⟨id, key, mask⟩ rfl
          rw [hid]
          rfl
        | mouseButton button mask => rfl
        | screenConnected connected => rfl

theorem enable_matches (h : Matches before calls) (hfresh : screen.Fresh) :
    Matches (before ++ (rule.enable screen calls).1.hotKey.toList)
      (rule.enable screen calls).2 := by
  have hnone : Matches (before ++ []) calls := by
    rw [List.append_nil]
    exact h
  cases rule with
  | mk condition activateActions deactivateActions =>
    cases condition with
    | none => exact hnone
    | some condition =>
      cases condition with
      | keystroke id key mask =>
        have hregister : Matches (before ++ [⟨screen calls key mask, key, mask⟩])
            (calls ++ [.registerHotKey key mask (screen calls key mask)]) :=
          h.register (hfresh calls key mask)
        exact hregister
      | mouseButton button mask => exact hnone
      | screenConnected connected => exact hnone

theorem disable_matches {after : List HotKey} (h : Matches (before ++ rule.hotKey.toList ++ after)
    calls) : Matches (before ++ after) (rule.disable calls).2 := by
  have hnone (h : Matches (before ++ [] ++ after) calls) : Matches (before ++ after) calls := by
    rw [List.append_nil] at h
    exact h
  cases rule with
  | mk condition activateActions deactivateActions =>
    cases condition with
    | none => exact hnone h
    | some condition =>
      cases condition with
      | keystroke id key mask =>
        have hmiddle : Matches (before ++ ⟨id, key, mask⟩ :: after) calls := by
          rw [List.append_cons]
          exact h
        exact hmiddle.unregister
      | mouseButton button mask => exact hnone h
      | screenConnected connected => exact hnone h

theorem hotKeys_cons : hotKeys (rule :: rules) = rule.hotKey.toList ++ hotKeys rules := by
  unfold hotKeys
  cases hrule : rule.hotKey with
  | none => exact List.filterMap_cons_none hrule
  | some hotKey => exact List.filterMap_cons_some hrule

theorem hotKeys_append {later : List (Rule Action)} :
    hotKeys (rules ++ later) = hotKeys rules ++ hotKeys later :=
  List.filterMap_append

theorem walk_enable_matches (h : Matches before calls) (hfresh : screen.Fresh) :
    Matches (before ++ hotKeys (CopiedVector.walk (Rule.enable screen) rules calls).1)
      (CopiedVector.walk (Rule.enable screen) rules calls).2 := by
  induction rules generalizing before calls with
  | nil =>
    show Matches (before ++ []) calls
    rw [List.append_nil]
    exact h
  | cons rule rules ih =>
    have hfirst : Matches (before ++ (rule.enable screen calls).1.hotKey.toList)
        (rule.enable screen calls).2 := enable_matches h hfresh
    have hrest := ih hfirst
    rw [List.append_assoc, ← hotKeys_cons] at hrest
    exact hrest

theorem walk_disable_matches (h : Matches (hotKeys rules) calls) :
    Matches [] (CopiedVector.walk Rule.disable rules calls).2 := by
  induction rules generalizing calls with
  | nil => exact h
  | cons rule rules ih =>
    rw [hotKeys_cons] at h
    have hrest : Matches ([] ++ hotKeys rules) (rule.disable calls).2 := disable_matches h
    exact ih hrest

theorem copy_eq_of_zero (h : ∀ hotKey ∈ hotKeys rules, hotKey.id = 0) :
    ∀ rule ∈ rules, rule.copy = rule := fun rule hrule =>
  Rule.copy_eq_iff.mpr fun hotKey hhotKey =>
    h hotKey (List.mem_filterMap.mpr ⟨rule, hrule, hhotKey⟩)

theorem id_of_mem_hotKeys_copy {hotKey : HotKey} (h : hotKey ∈ hotKeys (rules.map Rule.copy)) :
    hotKey.id = 0 := by
  obtain ⟨copied, hcopied, hhotKey⟩ := List.mem_filterMap.mp h
  obtain ⟨rule, -, rfl⟩ := List.mem_map.mp hcopied
  rw [rule.hotKey_copy] at hhotKey
  obtain ⟨original, -, rfl⟩ := Option.map_eq_some_iff.mp hhotKey
  rfl

end Rules

theorem zero_of_copies {hotKeys copies : List HotKey}
    (hids : ((copies.map HotKey.id).Perm (hotKeys.map HotKey.id)))
    (hcopies : ∀ hotKey ∈ copies, hotKey.id = 0) : ∀ hotKey ∈ hotKeys, hotKey.id = 0 := by
  intro hotKey hhotKey
  obtain ⟨other, hother, heq⟩ :=
    List.mem_map.mp (hids.mem_iff.mpr (List.mem_map.mpr ⟨hotKey, hhotKey, rfl⟩))
  exact heq.symm.trans (hcopies other hother)

namespace InputFilter

variable {Action : Type} {screen : Nat → HotKeyScreen} {growth : Nat → Nat}
  {filter : InputFilter Action}

structure Matched (filter : InputFilter Action) : Prop where
  primary : ∀ client, filter.primaryClient = some client →
    Matches (hotKeys filter.ruleList.items) (filter.calls client)
  others : ∀ client, filter.primaryClient ≠ some client → Matches [] (filter.calls client)

theorem Matched.initial : Matched ({} : InputFilter Action) :=
  ⟨nofun, fun _ _ => .nothing rfl rfl⟩

theorem withCalls_self {client : Nat} {calls : List HotKeyCall} :
    filter.withCalls client calls client = calls :=
  if_pos rfl

theorem withCalls_other {client other : Nat} {calls : List HotKeyCall} (h : other ≠ client) :
    filter.withCalls client calls other = filter.calls other :=
  if_neg h

theorem Matched.disableAll (h : filter.Matched) :
    filter.disableAll.primaryClient = none ∧
      ∀ client, Matches [] (filter.disableAll.calls client) := by
  unfold InputFilter.disableAll
  split
  · rename_i hnone
    exact ⟨hnone, fun client => h.others client (by rw [hnone]; rintro ⟨⟩)⟩
  · rename_i primary hprimary
    refine ⟨rfl, fun client => ?_⟩
    dsimp only
    by_cases hclient : client = primary
    · rw [hclient, withCalls_self]
      exact walk_disable_matches (h.primary primary hprimary)
    · rw [withCalls_other hclient]
      refine h.others client fun hsame => hclient ?_
      exact Option.some.inj (hsame.symm.trans hprimary)

theorem Matched.enableAll (hfresh : ∀ client, (screen client).Fresh)
    (hnone : filter.primaryClient = none) (h : ∀ client, Matches [] (filter.calls client))
    (client : Option Nat) : (filter.enableAll screen client).Matched := by
  cases client with
  | none => exact ⟨fun client hclient => absurd (hnone.symm.trans hclient) nofun,
      fun client _ => h client⟩
  | some primary =>
    constructor
    · intro client hclient
      obtain rfl : primary = client := Option.some.inj hclient
      show Matches _ (filter.withCalls primary _ primary)
      rw [withCalls_self]
      exact walk_enable_matches (h primary) (hfresh primary)
    · intro client hclient
      show Matches [] (filter.withCalls primary _ client)
      rw [withCalls_other fun heq => hclient (congrArg some heq.symm)]
      exact h client

theorem Matched.setPrimaryClient (hfresh : ∀ client, (screen client).Fresh) (h : filter.Matched)
    (client : Option Nat) : (filter.setPrimaryClient screen client).Matched := by
  unfold InputFilter.setPrimaryClient
  split
  · exact h
  · exact .enableAll hfresh h.disableAll.1 h.disableAll.2 client

theorem Matched.assign (hfresh : ∀ client, (screen client).Fresh) (h : filter.Matched)
    (source : List (Rule Action)) : (filter.assign screen source).Matched := by
  have hcleared : (filter.setPrimaryClient screen none).Matched := h.setPrimaryClient hfresh none
  have hnone : (filter.setPrimaryClient screen none).primaryClient = none := by
    unfold InputFilter.setPrimaryClient
    split
    · assumption
    · exact h.disableAll.1
  refine Matched.setPrimaryClient hfresh ⟨fun client hclient => ?_, fun client hclient => ?_⟩
    filter.primaryClient
  · exact absurd (hnone.symm.trans hclient) nofun
  · exact hcleared.others client (by rw [hnone]; nofun)

/-- The edit copies no condition that holds an identifier. -/
def Spares (filter : InputFilter Action) : Edit Action → Prop
  | .addFilterRule _ => filter.primaryClient = none ∨
      filter.ruleList.items.length < filter.ruleList.capacity ∨
      ∀ hotKey ∈ hotKeys filter.ruleList.items, hotKey.id = 0
  | .removeFilterRule index => filter.primaryClient = none ∨
      ∀ hotKey ∈ hotKeys (filter.ruleList.items.drop (index + 1)), hotKey.id = 0
  | .assign _ | .setPrimaryClient _ => True

section Edits

variable {client : Nat} {rule : Rule Action} {index : Nat}

theorem addFilterRule_of_some (hclient : filter.primaryClient = some client)
    {before : List (Rule Action)}
    (hitems : (filter.ruleList.pushBack Rule.copy growth rule).items = before ++ [rule.copy]) :
    (filter.addFilterRule screen growth rule).primaryClient = some client ∧
      (filter.addFilterRule screen growth rule).ruleList.items =
        before ++ [(rule.copy.enable (screen client) (filter.calls client)).1] ∧
      (filter.addFilterRule screen growth rule).calls = filter.withCalls client
        (rule.copy.enable (screen client) (filter.calls client)).2 := by
  obtain ⟨hvisited, hstate⟩ := @CopiedVector.visit_last _ _ (Rule.enable (screen client))
    (filter.calls client) _ _ _ hitems
  unfold addFilterRule
  split
  · rename_i hnone
    rw [hclient] at hnone
    cases hnone
  · rename_i other hother
    obtain rfl : other = client := Option.some.inj (hother.symm.trans hclient)
    exact ⟨hclient, hvisited, congrArg (filter.withCalls other) hstate⟩

theorem removeFilterRule_of_some (hclient : filter.primaryClient = some client)
    (hrule : filter.ruleList.items[index]? = some rule) :
    (filter.removeFilterRule index).primaryClient = some client ∧
      (filter.removeFilterRule index).ruleList.items = filter.ruleList.items.take index ++
        (filter.ruleList.items.drop (index + 1)).map Rule.copy ∧
      (filter.removeFilterRule index).calls =
        filter.withCalls client (rule.disable (filter.calls client)).2 := by
  have herased := @CopiedVector.items_erase_visit _ _ Rule.disable Rule.copy index
    (filter.calls client) _ _ hrule
  obtain ⟨-, -, hstate⟩ := @CopiedVector.visit_of_getElem? _ _ Rule.disable _
    (filter.calls client) _ _ hrule
  unfold removeFilterRule
  split
  · rename_i hnone
    rw [hclient] at hnone
    cases hnone
  · rename_i other hother
    obtain rfl : other = client := Option.some.inj (hother.symm.trans hclient)
    exact ⟨hclient, herased, congrArg (filter.withCalls other) hstate⟩

theorem Matched.of_withCalls {next : InputFilter Action} (h : filter.Matched)
    (hclient : filter.primaryClient = some client) (hnext : next.primaryClient = some client)
    {calls : List HotKeyCall} (hcalls : next.calls = filter.withCalls client calls)
    (hmatches : Matches (hotKeys next.ruleList.items) calls) : next.Matched := by
  constructor
  · intro other hother
    obtain rfl : client = other := Option.some.inj (hnext.symm.trans hother)
    rw [hcalls, withCalls_self]
    exact hmatches
  · intro other hother
    rw [hcalls, withCalls_other fun heq => hother (by rw [heq]; exact hnext)]
    exact h.others other fun heq => hother (hnext.trans (hclient.symm.trans heq))

theorem hotKeys_concat {before : List (Rule Action)} :
    hotKeys (before ++ [rule]) = hotKeys before ++ rule.hotKey.toList := by
  rw [hotKeys_append, hotKeys_cons]
  exact congrArg _ (List.append_nil _)

theorem hotKeys_split {rules : List (Rule Action)} (hrule : rules[index]? = some rule) :
    hotKeys rules =
      hotKeys (rules.take index) ++ rule.hotKey.toList ++ hotKeys (rules.drop (index + 1)) := by
  obtain ⟨hindex, hitem⟩ := List.getElem?_eq_some_iff.mp hrule
  conv_lhs => rw [← List.take_append_drop index rules, List.drop_eq_getElem_cons hindex, hitem]
  rw [hotKeys_append, hotKeys_cons, List.append_assoc]

theorem addFilterRule_of_none (hnone : filter.primaryClient = none) :
    (filter.addFilterRule screen growth rule).primaryClient = none ∧
      (filter.addFilterRule screen growth rule).calls = filter.calls := by
  unfold addFilterRule
  split
  · exact ⟨hnone, rfl⟩
  · rename_i client hclient
    rw [hnone] at hclient
    cases hclient

theorem removeFilterRule_of_none (hnone : filter.primaryClient = none) :
    (filter.removeFilterRule index).primaryClient = none ∧
      (filter.removeFilterRule index).calls = filter.calls := by
  unfold removeFilterRule
  split
  · exact ⟨hnone, rfl⟩
  · rename_i client hclient
    rw [hnone] at hclient
    cases hclient

theorem Matched.of_none {next : InputFilter Action} (h : filter.Matched)
    (hnone : filter.primaryClient = none)
    (hnext : next.primaryClient = none ∧ next.calls = filter.calls) : next.Matched := by
  constructor
  · intro client hclient
    exact absurd (hnext.1.symm.trans hclient) nofun
  · intro client _
    rw [hnext.2]
    exact h.others client (by rw [hnone]; nofun)

theorem Matched.addFilterRule (hfresh : ∀ client, (screen client).Fresh) (h : filter.Matched)
    (hspares : filter.Spares (.addFilterRule rule)) :
    (filter.addFilterRule screen growth rule).Matched := by
  cases hclient : filter.primaryClient with
  | none => exact h.of_none hclient (addFilterRule_of_none hclient)
  | some client =>
    have hkept := (hspares.resolve_left (by rw [hclient]; nofun)).imp_right copy_eq_of_zero
    obtain ⟨hnext, hitems, hcalls⟩ := @addFilterRule_of_some _ screen growth _ _ _ hclient _
      (CopiedVector.items_pushBack hkept)
    refine h.of_withCalls hclient hnext hcalls ?_
    rw [hitems, hotKeys_concat]
    exact enable_matches (h.primary client hclient) (hfresh client)

theorem Matched.removeFilterRule (h : filter.Matched)
    (hindex : index < filter.ruleList.items.length)
    (hspares : filter.Spares (.removeFilterRule index)) :
    (filter.removeFilterRule index).Matched := by
  cases hclient : filter.primaryClient with
  | none => exact h.of_none hclient (removeFilterRule_of_none hclient)
  | some client =>
    have hrule : filter.ruleList.items[index]? = some filter.ruleList.items[index] :=
      List.getElem?_eq_getElem hindex
    have hkept := copy_eq_of_zero (hspares.resolve_left (by rw [hclient]; nofun))
    obtain ⟨hnext, hitems, hcalls⟩ := removeFilterRule_of_some hclient hrule
    refine h.of_withCalls hclient hnext hcalls ?_
    rw [hitems, CopiedVector.map_copy hkept, hotKeys_append]
    refine disable_matches ?_
    rw [← hotKeys_split hrule]
    exact h.primary client hclient

theorem spares_addFilterRule (hfresh : ∀ client, (screen client).Fresh) (h : filter.Matched)
    (hnext : (filter.addFilterRule screen growth rule).Matched) :
    filter.Spares (.addFilterRule rule) := by
  cases hclient : filter.primaryClient with
  | none => exact .inl hclient
  | some client =>
    by_cases hroom : filter.ruleList.items.length < filter.ruleList.capacity
    · exact .inr (.inl hroom)
    obtain ⟨hprimary, hitems, hcalls⟩ := @addFilterRule_of_some _ screen growth _ _ _ hclient _
      (CopiedVector.items_pushBack_of_not_lt hroom)
    have hlost := hnext.primary client hprimary
    have hkept := @enable_matches _ _ rule.copy _ _ (h.primary client hclient) (hfresh client)
    rw [hitems, hotKeys_concat, hcalls, withCalls_self] at hlost
    have hids := hlost.ids.trans hkept.ids.symm
    rw [List.map_append, List.map_append] at hids
    exact .inr (.inr (zero_of_copies ((List.perm_append_right_iff _).mp hids)
      fun hotKey hmem => id_of_mem_hotKeys_copy hmem))

theorem spares_removeFilterRule (h : filter.Matched)
    (hnext : index < filter.ruleList.items.length → (filter.removeFilterRule index).Matched) :
    filter.Spares (.removeFilterRule index) := by
  cases hclient : filter.primaryClient with
  | none => exact .inl hclient
  | some client =>
    by_cases hindex : index < filter.ruleList.items.length
    · have hrule : filter.ruleList.items[index]? = some filter.ruleList.items[index] :=
        List.getElem?_eq_getElem hindex
      obtain ⟨hprimary, hitems, hcalls⟩ := removeFilterRule_of_some hclient hrule
      have hlost := (hnext hindex).primary client hprimary
      have hmatches := h.primary client hclient
      rw [hotKeys_split hrule] at hmatches
      have hkept := disable_matches hmatches
      rw [hitems, hotKeys_append, hcalls, withCalls_self] at hlost
      have hids := hlost.ids.trans hkept.ids.symm
      rw [List.map_append, List.map_append] at hids
      exact .inr (zero_of_copies ((List.perm_append_left_iff _).mp hids)
        fun hotKey hmem => id_of_mem_hotKeys_copy hmem)
    · rw [Spares, List.drop_eq_nil_of_le (by omega)]
      exact .inr nofun

end Edits

section Events

variable {rule : Rule Action} {rules : List (Rule Action)}

theorem handleEvent_hotkey (rule : Rule Action) (id : UInt32) :
    rule.handleEvent (.primaryScreenHotkeyDown id) =
        (if rule.hotKey.map HotKey.id = some id then some rule.activateActions else none) ∧
      rule.handleEvent (.primaryScreenHotkeyUp id) =
        if rule.hotKey.map HotKey.id = some id then some rule.deactivateActions else none := by
  cases rule with
  | mk condition activateActions deactivateActions =>
    cases condition with
    | none => exact ⟨rfl, rfl⟩
    | some condition =>
      cases condition with
      | keystroke held key mask =>
        by_cases hheld : held = id
        · subst hheld
          simp [Rule.handleEvent, Condition.match, Rule.hotKey, Condition.hotKey]
        · simp [Rule.handleEvent, Condition.match, Rule.hotKey, Condition.hotKey, hheld,
            Ne.symm hheld]
      | mouseButton button mask => exact ⟨rfl, rfl⟩
      | screenConnected connected => exact ⟨rfl, rfl⟩

theorem not_holds_earlier (hdistinct : (liveIds (hotKeys rules)).Nodup) {index : Nat}
    {hotKey : HotKey} (hrule : rules[index]? = some rule) (hhotKey : rule.hotKey = some hotKey)
    (hlive : hotKey.id ≠ 0) {earlier : Rule Action} (hearlier : earlier ∈ rules.take index) :
    earlier.hotKey.map HotKey.id ≠ some hotKey.id := by
  intro hholds
  obtain ⟨other, hother, hsame⟩ := Option.map_eq_some_iff.mp hholds
  have hfirst : hotKey.id ∈ liveIds (hotKeys (rules.take index)) :=
    List.mem_filter.mpr ⟨List.mem_map.mpr ⟨other,
      List.mem_filterMap.mpr ⟨earlier, hearlier, hother⟩, hsame⟩, decide_eq_true hlive⟩
  have hlater : hotKey.id ∈ liveIds (rule.hotKey.toList ++ hotKeys (rules.drop (index + 1))) := by
    rw [hhotKey]
    exact List.mem_filter.mpr ⟨List.mem_cons_self, decide_eq_true hlive⟩
  rw [hotKeys_split hrule, List.append_assoc] at hdistinct
  unfold liveIds at hdistinct hfirst hlater
  rw [List.map_append, List.filter_append] at hdistinct
  exact (List.nodup_append.mp hdistinct).2.2 _ hfirst _ hlater rfl

theorem index_unique (hdistinct : (liveIds (hotKeys rules)).Nodup) {first second : Nat}
    {other : Rule Action} {hotKey : HotKey} (hrule : rules[first]? = some rule)
    (hhotKey : rule.hotKey = some hotKey) (hlive : hotKey.id ≠ 0)
    (hother : rules[second]? = some other) (hholds : other.hotKey.map HotKey.id = some hotKey.id) :
    second = first := by
  have hmem {index later : Nat} {rule : Rule Action} (hlt : index < later)
      (hrule : rules[index]? = some rule) : rule ∈ rules.take later := by
    refine List.mem_of_getElem? (i := index) ?_
    rw [List.getElem?_take_of_lt hlt]
    exact hrule
  obtain hlt | heq | hgt := Nat.lt_trichotomy second first
  · exact absurd hholds (not_holds_earlier hdistinct hrule hhotKey hlive (hmem hlt hother))
  · exact heq
  · obtain ⟨otherKey, hotherKey, hsame⟩ := Option.map_eq_some_iff.mp hholds
    refine absurd ?_ (not_holds_earlier hdistinct hother hotherKey (by rw [hsame]; exact hlive)
      (hmem hgt hrule))
    rw [hhotKey, hsame]
    rfl

theorem findSome?_of_index {event : FilterEvent} {index : Nat} {actions : List Action}
    (hrule : rules[index]? = some rule) (hhandles : rule.handleEvent event = some actions)
    (hearlier : ∀ earlier ∈ rules.take index, earlier.handleEvent event = none) :
    rules.findSome? (Rule.handleEvent event) = some actions := by
  obtain ⟨hindex, hitem⟩ := List.getElem?_eq_some_iff.mp hrule
  refine List.findSome?_eq_some_iff.mpr ⟨rules.take index, rule, rules.drop (index + 1), ?_,
    hhandles, hearlier⟩
  rw [← hitem, ← List.drop_eq_getElem_cons hindex, List.take_append_drop]

end Events

/-- Every keystroke condition holds the identifier it was registered under, and the events of a
hotkey that was not refused are handled by its rule and by no other one. -/
structure Registered (filter : InputFilter Action) : Prop extends Matched filter where
  fires : ∀ client, filter.primaryClient = some client →
    ∀ (index : Nat) (rule : Rule Action) (hotKey : HotKey),
    filter.ruleList.items[index]? = some rule → rule.hotKey = some hotKey → hotKey.id ≠ 0 →
    filter.handleEvent (.primaryScreenHotkeyDown hotKey.id) = some rule.activateActions ∧
      filter.handleEvent (.primaryScreenHotkeyUp hotKey.id) = some rule.deactivateActions ∧
      ∀ (other : Nat) (otherRule : Rule Action),
        filter.ruleList.items[other]? = some otherRule →
        otherRule.handleEvent (.primaryScreenHotkeyDown hotKey.id) ≠ none → other = index

theorem Matched.registered (h : filter.Matched) : filter.Registered := by
  refine ⟨h, fun client hclient index rule hotKey hrule hhotKey hlive => ?_⟩
  have hdistinct := (h.primary client hclient).liveIds_nodup
  obtain ⟨hdown, hup⟩ := handleEvent_hotkey rule hotKey.id
  have hholds : rule.hotKey.map HotKey.id = some hotKey.id := by
    rw [hhotKey]
    rfl
  refine ⟨findSome?_of_index hrule (hdown.trans (if_pos hholds)) fun earlier hearlier => ?_,
    findSome?_of_index hrule (hup.trans (if_pos hholds)) fun earlier hearlier => ?_,
    fun other otherRule hother hhandles => ?_⟩
  · exact (handleEvent_hotkey earlier hotKey.id).1.trans
      (if_neg (not_holds_earlier hdistinct hrule hhotKey hlive hearlier))
  · exact (handleEvent_hotkey earlier hotKey.id).2.trans
      (if_neg (not_holds_earlier hdistinct hrule hhotKey hlive hearlier))
  · refine index_unique hdistinct hrule hhotKey hlive hother ?_
    by_contra hnot
    exact hhandles ((handleEvent_hotkey otherRule hotKey.id).1.trans (if_neg hnot))

theorem Matched.step (hfresh : ∀ client, (screen client).Fresh) (h : filter.Matched)
    {edit : Edit Action} (hspares : filter.Spares edit) {next : InputFilter Action}
    (hstep : filter.step screen growth edit = some next) : next.Matched := by
  cases edit with
  | addFilterRule rule =>
    cases hstep
    exact h.addFilterRule hfresh hspares
  | removeFilterRule index =>
    unfold InputFilter.step at hstep
    dsimp only at hstep
    split at hstep
    · rename_i hindex
      cases hstep
      exact h.removeFilterRule hindex hspares
    · cases hstep
  | assign source =>
    cases hstep
    exact h.assign hfresh source
  | setPrimaryClient client =>
    cases hstep
    exact h.setPrimaryClient hfresh client

theorem spares_of_step (hfresh : ∀ client, (screen client).Fresh) (h : filter.Matched)
    {edit : Edit Action}
    (hnext : ∀ next, filter.step screen growth edit = some next → next.Matched) :
    filter.Spares edit := by
  cases edit with
  | addFilterRule rule => exact spares_addFilterRule hfresh h (hnext _ rfl)
  | removeFilterRule index =>
    exact spares_removeFilterRule h fun hindex => hnext _ (if_pos hindex)
  | assign source => exact trivial
  | setPrimaryClient client => exact trivial

/-- **Which runs keep hotkeys registered.** -/
theorem always_registered_iff (hfresh : ∀ client, (screen client).Fresh)
    (edits : List (Edit Action)) :
    (machine screen growth Action).Always Registered {} edits ↔
      (machine screen growth Action).Along Spares {} edits := by
  refine Machine.always_iff_along (fun _ h => Matched.registered h) ?_ ?_ Matched.initial
  · exact fun filter edit next h hspares hstep => h.step hfresh hspares hstep
  · exact fun filter edit h hnext =>
      spares_of_step hfresh h fun next hstep => (hnext next hstep).toMatched

section Samples

/-- The next number, as long as no identifier was taken back. -/
def sampleHotKeys : HotKeyScreen := fun calls _ _ =>
  let id := UInt32.ofNat ((outstanding calls).length + 1)
  if id ∈ (outstanding calls).map HotKey.id then 0 else id

theorem sampleHotKeys_fresh : sampleHotKeys.Fresh := by
  intro calls key mask
  unfold sampleHotKeys
  dsimp only
  split
  · exact .inl rfl
  · rename_i habsent
    exact .inr habsent

def pauseRule : Rule LockState :=
  { condition := some (.keystroke 0 0xEF13 0), activateActions := [.off] }

def scrollLockRule : Rule LockState :=
  { condition := some (.keystroke 0 kKeyScrollLock 0), activateActions := [.toggle] }

def addedLater : List (Edit LockState) :=
  [.setPrimaryClient (some 0), .addFilterRule pauseRule, .addFilterRule scrollLockRule]

def filterAddedLater : InputFilter LockState :=
  ((machine (fun _ => sampleHotKeys) (2 * ·) LockState).exec {} addedLater).getD {}

/-- The first rule moves to a larger block and forgets its hotkey, which stays registered. -/
theorem hotkey_lost :
    ¬(machine (fun _ => sampleHotKeys) (2 * ·) LockState).Always Registered {} addedLater := by
  intro halways
  have hexec : (machine (fun _ => sampleHotKeys) (2 * ·) LockState).exec {} addedLater =
      some filterAddedLater := rfl
  rw [← List.append_nil addedLater] at halways
  have hids := ((halways.of_exec hexec).primary 0 rfl).ids
  have houtstanding : 1 ∈ (outstanding (filterAddedLater.calls 0)).map HotKey.id := by decide
  have hlost : 1 ∉ (hotKeys filterAddedLater.ruleList.items).map HotKey.id := by decide
  exact hlost (hids.mem_iff.mpr houtstanding)

def removedLast : List (Edit LockState) :=
  [.addFilterRule pauseRule, .addFilterRule scrollLockRule, .setPrimaryClient (some 0),
    .removeFilterRule 1]

/-- Rules added before there is a client, and removed from the end. -/
theorem always_registered_iff_removed :
    (machine (fun _ => sampleHotKeys) (2 * ·) LockState).Always Registered {} removedLast := by
  refine (always_registered_iff (fun _ => sampleHotKeys_fresh) removedLast).mpr ?_
  refine ⟨.inl rfl, fun next hnext => ?_⟩
  cases hnext
  refine ⟨.inl rfl, fun next hnext => ?_⟩
  cases hnext
  refine ⟨trivial, fun next hnext => ?_⟩
  cases hnext
  exact ⟨.inr (by decide), fun _ _ => trivial⟩

end Samples

end InputFilter

end DeskflowPlus.Server
