import DeskflowPlus.Options.OptionSafety

/-!
# Delivering options

The server sends a reset and then all options of the screen and of all screens. The client should end
up in the state that the list describes, whatever it was before.
-/

namespace DeskflowPlus

/-- `Server::sendOptions`, for a screen that the configuration may not know. -/
def sentOptions (screen : Option ScreenOptions) (global : ScreenOptions) :
    List (OptionID × UInt32) :=
  (screen.map ScreenOptions.toPairs).getD [] ++ global.toPairs

namespace ClientOptions

variable {platform : PlatformOptions} {pairs : List (OptionID × UInt32)} {client : ClientOptions}

def flagOf (id : OptionID) (default : Bool) (pairs : List (OptionID × UInt32)) : Bool :=
  ((lastValue id pairs).map fun value => decide (value ≠ 0)).getD default

def halfDuplexOf (caps num scroll : Bool) : KeyModifierMask :=
  (if caps then KeyModifierCapsLock else 0) ||| (if num then KeyModifierNumLock else 0) |||
    if scroll then KeyModifierScrollLock else 0

def sizeOf (default : Nat) (pairs : List (OptionID × UInt32)) : Nat :=
  ((lastValue kOptionClipboardSharingSize pairs).map UInt32.toNat).getD default

def ofOptions (platform : PlatformOptions) (pairs : List (OptionID × UInt32)) : ClientOptions where
  enableClipboard :=
    flagOf kOptionClipboardSharing true pairs && sizeOf (2 ^ 31 - 1) pairs ≠ 0
  maximumClipboardSize := sizeOf (2 ^ 31 - 1) pairs
  halfDuplex := halfDuplexOf (flagOf kOptionHalfDuplexCapsLock false pairs)
    (flagOf kOptionHalfDuplexNumLock false pairs) (flagOf kOptionHalfDuplexScrollLock false pairs)
  platformFlag id :=
    if (platform.lookup id).isSome then flagOf id (platformDefault platform id) pairs
    else platformDefault platform id
  keepAliveAlarm := ((lastValue kOptionHeartbeat pairs).map UInt32.toNat).getD kKeepAliveRate *
    kKeepAlivesUntilDeath
  modifierTranslationTable modifier := (lastValue modifier.option pairs).getD modifier.id

variable {pair : OptionID × UInt32}

theorem flagOf_concat {id : OptionID} {default : Bool} :
    flagOf id default (pairs ++ [pair]) =
      if pair.1 = id then decide (pair.2 ≠ 0) else flagOf id default pairs := by
  unfold flagOf
  rw [lastValue_concat]
  split <;> rfl

def Unmistakable (pairs : List (OptionID × UInt32)) : Prop :=
  ∀ pair ∈ pairs, isClipboardOption pair.1 = false → isClipboardOption pair.2 = false

theorem scanOptions_flatten (h : Unmistakable pairs) : scanOptions (flatten pairs) client =
    some { client with
      enableClipboard := flagOf kOptionClipboardSharing client.enableClipboard pairs
      maximumClipboardSize := sizeOf client.maximumClipboardSize pairs } := by
  induction pairs generalizing client with
  | nil => rfl
  | cons pair pairs ih =>
    obtain ⟨id, value⟩ := pair
    obtain ⟨hpair, hrest⟩ := List.forall_mem_cons.mp h
    have hflag {default : Bool} : flagOf kOptionClipboardSharing default ((id, value) :: pairs) =
        flagOf kOptionClipboardSharing
          (if id = kOptionClipboardSharing then decide (value ≠ 0) else default) pairs := by
      unfold flagOf
      rw [lastValue]
      cases lastValue kOptionClipboardSharing pairs with
      | none =>
        rw [Option.none_or]
        split <;> rfl
      | some last => rfl
    have hsize {default : Nat} : sizeOf default ((id, value) :: pairs) =
        sizeOf (if id = kOptionClipboardSharingSize then value.toNat else default) pairs := by
      unfold sizeOf
      rw [lastValue]
      cases lastValue kOptionClipboardSharingSize pairs with
      | none =>
        rw [Option.none_or]
        split <;> rfl
      | some last => rfl
    show scanOptions (id :: value :: flatten pairs) client = _
    rw [scanOptions, hflag, hsize]
    by_cases hsharing : id = kOptionClipboardSharing
    · have hother : ¬ kOptionClipboardSharing = kOptionClipboardSharingSize := by decide
      subst hsharing
      rw [if_pos rfl, if_pos rfl, if_neg hother, ih hrest]
    rw [if_neg hsharing, if_neg hsharing]
    by_cases hsharingSize : id = kOptionClipboardSharingSize
    · rw [if_pos hsharingSize, if_pos hsharingSize, ih hrest]
    rw [if_neg hsharingSize, if_neg hsharingSize]
    -- the value is not taken for an id either
    have hid : isClipboardOption id = false := by
      unfold isClipboardOption
      rw [decide_eq_false hsharing, decide_eq_false hsharingSize]
      rfl
    have hvalue : ¬ value = kOptionClipboardSharing ∧ ¬ value = kOptionClipboardSharingSize := by
      have hvalue := hpair hid
      unfold isClipboardOption at hvalue
      rw [Bool.or_eq_false_iff, decide_eq_false_iff_not, decide_eq_false_iff_not] at hvalue
      exact hvalue
    have hskip : scanOptions (value :: flatten pairs) client = scanOptions (flatten pairs) client := by
      cases hflat : flatten pairs with
      | nil => exact if_neg (not_or.mpr hvalue)
      | cons next rest => rw [scanOptions, if_neg hvalue.1, if_neg hvalue.2]
    rw [hskip, ih hrest]

theorem halfDuplexOf_set {caps num scroll : Bool} :
    (halfDuplexOf caps num scroll ||| KeyModifierCapsLock = halfDuplexOf true num scroll ∧
      halfDuplexOf caps num scroll ||| KeyModifierNumLock = halfDuplexOf caps true scroll ∧
      halfDuplexOf caps num scroll ||| KeyModifierScrollLock = halfDuplexOf caps num true) ∧
    halfDuplexOf caps num scroll &&& ~~~KeyModifierCapsLock = halfDuplexOf false num scroll ∧
      halfDuplexOf caps num scroll &&& ~~~KeyModifierNumLock = halfDuplexOf caps false scroll ∧
      halfDuplexOf caps num scroll &&& ~~~KeyModifierScrollLock = halfDuplexOf caps num false := by
  cases caps <;> cases num <;> cases scroll <;> decide

def halfDuplexAfter (pairs : List (OptionID × UInt32)) : KeyModifierMask :=
  halfDuplexOf (flagOf kOptionHalfDuplexCapsLock false pairs)
    (flagOf kOptionHalfDuplexNumLock false pairs) (flagOf kOptionHalfDuplexScrollLock false pairs)

theorem halfDuplexAfter_concat :
    halfDuplexAfter (pairs ++ [pair]) =
      match halfDuplexMask pair.1 with
      | none => halfDuplexAfter pairs
      | some mask =>
        if pair.2 ≠ 0 then halfDuplexAfter pairs ||| mask else halfDuplexAfter pairs &&& ~~~mask := by
  have hdistinct : kOptionHalfDuplexCapsLock ≠ kOptionHalfDuplexNumLock ∧
      kOptionHalfDuplexCapsLock ≠ kOptionHalfDuplexScrollLock ∧
        kOptionHalfDuplexNumLock ≠ kOptionHalfDuplexScrollLock := by decide
  obtain ⟨hcapsNum, hcapsScroll, hnumScroll⟩ := hdistinct
  unfold halfDuplexAfter halfDuplexMask
  rw [flagOf_concat, flagOf_concat, flagOf_concat]
  generalize flagOf kOptionHalfDuplexCapsLock false pairs = caps
  generalize flagOf kOptionHalfDuplexNumLock false pairs = num
  generalize flagOf kOptionHalfDuplexScrollLock false pairs = scroll
  obtain ⟨⟨hsetCaps, hsetNum, hsetScroll⟩, hclearCaps, hclearNum, hclearScroll⟩ :=
    @halfDuplexOf_set caps num scroll
  by_cases hcaps : pair.1 = kOptionHalfDuplexCapsLock
  · rw [hcaps, if_pos rfl, if_pos rfl, if_neg hcapsNum, if_neg hcapsScroll]
    dsimp only
    split
    · rename_i hvalue
      rw [hsetCaps, decide_eq_true hvalue]
    · rename_i hvalue
      rw [hclearCaps, decide_eq_false hvalue]
  rw [if_neg hcaps, if_neg hcaps]
  by_cases hnum : pair.1 = kOptionHalfDuplexNumLock
  · rw [hnum, if_pos rfl, if_pos rfl, if_neg hnumScroll]
    dsimp only
    split
    · rename_i hvalue
      rw [hsetNum, decide_eq_true hvalue]
    · rename_i hvalue
      rw [hclearNum, decide_eq_false hvalue]
  rw [if_neg hnum, if_neg hnum]
  by_cases hscroll : pair.1 = kOptionHalfDuplexScrollLock
  · rw [hscroll, if_pos rfl, if_pos rfl]
    dsimp only
    split
    · rename_i hvalue
      rw [hsetScroll, decide_eq_true hvalue]
    · rename_i hvalue
      rw [hclearScroll, decide_eq_false hvalue]
  rw [if_neg hscroll, if_neg hscroll]

theorem foldl_halfDuplex (h : client.halfDuplex = 0) :
    pairs.foldl (setKnown (fun id => (halfDuplexMask id).isSome) setHalfDuplex) client =
      { client with halfDuplex := halfDuplexAfter pairs } := by
  induction pairs using List.reverseRecOn with
  | nil =>
    show client = { client with halfDuplex := 0 }
    rw [← h]
  | append_singleton pairs pair ih =>
    rw [List.foldl_append, List.foldl_cons, List.foldl_nil, ih, halfDuplexAfter_concat]
    unfold setKnown setHalfDuplex
    by_cases hknown : (halfDuplexMask pair.1).isSome
    · obtain ⟨mask, hmask⟩ := Option.isSome_iff_exists.mp hknown
      rw [if_pos hknown, hmask]
    · rw [if_neg hknown, Option.not_isSome_iff_eq_none.mp hknown]

theorem foldl_platformFlag :
    pairs.foldl (setKnown (fun id => (platform.lookup id).isSome) setPlatformFlag) client =
      { client with platformFlag := fun id =>
          if (platform.lookup id).isSome then flagOf id (client.platformFlag id) pairs
          else client.platformFlag id } := by
  induction pairs using List.reverseRecOn with
  | nil =>
    have hsame : (fun id => if (platform.lookup id).isSome then client.platformFlag id
        else client.platformFlag id) = client.platformFlag := funext fun id => ite_self _
    show client = { client with platformFlag := fun id =>
      if (platform.lookup id).isSome then client.platformFlag id else client.platformFlag id }
    rw [hsame]
  | append_singleton pairs pair ih =>
    rw [List.foldl_append, List.foldl_cons, List.foldl_nil, ih]
    unfold setKnown setPlatformFlag
    split
    · rename_i hknown
      congr 1
      funext id
      rw [flagOf_concat]
      by_cases hid : id = pair.1
      · subst hid
        rw [Function.update_self, if_pos hknown, if_pos rfl]
      · have hne : ¬ pair.1 = id := fun h => hid h.symm
        rw [Function.update_of_ne hid, if_neg hne]
    · rename_i hunknown
      congr 1
      funext id
      rw [flagOf_concat]
      by_cases hid : pair.1 = id
      · subst hid
        rw [if_neg hunknown, if_neg hunknown]
      · rw [if_neg hid]

theorem setKnown_proxy :
    setKnown isProxyOption setProxyOption client pair =
      { client with
        keepAliveAlarm :=
          if pair.1 = kOptionHeartbeat then pair.2.toNat * kKeepAlivesUntilDeath
          else client.keepAliveAlarm
        modifierTranslationTable := fun modifier =>
          if pair.1 = modifier.option then pair.2
          else client.modifierTranslationTable modifier } := by
  unfold setKnown isProxyOption setProxyOption
  cases hmodifier : KeyModifier.ofOption pair.1 with
  | some modifier =>
    have hoption : modifier.option = pair.1 := ofOption_eq_some_iff.mp hmodifier
    have hbeat : ¬ pair.1 = kOptionHeartbeat := by
      rw [← hoption]
      cases modifier <;> decide
    rw [Option.isSome_some, Bool.true_or, if_pos rfl]
    dsimp only
    congr 1
    · exact (if_neg hbeat).symm
    funext other
    by_cases hother : other = modifier
    · subst hother
      rw [Function.update_self, if_pos hoption.symm]
    · have hne : ¬ pair.1 = other.option := fun h =>
        hother (Option.some.inj ((ofOption_eq_some_iff.mpr h.symm).symm.trans hmodifier))
      rw [Function.update_of_ne hother, if_neg hne]
  | none =>
    have hne (modifier : KeyModifier) : ¬ pair.1 = modifier.option := fun h => by
      rw [ofOption_eq_some_iff.mpr h.symm] at hmodifier
      cases hmodifier
    have htable : (fun modifier => if pair.1 = modifier.option then pair.2
        else client.modifierTranslationTable modifier) = client.modifierTranslationTable :=
      funext fun modifier => if_neg (hne modifier)
    rw [htable, Option.isSome_none, Bool.false_or]
    by_cases hbeat : pair.1 = kOptionHeartbeat
    · rw [if_pos hbeat, if_pos (decide_eq_true hbeat), if_pos hbeat]
      rfl
    · rw [decide_eq_false hbeat, if_neg Bool.false_ne_true, if_neg hbeat]

theorem foldl_proxy : pairs.foldl (setKnown isProxyOption setProxyOption) client =
    { client with
      keepAliveAlarm := ((lastValue kOptionHeartbeat pairs).map fun rate =>
        rate.toNat * kKeepAlivesUntilDeath).getD client.keepAliveAlarm
      modifierTranslationTable := fun modifier =>
        (lastValue modifier.option pairs).getD (client.modifierTranslationTable modifier) } := by
  induction pairs using List.reverseRecOn with
  | nil => rfl
  | append_singleton pairs pair ih =>
    rw [List.foldl_append, List.foldl_cons, List.foldl_nil, ih, setKnown_proxy]
    congr 1
    · rw [lastValue_concat]
      split <;> rfl
    · funext modifier
      rw [lastValue_concat]
      split <;> rfl

/-- Both clipboard options are sent or still have their defaults. Without a size there is no
sharing anyway. -/
def ClipboardKnown (client : ClientOptions) (pairs : List (OptionID × UInt32)) : Prop :=
  (client.maximumClipboardSize = 2 ^ 31 - 1 ∨ ∃ size, (kOptionClipboardSharingSize, size) ∈ pairs) ∧
    (client.enableClipboard ∨ (∃ value, (kOptionClipboardSharing, value) ∈ pairs) ∨
      lastValue kOptionClipboardSharingSize pairs = some 0)

theorem limitClipboard_eq : client.limitClipboard =
    { client with enableClipboard :=
        client.enableClipboard && client.maximumClipboardSize ≠ 0 } := by
  unfold limitClipboard
  obtain ⟨enable, size, _, _, _, _⟩ := client
  by_cases hsize : size = 0
  · subst hsize
    cases enable <;> rfl
  · rw [if_neg fun h => hsize h.2]
    congr 1
    show enable = (enable && decide (size ≠ 0))
    rw [decide_eq_true hsize, Bool.and_true]

theorem setOptions_resetOptions (h : Unmistakable pairs) :
    (client.resetOptions platform).setOptions platform (flatten pairs) =
      some { ofOptions platform pairs with
        enableClipboard := flagOf kOptionClipboardSharing client.enableClipboard pairs &&
          sizeOf client.maximumClipboardSize pairs ≠ 0
        maximumClipboardSize := sizeOf client.maximumClipboardSize pairs } := by
  have hrate : ((lastValue kOptionHeartbeat pairs).map fun rate =>
      rate.toNat * kKeepAlivesUntilDeath).getD (kKeepAliveRate * kKeepAlivesUntilDeath) =
        ((lastValue kOptionHeartbeat pairs).map UInt32.toNat).getD kKeepAliveRate *
          kKeepAlivesUntilDeath := by
    cases lastValue kOptionHeartbeat pairs <;> rfl
  unfold setOptions setClientOptions setScreenOptions
  rw [scanOptions_flatten h, Option.bind_some, limitClipboard_eq, forPairs_flatten, Option.bind_some,
    forPairs_flatten, Option.bind_some, forPairs_flatten, foldl_halfDuplex rfl, foldl_platformFlag,
    foldl_proxy]
  unfold ofOptions
  rw [← hrate]
  rfl

theorem sizeOf_eq_iff {size : Nat} : sizeOf size pairs = sizeOf (2 ^ 31 - 1) pairs ↔
    size = 2 ^ 31 - 1 ∨ ∃ value, (kOptionClipboardSharingSize, value) ∈ pairs := by
  rw [← lastValue_isSome]
  unfold sizeOf
  cases lastValue kOptionClipboardSharingSize pairs with
  | none => exact ⟨.inl, fun h => h.resolve_right nofun⟩
  | some value => exact ⟨fun _ => .inr rfl, fun _ => rfl⟩

theorem flagOf_eq_iff {enable : Bool} : flagOf kOptionClipboardSharing enable pairs =
      flagOf kOptionClipboardSharing true pairs ↔
    enable ∨ ∃ value, (kOptionClipboardSharing, value) ∈ pairs := by
  rw [← lastValue_isSome]
  unfold flagOf
  cases lastValue kOptionClipboardSharing pairs with
  | none => exact ⟨.inl, fun h => h.resolve_right nofun⟩
  | some value => exact ⟨fun _ => .inr rfl, fun _ => rfl⟩

theorem sizeOf_eq_zero_iff :
    sizeOf (2 ^ 31 - 1) pairs = 0 ↔ lastValue kOptionClipboardSharingSize pairs = some 0 := by
  unfold sizeOf
  cases lastValue kOptionClipboardSharingSize pairs with
  | none => exact ⟨fun h => absurd h (by decide), nofun⟩
  | some value =>
    show value.toNat = 0 ↔ some value = some 0
    rw [Option.some_inj, ← UInt32.toNat_inj]
    rfl

/-- **Delivery.** A reset and the options of a screen and of all screens, as long as no value of
another option is itself the id of a clipboard option, lead to the state that the list describes
exactly if both clipboard options are sent or still have their defaults. -/
theorem options_delivered (platform : PlatformOptions) (screen : Option ScreenOptions)
    (global : ScreenOptions) (client : ClientOptions)
    (h : Unmistakable (sentOptions screen global)) :
    (client.resetOptions platform).setOptions platform (flatten (sentOptions screen global)) =
        some (ofOptions platform (sentOptions screen global)) ↔
      client.ClipboardKnown (sentOptions screen global) := by
  generalize sentOptions screen global = pairs at h
  rw [setOptions_resetOptions h, Option.some_inj, ClientOptions.mk.injEq]
  unfold ClipboardKnown
  rw [← sizeOf_eq_iff, ← or_assoc, ← flagOf_eq_iff, ← sizeOf_eq_zero_iff]
  constructor
  · rintro ⟨henable, hsize, -⟩
    have hsize : sizeOf client.maximumClipboardSize pairs = sizeOf (2 ^ 31 - 1) pairs := hsize
    have henable : (flagOf kOptionClipboardSharing client.enableClipboard pairs &&
        decide (sizeOf client.maximumClipboardSize pairs ≠ 0)) =
          (flagOf kOptionClipboardSharing true pairs &&
            decide (sizeOf (2 ^ 31 - 1) pairs ≠ 0)) := henable
    refine ⟨hsize, ?_⟩
    by_cases hzero : sizeOf (2 ^ 31 - 1) pairs = 0
    · exact .inr hzero
    · rw [hsize, decide_eq_true hzero, Bool.and_true, Bool.and_true] at henable
      exact .inl henable
  · rintro ⟨hsize, hflag⟩
    refine ⟨?_, hsize, rfl, rfl, rfl, rfl⟩
    show (flagOf kOptionClipboardSharing client.enableClipboard pairs &&
        decide (sizeOf client.maximumClipboardSize pairs ≠ 0)) =
      (flagOf kOptionClipboardSharing true pairs && decide (sizeOf (2 ^ 31 - 1) pairs ≠ 0))
    rw [hsize]
    rcases hflag with hflag | hzero
    · rw [hflag]
    · rw [decide_eq_false (not_not.mpr hzero), Bool.and_false, Bool.and_false]

section Sample

def sharingOff : ScreenOptions := ⟨[(kOptionClipboardSharing, 0)], ScreenOptions.sorted_sharingOff⟩

def heartbeatOptions : ScreenOptions := ⟨[(kOptionHeartbeat, 5000)], List.pairwise_singleton ..⟩

theorem options_delivered_sharing_off :
    ((fresh xWindowsOptions).resetOptions xWindowsOptions).setOptions xWindowsOptions
        (flatten (sentOptions (some heartbeatOptions) sharingOff)) =
      some (ofOptions xWindowsOptions (sentOptions (some heartbeatOptions) sharingOff)) := by
  have hunmistakable : Unmistakable (sentOptions (some heartbeatOptions) sharingOff) := by
    show ∀ pair ∈ [(kOptionHeartbeat, 5000), (kOptionClipboardSharing, 0)],
      isClipboardOption pair.1 = false → isClipboardOption pair.2 = false
    exact List.forall_mem_cons.mpr ⟨fun _ => rfl, List.forall_mem_singleton.mpr fun _ => rfl⟩
  exact (options_delivered xWindowsOptions (some heartbeatOptions) sharingOff (fresh xWindowsOptions)
    hunmistakable).mpr ⟨.inl rfl, .inl rfl⟩

/-- The options that switch sharing off again are gone; it stays off. -/
theorem sharing_stays_off : ∃ client next,
    (fresh xWindowsOptions).setOptions xWindowsOptions (flatten (sentOptions none sharingOff)) =
        some client ∧
      (client.resetOptions xWindowsOptions).setOptions xWindowsOptions
          (flatten (sentOptions none ScreenOptions.empty)) = some next ∧
      next.enableClipboard = false ∧
        (ofOptions xWindowsOptions (sentOptions none ScreenOptions.empty)).enableClipboard = true :=
  ⟨_, _, rfl, rfl, rfl, rfl⟩

end Sample

end ClientOptions

end DeskflowPlus
