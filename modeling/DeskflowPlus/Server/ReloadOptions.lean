import DeskflowPlus.Server.Reload

/-!
# Options after a reload

A reload should leave the defaults behind, overridden by the options of the new configuration. Only
the needed modifiers are reset first; any other option stays as it was unless the new configuration
sets it.
-/

namespace DeskflowPlus

namespace ServerOptions

variable {Value : Type} {options next : ServerOptions} {server later : Server}
  {option : OptionID × OptionValue} {entries : List (OptionID × OptionValue)}

def setTo (id : OptionID) (read : OptionValue → Value) (entries : List (OptionID × OptionValue))
    (unset : Value) : Value :=
  ((lastValue id entries).map read).getD unset

variable {read : OptionValue → Value}

theorem setTo_cons {id : OptionID} {unset : Value} :
    setTo id read (option :: entries) unset = setTo id read entries (setTo id read [option] unset) := by
  unfold setTo
  rw [lastValue, lastValue, lastValue, Option.none_or]
  cases lastValue id entries with
  | none => rw [Option.none_or, Option.map_none, Option.getD_none]
  | some value => rfl

theorem setTo_of_ne {id : OptionID} {unset : Value} (h : option.1 ≠ id) :
    setTo id read [option] unset = unset := by
  unfold setTo
  rw [lastValue, lastValue, Option.none_or, if_neg h]
  rfl

/-- Setting is the same whatever was before exactly if it sets, or the same was before. -/
theorem setTo_eq_iff {id : OptionID} {unset other : Value} :
    setTo id read entries unset = setTo id read entries other ↔
      unset = other ∨ ∃ value, (id, value) ∈ entries := by
  rw [← lastValue_isSome]
  unfold setTo
  cases lastValue id entries with
  | none => exact ⟨.inl, fun h => h.resolve_right nofun⟩
  | some value => exact ⟨fun _ => .inr rfl, fun _ => rfl⟩

def readFlag (value : OptionValue) : Bool := value ≠ 0
def readSize (value : OptionValue) : Nat := value.toInt.toNat

def override (options : ServerOptions) (entries : List (OptionID × OptionValue)) : ServerOptions where
  protocol := setTo kOptionProtocol id entries options.protocol
  switchWaitDelay := setTo kOptionScreenSwitchDelay readSize entries options.switchWaitDelay
  switchTwoTapDelay := setTo kOptionScreenSwitchTwoTap readSize entries options.switchTwoTapDelay
  switchNeedsShift := setTo kOptionScreenSwitchNeedsShift readFlag entries options.switchNeedsShift
  switchNeedsControl :=
    setTo kOptionScreenSwitchNeedsControl readFlag entries options.switchNeedsControl
  switchNeedsAlt := setTo kOptionScreenSwitchNeedsAlt readFlag entries options.switchNeedsAlt
  relativeMoves := setTo kOptionRelativeMouseMoves readFlag entries options.relativeMoves
  defaultLockToScreenState :=
    setTo kOptionDefaultLockToScreenState readFlag entries options.defaultLockToScreenState
  disableLockToScreen := setTo kOptionDisableLockToScreen readFlag entries options.disableLockToScreen
  enableClipboard := setTo kOptionClipboardSharing readFlag entries options.enableClipboard
  maximumClipboardSize := setTo kOptionClipboardSharingSize readSize entries options.maximumClipboardSize

theorem override_cons :
    options.override (option :: entries) = (options.override [option]).override entries := by
  unfold override
  congr 1
  all_goals exact setTo_cons

theorem override_append {later : List (OptionID × OptionValue)} :
    options.override (entries ++ later) = (options.override entries).override later := by
  induction entries generalizing options with
  | nil => rfl
  | cons option entries ih =>
    rw [List.cons_append, override_cons, ih, ← override_cons]

theorem processOption_cases
    (h : processOption (options, server) option = some (next, later)) :
    next = options.override [option] ∧
      (later = server ∨ later = server.stopSwitchWait ∨ later = server.stopSwitchTwoTap) := by
  obtain ⟨id, value⟩ := option
  unfold processOption at h
  dsimp only at h
  -- each option sets its own member
  by_cases hprotocol : id = kOptionProtocol
  · rw [if_pos hprotocol] at h
    by_cases hunknown : value = NetworkProtocol.unknown
    · rw [if_pos hunknown] at h
      cases h
    · rw [if_neg hunknown] at h
      obtain ⟨hnext, hlater⟩ := Prod.mk.inj (Option.some.inj h)
      exact ⟨hprotocol ▸ hnext.symm, .inl hlater.symm⟩
  rw [if_neg hprotocol] at h
  by_cases hdelay : id = kOptionScreenSwitchDelay
  · rw [if_pos hdelay] at h
    obtain ⟨hnext, hlater⟩ := Prod.mk.inj (Option.some.inj h)
    exact ⟨hdelay ▸ hnext.symm, .inr (.inl hlater.symm)⟩
  rw [if_neg hdelay] at h
  by_cases htap : id = kOptionScreenSwitchTwoTap
  · rw [if_pos htap] at h
    obtain ⟨hnext, hlater⟩ := Prod.mk.inj (Option.some.inj h)
    exact ⟨htap ▸ hnext.symm, .inr (.inr hlater.symm)⟩
  rw [if_neg htap] at h
  by_cases hcontrol : id = kOptionScreenSwitchNeedsControl
  · rw [if_pos hcontrol] at h
    obtain ⟨hnext, hlater⟩ := Prod.mk.inj (Option.some.inj h)
    exact ⟨hcontrol ▸ hnext.symm, .inl hlater.symm⟩
  rw [if_neg hcontrol] at h
  by_cases hshift : id = kOptionScreenSwitchNeedsShift
  · rw [if_pos hshift] at h
    obtain ⟨hnext, hlater⟩ := Prod.mk.inj (Option.some.inj h)
    exact ⟨hshift ▸ hnext.symm, .inl hlater.symm⟩
  rw [if_neg hshift] at h
  by_cases halt : id = kOptionScreenSwitchNeedsAlt
  · rw [if_pos halt] at h
    obtain ⟨hnext, hlater⟩ := Prod.mk.inj (Option.some.inj h)
    exact ⟨halt ▸ hnext.symm, .inl hlater.symm⟩
  rw [if_neg halt] at h
  by_cases hmoves : id = kOptionRelativeMouseMoves
  · rw [if_pos hmoves] at h
    obtain ⟨hnext, hlater⟩ := Prod.mk.inj (Option.some.inj h)
    exact ⟨hmoves ▸ hnext.symm, .inl hlater.symm⟩
  rw [if_neg hmoves] at h
  by_cases hdefault : id = kOptionDefaultLockToScreenState
  · rw [if_pos hdefault] at h
    obtain ⟨hnext, hlater⟩ := Prod.mk.inj (Option.some.inj h)
    exact ⟨hdefault ▸ hnext.symm, .inl hlater.symm⟩
  rw [if_neg hdefault] at h
  by_cases hdisable : id = kOptionDisableLockToScreen
  · rw [if_pos hdisable] at h
    obtain ⟨hnext, hlater⟩ := Prod.mk.inj (Option.some.inj h)
    exact ⟨hdisable ▸ hnext.symm, .inl hlater.symm⟩
  rw [if_neg hdisable] at h
  by_cases hsharing : id = kOptionClipboardSharing
  · rw [if_pos hsharing] at h
    obtain ⟨hnext, hlater⟩ := Prod.mk.inj (Option.some.inj h)
    exact ⟨hsharing ▸ hnext.symm, .inl hlater.symm⟩
  rw [if_neg hsharing] at h
  by_cases hsize : id = kOptionClipboardSharingSize
  · rw [if_pos hsize] at h
    obtain ⟨hnext, hlater⟩ := Prod.mk.inj (Option.some.inj h)
    exact ⟨hsize ▸ hnext.symm, .inl hlater.symm⟩
  rw [if_neg hsize] at h
  -- and any other none
  obtain ⟨rfl, hlater⟩ := Prod.mk.inj (Option.some.inj h)
  refine ⟨?_, .inl hlater.symm⟩
  unfold override
  rw [setTo_of_ne hprotocol, setTo_of_ne hdelay, setTo_of_ne htap, setTo_of_ne hshift,
    setTo_of_ne hcontrol, setTo_of_ne halt, setTo_of_ne hmoves, setTo_of_ne hdefault,
    setTo_of_ne hdisable, setTo_of_ne hsharing, setTo_of_ne hsize]

theorem override_of_foldlM
    (h : entries.foldlM processOption (options, server) = some (next, later)) :
    next = options.override entries := by
  induction entries generalizing options server with
  | nil =>
    obtain ⟨rfl, -⟩ := Prod.mk.inj (Option.some.inj h)
    rfl
  | cons option entries ih =>
    rw [List.foldlM_cons] at h
    obtain ⟨⟨middle, between⟩, hoption, hentries⟩ := Option.bind_eq_some_iff.mp h
    rw [ih hentries, (processOption_cases hoption).1, ← override_cons]

structure Forgettable (options : ServerOptions) (entries : List (OptionID × OptionValue)) : Prop where
  protocol : options.protocol = 1 ∨ ∃ value, (kOptionProtocol, value) ∈ entries
  switchWaitDelay :
    options.switchWaitDelay = 0 ∨ ∃ value, (kOptionScreenSwitchDelay, value) ∈ entries
  switchTwoTapDelay :
    options.switchTwoTapDelay = 0 ∨ ∃ value, (kOptionScreenSwitchTwoTap, value) ∈ entries
  relativeMoves :
    options.relativeMoves = false ∨ ∃ value, (kOptionRelativeMouseMoves, value) ∈ entries
  defaultLockToScreenState : options.defaultLockToScreenState = false ∨
    ∃ value, (kOptionDefaultLockToScreenState, value) ∈ entries
  disableLockToScreen :
    options.disableLockToScreen = false ∨ ∃ value, (kOptionDisableLockToScreen, value) ∈ entries
  enableClipboard :
    options.enableClipboard = true ∨ ∃ value, (kOptionClipboardSharing, value) ∈ entries
  maximumClipboardSize : options.maximumClipboardSize = 2 ^ 31 - 1 ∨
    ∃ value, (kOptionClipboardSharingSize, value) ∈ entries

/-- As `processOptions` begins. -/
def resetModifiers (options : ServerOptions) : ServerOptions :=
  { options with switchNeedsShift := false, switchNeedsControl := false, switchNeedsAlt := false }

theorem override_resetModifiers_iff :
    options.resetModifiers.override entries = ({} : ServerOptions).override entries ↔
      options.Forgettable entries := by
  unfold override resetModifiers
  rw [ServerOptions.mk.injEq]
  constructor
  · rintro ⟨hprotocol, hdelay, htap, -, -, -, hmoves, hdefault, hdisable, hsharing, hsize⟩
    exact ⟨setTo_eq_iff.mp hprotocol, setTo_eq_iff.mp hdelay, setTo_eq_iff.mp htap,
      setTo_eq_iff.mp hmoves, setTo_eq_iff.mp hdefault, setTo_eq_iff.mp hdisable,
      setTo_eq_iff.mp hsharing, setTo_eq_iff.mp hsize⟩
  · rintro ⟨hprotocol, hdelay, htap, hmoves, hdefault, hdisable, hsharing, hsize⟩
    exact ⟨setTo_eq_iff.mpr hprotocol, setTo_eq_iff.mpr hdelay, setTo_eq_iff.mpr htap, rfl, rfl, rfl,
      setTo_eq_iff.mpr hmoves, setTo_eq_iff.mpr hdefault, setTo_eq_iff.mpr hdisable,
      setTo_eq_iff.mpr hsharing, setTo_eq_iff.mpr hsize⟩

end ServerOptions

namespace ConfiguredServer

variable {Fraction : Type} {site : ServerSite Fraction} {io : ServerIo}
  {configured next : ConfiguredServer Fraction} {config : Config Fraction}

/-- A reload whose configuration is accepted. -/
def acceptConfig (site : ServerSite Fraction) (configured : ConfiguredServer Fraction)
    (call : ServerIo × Config Fraction) : Option (ConfiguredServer Fraction) :=
  match ({ configured with config := call.2 } : ConfiguredServer Fraction).setConfig site call.1
      call.2 with
  | some (true, next) => some next
  | _ => none

theorem options_of_processOptions (h : configured.processOptions site io = some next) :
    next.options =
      configured.options.resetModifiers.override configured.config.globalOptions.entries := by
  obtain ⟨⟨options, server⟩, hoptions, rfl⟩ := Option.map_eq_some_iff.mp h
  exact ServerOptions.override_of_foldlM hoptions

theorem options_of_acceptConfig (h : acceptConfig site configured (io, config) = some next) :
    next.options = configured.options.resetModifiers.override config.globalOptions.entries := by
  unfold acceptConfig at h
  split at h
  · rename_i accepted haccepted
    obtain rfl := Option.some.inj h
    unfold setConfig at haccepted
    split at haccepted
    · cases haccepted
    obtain ⟨processed, hprocessed, hpair⟩ := Option.map_eq_some_iff.mp haccepted
    obtain rfl : processed = accepted := (Prod.mk.inj hpair).2
    exact options_of_processOptions hprocessed
  · cases h

/-- All that the configurations of a sequence set, in its order. -/
def setBy (calls : List (ServerIo × Config Fraction)) : List (OptionID × OptionValue) :=
  calls.flatMap fun call => call.2.globalOptions.entries

theorem options_of_foldlM {calls : List (ServerIo × Config Fraction)}
    (h : calls.foldlM (acceptConfig site) configured = some next) :
    next.options.resetModifiers = (configured.options.override (setBy calls)).resetModifiers := by
  induction calls generalizing configured with
  | nil =>
    obtain rfl : configured = next := Option.some.inj h
    rfl
  | cons call calls ih =>
    rw [List.foldlM_cons] at h
    obtain ⟨middle, hcall, hcalls⟩ := Option.bind_eq_some_iff.mp h
    have hset : setBy (call :: calls) = call.2.globalOptions.entries ++ setBy calls :=
      List.flatMap_cons
    rw [ih hcalls, options_of_acceptConfig hcall, hset, ServerOptions.override_append]
    rfl

theorem options_after_reload {start : ConfiguredServer Fraction} (hstart : start.options = {})
    {earlier : List (ServerIo × Config Fraction)}
    (h : (earlier ++ [(io, config)]).foldlM (acceptConfig site) start = some next) :
    next.options = ({} : ServerOptions).override config.globalOptions.entries ↔
      (({} : ServerOptions).override (setBy earlier)).Forgettable config.globalOptions.entries := by
  rw [List.foldlM_append] at h
  obtain ⟨before, hearlier, hlast⟩ := Option.bind_eq_some_iff.mp h
  rw [List.foldlM_cons] at hlast
  obtain ⟨last, haccepted, hnil⟩ := Option.bind_eq_some_iff.mp hlast
  obtain rfl : last = next := Option.some.inj hnil
  rw [options_of_acceptConfig haccepted, options_of_foldlM hearlier, hstart]
  exact ServerOptions.override_resetModifiers_iff

/-- **Reloading.** Two histories that end with the same configuration leave the defaults overridden
by it, both of them, exactly if each sets no more than the configuration sets again. -/
theorem reload_forgets {start other : ConfiguredServer Fraction} (hstart : start.options = {})
    (hother : other.options = {}) {earlier history : List (ServerIo × Config Fraction)}
    {otherIo : ServerIo} {last : ConfiguredServer Fraction}
    (h : (earlier ++ [(io, config)]).foldlM (acceptConfig site) start = some next)
    (hlast : (history ++ [(otherIo, config)]).foldlM (acceptConfig site) other = some last) :
    (next.options = last.options ∧
        last.options = ({} : ServerOptions).override config.globalOptions.entries) ↔
      (({} : ServerOptions).override (setBy earlier)).Forgettable config.globalOptions.entries ∧
        (({} : ServerOptions).override (setBy history)).Forgettable
          config.globalOptions.entries := by
  rw [← options_after_reload hstart h, ← options_after_reload hother hlast]
  constructor
  · rintro ⟨hsame, hdefaults⟩
    exact ⟨hsame.trans hdefaults, hdefaults⟩
  · rintro ⟨hnext, hdefaults⟩
    exact ⟨hnext.trans hdefaults.symm, hdefaults⟩

def lonelySite : ServerSite Unit where
  float :=
    { ofInt _ := (), half := (), add _ _ := (), sub _ _ := (), mul _ _ := (), div _ _ := ()
      lt _ _ := false, le _ _ := true, truncate _ := 0 }
  primaryClient := 0
  clientName _ := "desk"

def lonelyConfig (globalOptions : ScreenOptions) : Config Unit where
  map := [("desk", {})]
  nameToCanonicalName := [("desk", "desk")]
  globalOptions

def lonelyIo : ServerIo where
  shape _ := ⟨0, 0, 100, 100⟩

def lonelyStart : ConfiguredServer Unit where
  config := lonelyConfig .empty
  server := { clientSet := [0], clients := [("desk", 0)], active := 0, x := 50, y := 50 }

def unshared : Config Unit := lonelyConfig ⟨[(kOptionClipboardSharing, 0)], ScreenOptions.sorted_sharingOff⟩

theorem reload_forgets_unshared :
    ∃ next last, [(lonelyIo, unshared), (lonelyIo, unshared)].foldlM (acceptConfig lonelySite)
        lonelyStart = some next ∧
      [(lonelyIo, unshared)].foldlM (acceptConfig lonelySite) lonelyStart = some last ∧
      next.options = last.options := by
  obtain ⟨next, hnext⟩ : ∃ next, ([(lonelyIo, unshared)] ++ [(lonelyIo, unshared)]).foldlM
      (acceptConfig lonelySite) lonelyStart = some next := ⟨_, rfl⟩
  obtain ⟨last, hlast⟩ : ∃ last, ([] ++ [(lonelyIo, unshared)]).foldlM
      (acceptConfig lonelySite) lonelyStart = some last := ⟨_, rfl⟩
  have hset : ∃ value, (kOptionClipboardSharing, value) ∈ unshared.globalOptions.entries :=
    ⟨0, List.mem_singleton_self _⟩
  have hforgets := (reload_forgets rfl rfl hnext hlast).mpr
    ⟨⟨.inl rfl, .inl rfl, .inl rfl, .inl rfl, .inl rfl, .inl rfl, .inr hset, .inl rfl⟩,
      ⟨.inl rfl, .inl rfl, .inl rfl, .inl rfl, .inl rfl, .inl rfl, .inl rfl, .inl rfl⟩⟩
  exact ⟨next, last, hnext, hlast, hforgets.1⟩

/-- Sharing stays off although the last configuration does not mention it. -/
theorem reload_remembers :
    ¬ ∀ (calls other : List (ServerIo × Config Unit)) (last : ServerIo × Config Unit)
      (next after : ConfiguredServer Unit),
      (calls ++ [last]).foldlM (acceptConfig lonelySite) lonelyStart = some next →
      (other ++ [last]).foldlM (acceptConfig lonelySite) lonelyStart = some after →
      next.options = after.options := by
  intro hsame
  have hoptions := hsame [(lonelyIo, unshared)] [] (lonelyIo, lonelyConfig .empty) _ _ rfl rfl
  exact absurd (congrArg ServerOptions.enableClipboard hoptions) (by decide)

end ConfiguredServer

end DeskflowPlus
