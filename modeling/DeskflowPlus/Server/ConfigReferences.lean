import DeskflowPlus.Lib.Run
import DeskflowPlus.Server.Config
import Mathlib.Data.Set.Finite.Range
import Mathlib.Tactic.SplitIfs

/-!
# References in the configuration

Aliases and links refer to screens by name. An alias keeps the text it was given for its screen, and
`removeScreen` compares that text exactly, so an alias whose screen was spelled in another case outlives
the screen. `renameScreen` updates the aliases only if it was called with the screen's own name,
`removeAlias` leaves links that name the alias, and `connect` takes any destination. References stay
intact just as long as no call does one of these things.
-/

namespace DeskflowPlus

inductive ConfigCall (Fraction : Type) where
  | addScreen (name : String)
  | renameScreen (oldName newName : String)
  | removeScreen (name : String)
  | removeAllScreens
  | addAlias (canonical alternative : String)
  | removeAlias (alternative : String)
  | connect (srcName : String) (srcSide : Direction) (srcInterval : Fraction × Fraction)
      (dstName : String) (dstInterval : Fraction × Fraction)
  | disconnect (srcName : String) (srcSide : Direction)
  | disconnectAt (srcName : String) (srcSide : Direction) (position : Fraction)

theorem caselessEqual_iff {a b : String} : caselessEqual a b = true ↔ lower a = lower b :=
  decide_eq_true_iff

theorem eq_empty_of_lower {name : String} (h : lower name = lower "") : name = "" := by
  apply String.toList_injective
  exact List.map_eq_nil_iff.mp h

theorem infinite_range_lower : (Set.range lower).Infinite := by
  let repeated (n : Nat) : String := String.ofList (List.replicate n 'a')
  have hlength (n : Nat) : (lower (repeated n)).length = n := by
    simp [lower, repeated]
  apply Set.infinite_of_injective_forall_mem (f := fun n => lower (repeated n))
  · intro m n h
    calc m = (lower (repeated m)).length := (hlength m).symm
      _ = (lower (repeated n)).length := congrArg List.length h
      _ = n := hlength n
  · exact fun n => ⟨repeated n, rfl⟩

namespace Config

variable {Fraction : Type} (float : FractionArithmetic Fraction)
  (config : Config Fraction)

def screens : List String := config.map.map Prod.fst

def Linked (name : String) : Prop :=
  ∃ screen ∈ config.map, ∃ link ∈ screen.2.neighbors, lower link.2.name = lower name

def Resolves (name : String) : Prop :=
  config.isScreen name = true ∧ config.canonicalName name ∈ config.screens

structure Intact : Prop where
  names : ∀ name, config.isScreen name = true → config.Resolves name
  idempotent : ∀ name, config.canonicalName (config.canonicalName name) = config.canonicalName name
  links : ∀ screen ∈ config.map, ∀ link ∈ screen.2.neighbors, config.Resolves link.2.name

/-- What the calls rely on of both maps. -/
structure Consistent : Prop where
  screensDistinct : KeyedList.Distinct lower config.map
  namesDistinct : KeyedList.Distinct lower config.nameToCanonicalName
  own : ∀ screen ∈ config.screens, (screen, screen) ∈ config.nameToCanonicalName
  target : ∀ entry ∈ config.nameToCanonicalName, entry.2 ∈ config.screens
  unnamed : ∀ entry ∈ config.nameToCanonicalName, entry.1 = "" → entry.2 = ""
  known : ∀ screen ∈ config.map, ∀ link ∈ screen.2.neighbors, config.isScreen link.2.name = true

variable {config} {name other : String}

theorem isScreen_iff :
    config.isScreen name = true ↔
      ∃ entry ∈ config.nameToCanonicalName, lower entry.1 = lower name :=
  KeyedList.isSome_find

theorem isScreen_congr (h : lower name = lower other) :
    config.isScreen name = config.isScreen other :=
  congrArg Option.isSome (KeyedList.find_congr h)

theorem canonicalName_congr (h : lower name = lower other) :
    config.canonicalName name = config.canonicalName other :=
  congrArg (Option.getD · "") (KeyedList.find_congr h)

theorem canonicalName_of_unknown (h : ¬ config.isScreen name = true) :
    config.canonicalName name = "" := by
  have hnone : find config.nameToCanonicalName name = none :=
    Option.not_isSome_iff_eq_none.mp h
  rw [canonicalName, hnone]
  rfl

theorem exists_of_isScreen (h : config.isScreen name = true) :
    ∃ found, (found, config.canonicalName name) ∈ config.nameToCanonicalName ∧
      lower found = lower name := by
  obtain ⟨canonical, hcanonical⟩ := Option.isSome_iff_exists.mp h
  have hname : config.canonicalName name = canonical := by
    rw [canonicalName, hcanonical]
    rfl
  rw [hname]
  exact KeyedList.mem_of_find hcanonical

theorem exists_unknown : ∃ name, ¬ config.isScreen name = true := by
  obtain ⟨name, hname⟩ :=
    KeyedList.exists_find_eq_none infinite_range_lower config.nameToCanonicalName
  exact ⟨name, Option.not_isSome_iff_eq_none.mpr hname⟩

theorem mem_screens {screen : String} :
    screen ∈ config.screens ↔ ∃ cell, (screen, cell) ∈ config.map := by
  simp [screens]

theorem map_fst_mapCells {f : Cell Fraction → Cell Fraction} :
    (config.mapCells f).map.map Prod.fst = config.screens := by
  simp [mapCells, screens, Function.comp_def]

theorem mem_map_fst_erase {screen canonical : String} :
    screen ∈ (erase config.map canonical).map Prod.fst ↔
      screen ∈ config.screens ∧ lower screen ≠ lower canonical := by
  simp only [List.mem_map, erase, KeyedList.mem_erase, screens]
  constructor
  · rintro ⟨entry, ⟨hentry, hclass⟩, rfl⟩
    exact ⟨⟨entry, hentry, rfl⟩, hclass⟩
  · rintro ⟨⟨entry, hentry, rfl⟩, hclass⟩
    exact ⟨entry, ⟨hentry, hclass⟩, rfl⟩

namespace Consistent

variable (hconfig : config.Consistent)

include hconfig

theorem canonicalName_of_mem {entry : String × String} (h : entry ∈ config.nameToCanonicalName)
    (hname : lower entry.1 = lower name) : config.canonicalName name = entry.2 := by
  have hfind := hconfig.namesDistinct.find_of_mem h hname
  rw [canonicalName, find, hfind]
  rfl

theorem isScreen_own {screen : String} (h : screen ∈ config.screens) :
    config.isScreen screen = true :=
  isScreen_iff.mpr ⟨_, hconfig.own screen h, rfl⟩

theorem canonicalName_own {screen : String} (h : screen ∈ config.screens) :
    config.canonicalName screen = screen :=
  hconfig.canonicalName_of_mem (hconfig.own screen h) rfl

theorem mem_screens_canonicalName (h : config.isScreen name = true) :
    config.canonicalName name ∈ config.screens := by
  obtain ⟨found, hfound, -⟩ := exists_of_isScreen h
  exact hconfig.target _ hfound

theorem intact : config.Intact where
  names name hname := ⟨hname, hconfig.mem_screens_canonicalName hname⟩
  idempotent name := by
    by_cases hname : config.isScreen name = true
    · exact hconfig.canonicalName_own (hconfig.mem_screens_canonicalName hname)
    rw [canonicalName_of_unknown hname]
    by_cases hempty : config.isScreen "" = true
    · obtain ⟨found, hfound, hclass⟩ := exists_of_isScreen hempty
      exact hconfig.unnamed _ hfound (eq_empty_of_lower hclass)
    · exact canonicalName_of_unknown hempty
  links screen hscreen link hlink := by
    have hknown := hconfig.known screen hscreen link hlink
    exact ⟨hknown, hconfig.mem_screens_canonicalName hknown⟩

theorem of_cells {map : List (String × Cell Fraction)}
    (hkeys : map.map Prod.fst = config.screens)
    (hlinks : ∀ screen ∈ map, ∀ link ∈ screen.2.neighbors, config.isScreen link.2.name = true) :
    Consistent { config with map } where
  screensDistinct := by
    show (map.map Prod.fst).Pairwise _
    rw [hkeys]
    exact hconfig.screensDistinct
  namesDistinct := hconfig.namesDistinct
  own screen hscreen := by
    have hscreen : screen ∈ map.map Prod.fst := hscreen
    rw [hkeys] at hscreen
    exact hconfig.own screen hscreen
  target entry hentry := by
    show entry.2 ∈ map.map Prod.fst
    rw [hkeys]
    exact hconfig.target entry hentry
  unnamed := hconfig.unnamed
  known := hlinks

end Consistent

namespace Consistent

variable (hconfig : config.Consistent)

include hconfig

theorem eq_of_lower {x y : String} (hx : x ∈ config.screens) (hy : y ∈ config.screens)
    (h : lower x = lower y) : x = y := by
  have hsame := hconfig.namesDistinct.eq_of_mem (hconfig.own x hx) (hconfig.own y hy) h
  exact (Prod.mk.inj hsame).1

theorem find_map_eq_none (h : ¬ config.isScreen name = true) : find config.map name = none := by
  refine KeyedList.find_eq_none.mpr fun entry hentry hclass => h ?_
  have hscreen : entry.1 ∈ config.screens := List.mem_map_of_mem hentry
  exact isScreen_iff.mpr ⟨_, hconfig.own _ hscreen, hclass⟩

theorem addScreen (name : String) : (config.addScreen name).2.Consistent := by
  unfold Config.addScreen
  split_ifs with hname
  · exact hconfig
  have hmap := hconfig.find_map_eq_none hname
  have hnames : find config.nameToCanonicalName name = none :=
    Option.not_isSome_iff_eq_none.mp hname
  dsimp only
  rw [Config.insert, KeyedList.insert_of_find_eq_none hmap, Config.insert,
    KeyedList.insert_of_find_eq_none hnames]
  refine {
    screensDistinct := hconfig.screensDistinct.cons hmap
    namesDistinct := hconfig.namesDistinct.cons hnames
    own := fun screen hscreen => ?_
    target := fun entry hentry => ?_
    unnamed := fun entry hentry hempty => ?_
    known := fun screen hscreen link hlink => ?_ }
  · rcases List.mem_cons.mp hscreen with rfl | hold
    · exact List.mem_cons_self
    · exact List.mem_cons_of_mem _ (hconfig.own screen hold)
  · rcases List.mem_cons.mp hentry with rfl | hold
    · exact List.mem_cons_self
    · exact List.mem_cons_of_mem _ (hconfig.target entry hold)
  · rcases List.mem_cons.mp hentry with rfl | hold
    · exact hempty
    · exact hconfig.unnamed entry hold hempty
  · rcases List.mem_cons.mp hscreen with rfl | hold
    · cases hlink
    · obtain ⟨entry, hentry, hclass⟩ := isScreen_iff.mp (hconfig.known screen hold link hlink)
      exact isScreen_iff.mpr ⟨entry, List.mem_cons_of_mem _ hentry, hclass⟩

theorem canonicalName_mem_screens
    (h : (find config.map (config.canonicalName name)).isSome = true) :
    config.canonicalName name ∈ config.screens := by
  by_cases hname : config.isScreen name = true
  · exact hconfig.mem_screens_canonicalName hname
  rw [canonicalName_of_unknown hname] at h ⊢
  obtain ⟨entry, hentry, hclass⟩ := KeyedList.isSome_find.mp h
  rw [← eq_empty_of_lower hclass]
  exact List.mem_map_of_mem hentry

theorem removeScreen (name : String) : (config.removeScreen name).Consistent := by
  unfold Config.removeScreen
  dsimp only
  split_ifs with hfind
  · exact hconfig
  have hcanonical : config.canonicalName name ∈ config.screens := by
    apply hconfig.canonicalName_mem_screens
    rwa [Option.isNone_iff_eq_none, ← Option.not_isSome_iff_eq_none, not_not] at hfind
  have hkeys : (({ config with map := Config.erase config.map (config.canonicalName name) } :
      Config Fraction).mapCells (·.removeName (config.sameName name))).screens =
      (Config.erase config.map (config.canonicalName name)).map Prod.fst := map_fst_mapCells
  refine {
    screensDistinct := ?_
    namesDistinct := hconfig.namesDistinct.filter _
    own := fun screen hscreen => ?_
    target := fun entry hentry => ?_
    unnamed := fun entry hentry => hconfig.unnamed entry (List.mem_filter.mp hentry).1
    known := fun screen hscreen link hlink => ?_ }
  · show (Config.screens _).Pairwise _
    rw [screens] at hkeys
    rw [screens, hkeys]
    exact hconfig.screensDistinct.erase
  · obtain ⟨hold, hclass⟩ := mem_map_fst_erase.mp (hkeys ▸ hscreen)
    refine List.mem_filter.mpr ⟨hconfig.own screen hold, decide_eq_true ?_⟩
    exact fun hsame => hclass (congrArg lower hsame)
  · obtain ⟨hold, hother⟩ := List.mem_filter.mp hentry
    have hother : entry.2 ≠ config.canonicalName name := of_decide_eq_true hother
    have hscreen := hconfig.target entry hold
    show entry.2 ∈ Config.screens _
    rw [screens] at hkeys
    rw [screens, hkeys]
    refine mem_map_fst_erase.mpr ⟨hscreen, fun hclass => hother ?_⟩
    exact hconfig.eq_of_lower hscreen hcanonical hclass
  · obtain ⟨old, hold, rfl⟩ := List.mem_map.mp hscreen
    obtain ⟨hlink, hkept⟩ := List.mem_filter.mp hlink
    have hknown := hconfig.known old (KeyedList.mem_erase.mp hold).1 link hlink
    obtain ⟨found, hfound, hclass⟩ := exists_of_isScreen hknown
    refine isScreen_iff.mpr ⟨_, List.mem_filter.mpr ⟨hfound, decide_eq_true ?_⟩, hclass⟩
    intro hsame
    have hsame : config.sameName name link.2.name = true :=
      caselessEqual_iff.mpr (congrArg lower hsame)
    rw [hsame] at hkept
    cases hkept

omit hconfig in
theorem removeAllScreens : config.removeAllScreens.Consistent where
  screensDistinct := List.Pairwise.nil
  namesDistinct := List.Pairwise.nil
  own _ hscreen := by cases hscreen
  target _ hentry := by cases hentry
  unnamed _ hentry := by cases hentry
  known _ hscreen := by cases hscreen

variable {cell : Cell Fraction}

omit hconfig in
theorem map_fst_updateCell :
    (config.updateCell name cell).map.map Prod.fst = config.screens := by
  rw [updateCell, screens, List.map_map]
  refine List.map_congr_left fun entry _ => ?_
  dsimp only [Function.comp]
  split <;> rfl

theorem updateCell (hlinks : ∀ link ∈ cell.neighbors, config.isScreen link.2.name = true) :
    (config.updateCell name cell).Consistent := by
  refine hconfig.of_cells map_fst_updateCell fun screen hscreen link hlink => ?_
  obtain ⟨old, hold, rfl⟩ := List.mem_map.mp hscreen
  split at hlink
  · exact hlinks link hlink
  · exact hconfig.known old hold link hlink

theorem known_of_find (h : find config.map name = some cell) :
    ∀ link ∈ cell.neighbors, config.isScreen link.2.name = true := by
  obtain ⟨found, hfound, -⟩ := KeyedList.mem_of_find h
  exact hconfig.known _ hfound

theorem disconnect (srcName : String) (srcSide : Direction) :
    (config.disconnect srcName srcSide).2.Consistent := by
  unfold Config.disconnect
  split
  · exact hconfig
  rename_i cell hcell
  refine hconfig.updateCell fun link hlink => ?_
  exact hconfig.known_of_find hcell link (List.mem_filter.mp hlink).1

theorem disconnectAt (srcName : String) (srcSide : Direction) (position : Fraction) :
    (config.disconnectAt float srcName srcSide position).2.Consistent := by
  unfold Config.disconnectAt
  split
  · exact hconfig
  rename_i cell hcell
  refine hconfig.updateCell fun link hlink => ?_
  exact hconfig.known_of_find hcell link (List.mem_of_mem_eraseP hlink)

end Consistent

variable (config)

/-- The destination is known, if the link is made at all. -/
def ConnectsKnown [DecidableEq Fraction] (srcName : String) (srcSide : Direction)
    (srcInterval : Fraction × Fraction) (dstName : String) : Prop :=
  let srcEdge : CellEdge Fraction := { side := srcSide, interval := srcInterval }
  ∀ cell, find config.map (config.canonicalName srcName) = some cell →
    (cell.hasEdge float srcEdge = true ∨ ¬ cell.overlaps float srcEdge = true) →
    config.isScreen dstName = true

/-- The screen is spelled as it is stored, and its new name is not empty, unless the call is refused. -/
def AliasesExactly (canonical alternative : String) : Prop :=
  ¬ config.isScreen alternative = true → (find config.map canonical).isSome = true →
    canonical ∈ config.screens ∧ alternative ≠ ""

def UnlinksFirst (alternative : String) : Prop :=
  (find config.map alternative).isNone = true → ¬ config.Linked alternative

/-- Only the screen's own name stands for it. -/
def Unaliased (canonical : String) : Prop :=
  ∀ entry ∈ config.nameToCanonicalName, entry.2 = canonical → lower entry.1 = lower canonical

/-- The screen is renamed by its own name, unless the call is refused. By an unknown name it is the
screen without a name that is found, which then has no aliases, and no links if only the case is new. -/
def RenamesOwn (oldName newName : String) : Prop :=
  let oldCanonical := config.canonicalName oldName
  (find config.map oldCanonical).isSome = true →
    (lower oldName = lower newName ∨ ¬ config.isScreen newName = true) →
    lower oldName = lower oldCanonical ∨
      config.Unaliased oldCanonical ∧ (lower oldName = lower newName → ¬ config.Linked oldCanonical)

def Careful [DecidableEq Fraction] : ConfigCall Fraction → Prop
  | .renameScreen oldName newName => config.RenamesOwn oldName newName
  | .addAlias canonical alternative => config.AliasesExactly canonical alternative
  | .removeAlias alternative => config.UnlinksFirst alternative
  | .connect srcName srcSide srcInterval dstName _ =>
    config.ConnectsKnown float srcName srcSide srcInterval dstName
  | _ => True

variable {config}

namespace Consistent

variable (hconfig : config.Consistent)

include hconfig

theorem connect [DecidableEq Fraction] {srcName dstName : String} {srcSide : Direction}
    {srcInterval dstInterval : Fraction × Fraction}
    (hcareful : config.ConnectsKnown float srcName srcSide srcInterval dstName) :
    (config.connect float srcName srcSide srcInterval dstName dstInterval).2.Consistent := by
  unfold Config.connect
  split
  · exact hconfig
  rename_i cell hcell
  split
  · exact hconfig
  rename_i added hadded
  refine hconfig.updateCell fun link hlink => ?_
  have haccepted := congrArg Prod.fst hadded
  obtain rfl := (Prod.mk.inj hadded).2
  rcases Cell.mem_of_add hlink with rfl | hold
  · exact hcareful cell hcell (Cell.add_fst.mp haccepted)
  · exact hconfig.known_of_find hcell link hold

theorem addAlias {canonical alternative : String}
    (hcareful : config.AliasesExactly canonical alternative) :
    (config.addAlias canonical alternative).2.Consistent := by
  unfold Config.addAlias
  split_ifs with hrefused
  · exact hconfig
  obtain ⟨hnew, hcanonical⟩ := not_or.mp hrefused
  obtain ⟨hscreen, hnonempty⟩ := hcareful hnew <|
    Option.isSome_iff_ne_none.mpr fun hnone => hcanonical (Option.isNone_iff_eq_none.mpr hnone)
  have hnames : find config.nameToCanonicalName alternative = none :=
    Option.not_isSome_iff_eq_none.mp hnew
  dsimp only
  rw [Config.insert, KeyedList.insert_of_find_eq_none hnames]
  refine {
    screensDistinct := hconfig.screensDistinct
    namesDistinct := hconfig.namesDistinct.cons hnames
    own := fun screen hscreen => List.mem_cons_of_mem _ (hconfig.own screen hscreen)
    target := fun entry hentry => ?_
    unnamed := fun entry hentry hempty => ?_
    known := fun screen hscreen link hlink => ?_ }
  · rcases List.mem_cons.mp hentry with rfl | hold
    · exact hscreen
    · exact hconfig.target entry hold
  · rcases List.mem_cons.mp hentry with rfl | hold
    · exact absurd hempty hnonempty
    · exact hconfig.unnamed entry hold hempty
  · obtain ⟨entry, hentry, hclass⟩ := isScreen_iff.mp (hconfig.known screen hscreen link hlink)
    exact isScreen_iff.mpr ⟨entry, List.mem_cons_of_mem _ hentry, hclass⟩

theorem removeAlias {alternative : String} (hcareful : config.UnlinksFirst alternative) :
    (config.removeAlias alternative).2.Consistent := by
  unfold Config.removeAlias
  split_ifs with hrefused
  · exact hconfig
  obtain ⟨hcanonical, -⟩ := not_or.mp hrefused
  have hnone : find config.map alternative = none := Option.not_isSome_iff_eq_none.mp hcanonical
  have hunlinked := hcareful (Option.isNone_iff_eq_none.mpr hnone)
  refine {
    screensDistinct := hconfig.screensDistinct
    namesDistinct := hconfig.namesDistinct.erase
    own := fun screen hscreen => ?_
    target := fun entry hentry => hconfig.target entry (KeyedList.mem_erase.mp hentry).1
    unnamed := fun entry hentry => hconfig.unnamed entry (KeyedList.mem_erase.mp hentry).1
    known := fun screen hscreen link hlink => ?_ }
  · refine KeyedList.mem_erase.mpr ⟨hconfig.own screen hscreen, ?_⟩
    obtain ⟨cell, hcell⟩ := mem_screens.mp hscreen
    exact KeyedList.find_eq_none.mp hnone _ hcell
  · obtain ⟨entry, hentry, hclass⟩ := isScreen_iff.mp (hconfig.known screen hscreen link hlink)
    refine isScreen_iff.mpr ⟨entry, KeyedList.mem_erase.mpr ⟨hentry, fun hsame => ?_⟩, hclass⟩
    exact hunlinked ⟨screen, hscreen, link, hlink, hclass.symm.trans hsame⟩

end Consistent

section Rename

variable {canonical newName oldName : String} {cell : Cell Fraction}

/-- Only the old screen's own name may be in the new one's way. -/
def Free (config : Config Fraction) (canonical newName : String) : Prop :=
  ∀ entry ∈ config.nameToCanonicalName, lower entry.1 = lower newName →
    lower entry.1 = lower canonical

theorem find_erase_names (hfree : config.Free canonical newName) :
    KeyedList.find lower (erase config.nameToCanonicalName canonical) newName = none := by
  refine KeyedList.find_eq_none.mpr fun entry hentry hclass => ?_
  obtain ⟨hold, hother⟩ := KeyedList.mem_erase.mp hentry
  exact hother (hfree entry hold hclass)

theorem Consistent.find_erase_map (hconfig : config.Consistent)
    (hfree : config.Free canonical newName) :
    KeyedList.find lower (erase config.map canonical) newName = none := by
  refine KeyedList.find_eq_none.mpr fun entry hentry hclass => ?_
  obtain ⟨hold, hother⟩ := KeyedList.mem_erase.mp hentry
  exact hother (hfree _ (hconfig.own entry.1 (List.mem_map_of_mem hold)) hclass)

theorem nameToCanonicalName_rekey (hfree : config.Free canonical newName) :
    (config.rekey canonical newName cell).nameToCanonicalName =
      (newName, newName) :: erase config.nameToCanonicalName canonical :=
  KeyedList.insert_of_find_eq_none (find_erase_names hfree)

theorem Consistent.map_rekey (hconfig : config.Consistent) (hfree : config.Free canonical newName) :
    (config.rekey canonical newName cell).map = (newName, cell) :: erase config.map canonical :=
  KeyedList.insert_of_find_eq_none (hconfig.find_erase_map hfree)

theorem isScreen_rekey (hfree : config.Free canonical newName) :
    (config.rekey canonical newName cell).isScreen name = true ↔
      lower newName = lower name ∨ config.isScreen name = true ∧ lower name ≠ lower canonical := by
  rw [isScreen_iff, nameToCanonicalName_rekey hfree, isScreen_iff]
  constructor
  · rintro ⟨entry, hentry, hclass⟩
    rcases List.mem_cons.mp hentry with rfl | hold
    · exact .inl hclass
    · obtain ⟨hold, hother⟩ := KeyedList.mem_erase.mp hold
      exact .inr ⟨⟨entry, hold, hclass⟩, hclass ▸ hother⟩
  · rintro (hclass | ⟨⟨entry, hentry, hclass⟩, hother⟩)
    · exact ⟨_, List.mem_cons_self, hclass⟩
    · refine ⟨entry, List.mem_cons_of_mem _ (KeyedList.mem_erase.mpr ⟨hentry, ?_⟩), hclass⟩
      rwa [hclass]

theorem isScreen_retarget {config : Config Fraction} :
    (config.retarget canonical newName).isScreen name = config.isScreen name := by
  rw [Bool.eq_iff_iff, isScreen_iff, isScreen_iff]
  constructor
  · rintro ⟨entry, hentry, hclass⟩
    obtain ⟨old, hold, rfl⟩ := List.mem_map.mp hentry
    refine ⟨old, hold, ?_⟩
    split at hclass <;> exact hclass
  · rintro ⟨entry, hentry, hclass⟩
    refine ⟨_, List.mem_map_of_mem hentry, ?_⟩
    split <;> exact hclass

def renamed (config : Config Fraction) (oldName newName : String) (cell : Cell Fraction) :
    Config Fraction :=
  let rekeyed := config.rekey (config.canonicalName oldName) newName cell
  (rekeyed.mapCells (·.rename (rekeyed.sameName oldName) newName)).retarget
    (config.canonicalName oldName) newName

theorem Consistent.free (hconfig : config.Consistent)
    (hnew : lower oldName = lower newName ∨ ¬ config.isScreen newName = true)
    (hown : lower oldName = lower (config.canonicalName oldName) ∨
      config.Unaliased (config.canonicalName oldName)) :
    config.Free (config.canonicalName oldName) newName := by
  intro entry hentry hclass
  rcases hnew with hsame | hunknown
  · have hold : lower entry.1 = lower oldName := hclass.trans hsame.symm
    rcases hown with hown | halone
    · exact hold.trans hown
    · exact halone entry hentry (hconfig.canonicalName_of_mem hentry hold).symm
  · exact absurd (isScreen_iff.mpr ⟨entry, hentry, hclass⟩) hunknown

theorem retarget_eq_self {config : Config Fraction}
    (h : ∀ entry ∈ config.nameToCanonicalName, lower entry.2 = lower canonical →
      entry.2 = newName) : config.retarget canonical newName = config := by
  have hnames : (config.nameToCanonicalName.map fun entry =>
      if caselessEqual entry.2 canonical then (entry.1, newName) else entry) =
      config.nameToCanonicalName := by
    calc _ = config.nameToCanonicalName.map id := by
          refine List.map_congr_left fun entry hentry => ?_
          split
          · rename_i hclass
            rw [← h entry hentry (caselessEqual_iff.mp hclass)]
            rfl
          · rfl
      _ = config.nameToCanonicalName := List.map_id _
  rw [retarget, hnames]

theorem Consistent.renameScreen_eq (hconfig : config.Consistent)
    (hfind : find config.map (config.canonicalName oldName) = some cell)
    (hnew : lower oldName = lower newName ∨ ¬ config.isScreen newName = true)
    (hown : lower oldName = lower (config.canonicalName oldName) ∨
      config.Unaliased (config.canonicalName oldName)) :
    (config.renameScreen oldName newName).2 = config.renamed oldName newName cell := by
  have hfree := hconfig.free hnew hown
  have hcanonical : config.canonicalName oldName ∈ config.screens :=
    hconfig.canonicalName_mem_screens (Option.isSome_iff_exists.mpr ⟨cell, hfind⟩)
  unfold renameScreen
  dsimp only
  rw [hfind]
  dsimp only
  rw [if_neg]
  · dsimp only
    split_ifs with hequal
    · rfl
    refine (retarget_eq_self fun entry hentry hclass => ?_).symm
    have hentry : entry ∈ (config.rekey (config.canonicalName oldName) newName
        cell).nameToCanonicalName := hentry
    rw [nameToCanonicalName_rekey hfree] at hentry
    rcases List.mem_cons.mp hentry with rfl | hold
    · rfl
    obtain ⟨hold, hother⟩ := KeyedList.mem_erase.mp hold
    have hsame := hconfig.eq_of_lower (hconfig.target entry hold) hcanonical hclass
    have halone := hown.resolve_left fun h => hequal (caselessEqual_iff.mpr h)
    exact absurd (halone entry hold hsame) hother
  · rintro ⟨hdiffer, hknown⟩
    rcases hnew with hsame | hunknown
    · exact hdiffer (caselessEqual_iff.mpr hsame)
    · exact hunknown hknown

theorem isScreen_renamed (hfree : config.Free (config.canonicalName oldName) newName) :
    (config.renamed oldName newName cell).isScreen name = true ↔
      lower newName = lower name ∨
        config.isScreen name = true ∧ lower name ≠ lower (config.canonicalName oldName) := by
  calc _ ↔ (config.rekey (config.canonicalName oldName) newName cell).isScreen name = true := by
        rw [renamed, isScreen_retarget]
        rfl
    _ ↔ _ := isScreen_rekey hfree

theorem known_of_not_renamed
    (hfree : config.Free (config.canonicalName oldName) newName)
    (hown : lower oldName = lower (config.canonicalName oldName) ∨
      config.Unaliased (config.canonicalName oldName) ∧
      (lower oldName = lower newName → lower name ≠ lower (config.canonicalName oldName)))
    (hknown : config.isScreen name = true)
    (hkept : ¬ (config.rekey (config.canonicalName oldName) newName cell).sameName oldName name =
      true) :
    lower newName = lower name ∨
      config.isScreen name = true ∧ lower name ≠ lower (config.canonicalName oldName) := by
  by_contra hlost
  have hold : lower name = lower (config.canonicalName oldName) := by
    by_contra hother
    exact hlost (.inr ⟨hknown, hother⟩)
  apply hkept
  apply caselessEqual_iff.mpr
  rcases hown with hown | ⟨halone, hlinked⟩
  · exact congrArg lower (canonicalName_congr (hold.trans hown.symm))
  rw [canonicalName_of_unknown (mt (isScreen_rekey hfree).mp hlost)]
  refine congrArg lower (canonicalName_of_unknown (mt (isScreen_rekey hfree).mp ?_)).symm
  rintro (hsame | ⟨hknown, hother⟩)
  · exact hlinked hsame.symm hold
  · obtain ⟨found, hfound, hclass⟩ := exists_of_isScreen hknown
    exact hother (hclass.symm.trans (halone _ hfound rfl))

theorem mem_names_renamed (hfree : config.Free (config.canonicalName oldName) newName)
    {entry : String × String}
    (h : entry ∈ (config.renamed oldName newName cell).nameToCanonicalName) :
    entry = (newName, newName) ∨
      ∃ former ∈ config.nameToCanonicalName,
        lower former.1 ≠ lower (config.canonicalName oldName) ∧
        entry = if caselessEqual former.2 (config.canonicalName oldName) then (former.1, newName)
          else former := by
  obtain ⟨former, hformer, rfl⟩ := List.mem_map.mp h
  have hformer : former ∈
      (config.rekey (config.canonicalName oldName) newName cell).nameToCanonicalName := hformer
  rw [nameToCanonicalName_rekey hfree] at hformer
  rcases List.mem_cons.mp hformer with rfl | hold
  · exact .inl (ite_self _)
  · obtain ⟨hold, hother⟩ := KeyedList.mem_erase.mp hold
    exact .inr ⟨former, hold, hother, rfl⟩

theorem fst_names_renamed (hfree : config.Free (config.canonicalName oldName) newName) :
    (config.renamed oldName newName cell).nameToCanonicalName.map Prod.fst =
      newName ::
        (erase config.nameToCanonicalName (config.canonicalName oldName)).map Prod.fst := by
  have hkeys : (config.renamed oldName newName cell).nameToCanonicalName.map Prod.fst =
      (config.rekey (config.canonicalName oldName) newName cell).nameToCanonicalName.map
        Prod.fst := by
    rw [renamed, retarget, List.map_map]
    refine List.map_congr_left fun entry _ => ?_
    dsimp only [Function.comp]
    split <;> rfl
  rw [hkeys, nameToCanonicalName_rekey hfree, List.map_cons]

theorem Consistent.fst_map_renamed (hconfig : config.Consistent)
    (hfree : config.Free (config.canonicalName oldName) newName) :
    (config.renamed oldName newName cell).screens =
      newName :: (erase config.map (config.canonicalName oldName)).map Prod.fst := by
  let rekeyed := config.rekey (config.canonicalName oldName) newName cell
  have hkeys : (rekeyed.mapCells (·.rename (rekeyed.sameName oldName) newName)).map.map Prod.fst =
      rekeyed.screens := map_fst_mapCells
  calc (config.renamed oldName newName cell).screens = rekeyed.screens := hkeys
    _ = newName :: (erase config.map (config.canonicalName oldName)).map Prod.fst := by
      rw [screens, hconfig.map_rekey hfree, List.map_cons]

theorem Consistent.exists_cell (hconfig : config.Consistent)
    (hfind : find config.map canonical = some cell) (hfree : config.Free canonical newName)
    {screen : String × Cell Fraction} (h : screen ∈ (config.rekey canonical newName cell).map) :
    ∃ former ∈ config.map, former.2 = screen.2 := by
  rw [hconfig.map_rekey hfree] at h
  rcases List.mem_cons.mp h with rfl | hold
  · obtain ⟨found, hfound, -⟩ := KeyedList.mem_of_find hfind
    exact ⟨_, hfound, rfl⟩
  · exact ⟨screen, (KeyedList.mem_erase.mp hold).1, rfl⟩

theorem Consistent.renamed (hconfig : config.Consistent)
    (hfind : find config.map (config.canonicalName oldName) = some cell)
    (hfree : config.Free (config.canonicalName oldName) newName)
    (hown : lower oldName = lower (config.canonicalName oldName) ∨
      config.Unaliased (config.canonicalName oldName) ∧
      (lower oldName = lower newName → ¬ config.Linked (config.canonicalName oldName))) :
    (config.renamed oldName newName cell).Consistent := by
  have hcanonical : config.canonicalName oldName ∈ config.screens :=
    hconfig.canonicalName_mem_screens (Option.isSome_iff_exists.mpr ⟨cell, hfind⟩)
  have hscreens : (config.renamed oldName newName cell).screens = _ :=
    hconfig.fst_map_renamed hfree
  have hnames : (config.renamed oldName newName cell).nameToCanonicalName.map Prod.fst = _ :=
    fst_names_renamed hfree
  have hrekeyed : (config.rekey (config.canonicalName oldName) newName cell).nameToCanonicalName =
      _ := nameToCanonicalName_rekey hfree
  refine {
    screensDistinct := ?_
    namesDistinct := ?_
    own := fun screen hscreen => ?_
    target := fun entry hentry => ?_
    unnamed := fun entry hentry hempty => ?_
    known := fun screen hscreen link hlink => ?_ }
  · show (Config.screens _).Pairwise _
    rw [hscreens]
    have hdistinct : KeyedList.Distinct lower ((newName, cell) :: Config.erase config.map _) :=
      hconfig.screensDistinct.erase.cons (hconfig.find_erase_map hfree)
    exact hdistinct
  · show (List.map _ _).Pairwise _
    rw [hnames]
    have hdistinct : KeyedList.Distinct lower
        ((newName, newName) :: Config.erase config.nameToCanonicalName _) :=
      hconfig.namesDistinct.erase.cons (find_erase_names hfree)
    exact hdistinct
  · rw [hscreens] at hscreen
    rcases List.mem_cons.mp hscreen with rfl | hold
    · refine List.mem_map.mpr ⟨(screen, screen), ?_, ite_self _⟩
      show _ ∈ (config.rekey _ screen cell).nameToCanonicalName
      rw [hrekeyed]
      exact List.mem_cons_self
    · obtain ⟨hold, hother⟩ := mem_map_fst_erase.mp hold
      refine List.mem_map.mpr ⟨(screen, screen), ?_, if_neg (mt caselessEqual_iff.mp hother)⟩
      show _ ∈ (config.rekey _ newName cell).nameToCanonicalName
      rw [hrekeyed]
      exact List.mem_cons_of_mem _ (KeyedList.mem_erase.mpr ⟨hconfig.own screen hold, hother⟩)
  · show _ ∈ Config.screens _
    rw [hscreens]
    rcases mem_names_renamed hfree hentry with rfl | ⟨former, hformer, hother, rfl⟩
    · exact List.mem_cons_self
    split
    · exact List.mem_cons_self
    · rename_i hdiffer
      refine List.mem_cons_of_mem _ (mem_map_fst_erase.mpr ⟨hconfig.target _ hformer, ?_⟩)
      exact mt caselessEqual_iff.mpr hdiffer
  · rcases mem_names_renamed hfree hentry with rfl | ⟨former, hformer, hother, rfl⟩
    · exact hempty
    have hformer' : former.1 = "" := by
      rw [← hempty]
      split <;> rfl
    have hvalue := hconfig.unnamed former hformer hformer'
    rw [if_neg]
    · exact hvalue
    · intro hclass
      rw [hformer'] at hother
      exact hother (hvalue ▸ caselessEqual_iff.mp hclass)
  · rw [isScreen_renamed hfree]
    obtain ⟨former, hformer, rfl⟩ := List.mem_map.mp hscreen
    obtain ⟨old, hold, hcell⟩ := hconfig.exists_cell hfind hfree hformer
    obtain ⟨before, hbefore, rfl⟩ := List.mem_map.mp hlink
    rw [← hcell] at hbefore
    split
    · exact .inl rfl
    · rename_i hkept
      refine known_of_not_renamed hfree ?_ (hconfig.known old hold before hbefore) hkept
      refine hown.imp_right fun ⟨halone, hunlinked⟩ => ⟨halone, fun hsame hclass => ?_⟩
      exact hunlinked hsame ⟨old, hold, before, hbefore, hclass⟩

theorem Consistent.exists_rekeyed (hconfig : config.Consistent)
    (hfind : find config.map canonical = some cell) (hfree : config.Free canonical newName)
    {screen : String × Cell Fraction} (h : screen ∈ config.map) :
    ∃ moved ∈ (config.rekey canonical newName cell).map, moved.2 = screen.2 := by
  rw [hconfig.map_rekey hfree]
  by_cases hclass : lower screen.1 = lower canonical
  · have hcell := hconfig.screensDistinct.find_of_mem h hclass
    exact ⟨_, List.mem_cons_self, Option.some.inj (hfind.symm.trans hcell)⟩
  · exact ⟨screen, List.mem_cons_of_mem _ (KeyedList.mem_erase.mpr ⟨h, hclass⟩), rfl⟩

theorem Consistent.renameScreen (hconfig : config.Consistent)
    (hcareful : config.RenamesOwn oldName newName) :
    (config.renameScreen oldName newName).2.Consistent := by
  cases hfind : find config.map (config.canonicalName oldName) with
  | none =>
    rw [Config.renameScreen, hfind]
    exact hconfig
  | some cell =>
    by_cases hnew : lower oldName = lower newName ∨ ¬ config.isScreen newName = true
    · have hown := hcareful (Option.isSome_iff_exists.mpr ⟨cell, hfind⟩) hnew
      have halone := hown.imp_right And.left
      rw [hconfig.renameScreen_eq hfind hnew halone]
      exact hconfig.renamed hfind (hconfig.free hnew halone) hown
    · obtain ⟨hdiffer, hknown⟩ := not_or.mp hnew
      rw [Config.renameScreen, hfind]
      dsimp only
      rw [if_pos ⟨mt caselessEqual_iff.mp hdiffer, not_not.mp hknown⟩]
      exact hconfig

end Rename

section Careless

theorem Intact.connectsKnown [DecidableEq Fraction] {srcName dstName : String}
    {srcSide : Direction} {srcInterval dstInterval : Fraction × Fraction}
    (hintact : (config.connect float srcName srcSide srcInterval dstName dstInterval).2.Intact) :
    config.ConnectsKnown float srcName srcSide srcInterval dstName := by
  intro cell hfind haccepted
  let srcEdge : CellEdge Fraction := { side := srcSide, interval := srcInterval }
  let dstEdge : CellEdge Fraction := { name := dstName, side := srcSide, interval := dstInterval }
  have hadd : (cell.add float srcEdge dstEdge).1 = true := Cell.add_fst.mpr haccepted
  have hconnect : (config.connect float srcName srcSide srcInterval dstName dstInterval).2 =
      config.updateCell (config.canonicalName srcName) (cell.add float srcEdge dstEdge).2 := by
    rw [connect, hfind]
    dsimp only
    split
    · rename_i hrefused
      rw [hrefused] at hadd
      cases hadd
    · rename_i added hadded
      rw [hadded]
  rw [hconnect] at hintact
  obtain ⟨found, hfound, hclass⟩ := KeyedList.mem_of_find hfind
  have hscreen : (found, (cell.add float srcEdge dstEdge).2) ∈
      (config.updateCell (config.canonicalName srcName) (cell.add float srcEdge dstEdge).2).map :=
    List.mem_map.mpr ⟨_, hfound, if_pos (caselessEqual_iff.mpr hclass)⟩
  exact (hintact.links _ hscreen _ (Cell.mem_add hadd)).1

namespace Consistent

variable (hconfig : config.Consistent)

include hconfig

theorem unlinksFirst_of_intact {alternative : String}
    (hintact : (config.removeAlias alternative).2.Intact) : config.UnlinksFirst alternative := by
  rintro hcanonical ⟨screen, hscreen, link, hlink, hclass⟩
  have hknown := hconfig.known screen hscreen link hlink
  rw [isScreen_congr hclass] at hknown
  rw [Config.removeAlias, if_neg] at hintact
  · have hresolved := (hintact.links screen hscreen link hlink).1
    obtain ⟨entry, hentry, hsame⟩ := isScreen_iff.mp hresolved
    exact (KeyedList.mem_erase.mp hentry).2 (hsame.trans hclass)
  · rintro (hsome | hunknown)
    · rw [Option.isNone_iff_eq_none.mp hcanonical] at hsome
      cases hsome
    · exact hunknown hknown

theorem aliasesExactly_of_intact {canonical alternative : String}
    (hintact : (config.addAlias canonical alternative).2.Intact) :
    config.AliasesExactly canonical alternative := by
  intro hnew hcanonical
  have hnames : find config.nameToCanonicalName alternative = none :=
    Option.not_isSome_iff_eq_none.mp hnew
  let added : Config Fraction :=
    { config with
      nameToCanonicalName := (alternative, canonical) :: config.nameToCanonicalName }
  have hadded : (config.addAlias canonical alternative).2 = added := by
    rw [Config.addAlias, if_neg]
    · rw [Config.insert, KeyedList.insert_of_find_eq_none hnames]
    · rintro (hknown | hnone)
      · exact hnew hknown
      · rw [Option.isNone_iff_eq_none.mp hnone] at hcanonical
        cases hcanonical
  rw [hadded] at hintact
  have halternative : added.canonicalName alternative = canonical := by
    have hdistinct : KeyedList.Distinct lower added.nameToCanonicalName :=
      hconfig.namesDistinct.cons hnames
    have hfind := hdistinct.find_of_mem List.mem_cons_self rfl
    rw [canonicalName, find, hfind]
    rfl
  have hknown : added.isScreen alternative = true :=
    isScreen_iff.mpr ⟨_, List.mem_cons_self, rfl⟩
  have hscreen : canonical ∈ config.screens := by
    have hresolved := (hintact.names alternative hknown).2
    rw [halternative] at hresolved
    exact hresolved
  refine ⟨hscreen, ?_⟩
  rintro rfl
  -- an unknown name would now stand for the screen the second time
  obtain ⟨unknown, hunknown⟩ := added.exists_unknown
  have hempty : canonical = "" := by
    calc canonical = added.canonicalName "" := halternative.symm
      _ = added.canonicalName (added.canonicalName unknown) := by
        rw [canonicalName_of_unknown hunknown]
      _ = added.canonicalName unknown := hintact.idempotent unknown
      _ = "" := canonicalName_of_unknown hunknown
  apply hnew
  rw [← hempty]
  exact hconfig.isScreen_own hscreen

theorem renamesOwn_of_intact {oldName newName : String}
    (hintact : (config.renameScreen oldName newName).2.Intact) :
    config.RenamesOwn oldName newName := by
  intro hsome hnew
  by_cases hown : lower oldName = lower (config.canonicalName oldName)
  · exact .inl hown
  obtain ⟨cell, hfind⟩ := Option.isSome_iff_exists.mp hsome
  have hcanonical := hconfig.canonicalName_mem_screens hsome
  let rekeyed := config.rekey (config.canonicalName oldName) newName cell
  have hresult : (config.renameScreen oldName newName).2 =
      rekeyed.mapCells (·.rename (rekeyed.sameName oldName) newName) := by
    rw [Config.renameScreen, hfind]
    dsimp only
    rw [if_neg]
    · exact if_neg (mt caselessEqual_iff.mp hown)
    · rintro ⟨hdiffer, hknown⟩
      rcases hnew with hsame | hunknown
      · exact hdiffer (caselessEqual_iff.mpr hsame)
      · exact hunknown hknown
  rw [hresult] at hintact
  have hrenew : lower newName ≠ lower (config.canonicalName oldName) := by
    intro hclass
    rcases hnew with hsame | hunknown
    · exact hown (hsame.trans hclass)
    · rw [isScreen_congr hclass] at hunknown
      exact hunknown (hconfig.isScreen_own hcanonical)
  -- an alias is left with the old name
  have halone : config.Unaliased (config.canonicalName oldName) := by
    intro entry hentry hvalue
    by_contra hother
    have hdistinct : KeyedList.Distinct lower rekeyed.nameToCanonicalName :=
      hconfig.namesDistinct.erase.insert
    have hmem : entry ∈ rekeyed.nameToCanonicalName :=
      KeyedList.mem_insert_of_mem (KeyedList.mem_erase.mpr ⟨hentry, hother⟩)
    have hname : rekeyed.canonicalName entry.1 = entry.2 := by
      rw [canonicalName, find, hdistinct.find_of_mem hmem rfl]
      rfl
    have hresolved : rekeyed.canonicalName entry.1 ∈ List.map Prod.fst _ :=
      (hintact.names entry.1 (isScreen_iff.mpr ⟨entry, hmem, rfl⟩)).2
    rw [hname, hvalue, map_fst_mapCells] at hresolved
    obtain ⟨screen, hscreen, hkey⟩ := List.mem_map.mp hresolved
    rcases KeyedList.mem_insert hscreen with rfl | hold
    · exact hrenew (congrArg lower hkey)
    · exact (KeyedList.mem_erase.mp hold).2 (congrArg lower hkey)
  refine .inr ⟨halone, ?_⟩
  have hfree := hconfig.free hnew (.inr halone)
  rintro hsame ⟨screen, hscreen, link, hlink, hclass⟩
  -- and so is a link, as the old name now stands for the new one, and the destination for none
  have hempty : config.canonicalName oldName = "" := by
    refine canonicalName_of_unknown fun hknown => hown ?_
    obtain ⟨found, hfound, hfoundClass⟩ := exists_of_isScreen hknown
    exact hfoundClass.symm.trans (halone _ hfound rfl)
  have hlost : ¬ rekeyed.isScreen link.2.name = true := by
    rw [isScreen_rekey hfree]
    rintro (hrenamed | ⟨-, hother⟩)
    · exact hrenew (hrenamed.trans hclass)
    · exact hother hclass
  have hold : rekeyed.canonicalName oldName = newName := by
    have hdistinct : KeyedList.Distinct lower rekeyed.nameToCanonicalName :=
      hconfig.namesDistinct.erase.insert
    have hmem : (newName, newName) ∈ rekeyed.nameToCanonicalName := by
      rw [nameToCanonicalName_rekey hfree]
      exact List.mem_cons_self
    rw [canonicalName, find, hdistinct.find_of_mem hmem hsame.symm]
    rfl
  have hkept : ¬ rekeyed.sameName oldName link.2.name = true := by
    intro hrenamed
    have hrenamed := caselessEqual_iff.mp hrenamed
    rw [canonicalName_of_unknown hlost, hold] at hrenamed
    rw [hempty] at hrenew
    exact hrenew hrenamed.symm
  obtain ⟨moved, hmoved, hcell⟩ := hconfig.exists_rekeyed hfind hfree hscreen
  have hlinked := hintact.links _ (List.mem_map_of_mem hmoved) _
    (List.mem_map_of_mem (hcell ▸ hlink))
  rw [if_neg hkept] at hlinked
  exact hlost hlinked.1

end Consistent

end Careless

variable [DecidableEq Fraction]

def apply (config : Config Fraction) : ConfigCall Fraction → Config Fraction
  | .addScreen name => (config.addScreen name).2
  | .renameScreen oldName newName => (config.renameScreen oldName newName).2
  | .removeScreen name => config.removeScreen name
  | .removeAllScreens => config.removeAllScreens
  | .addAlias canonical alternative => (config.addAlias canonical alternative).2
  | .removeAlias alternative => (config.removeAlias alternative).2
  | .connect srcName srcSide srcInterval dstName dstInterval =>
    (config.connect float srcName srcSide srcInterval dstName dstInterval).2
  | .disconnect srcName srcSide => (config.disconnect srcName srcSide).2
  | .disconnectAt srcName srcSide position => (config.disconnectAt float srcName srcSide position).2

theorem Consistent.apply {call : ConfigCall Fraction} (hconfig : config.Consistent)
    (hcareful : config.Careful float call) : (config.apply float call).Consistent := by
  cases call with
  | addScreen name => exact hconfig.addScreen name
  | renameScreen oldName newName => exact hconfig.renameScreen hcareful
  | removeScreen name => exact hconfig.removeScreen name
  | removeAllScreens => exact removeAllScreens
  | addAlias canonical alternative => exact hconfig.addAlias hcareful
  | removeAlias alternative => exact hconfig.removeAlias hcareful
  | connect => exact hconfig.connect float hcareful
  | disconnect srcName srcSide => exact hconfig.disconnect srcName srcSide
  | disconnectAt srcName srcSide position =>
    exact hconfig.disconnectAt float srcName srcSide position

theorem Consistent.careful_of_intact {call : ConfigCall Fraction} (hconfig : config.Consistent)
    (hintact : (config.apply float call).Intact) : config.Careful float call := by
  cases call with
  | renameScreen => exact hconfig.renamesOwn_of_intact hintact
  | addAlias => exact hconfig.aliasesExactly_of_intact hintact
  | removeAlias => exact hconfig.unlinksFirst_of_intact hintact
  | connect => exact Intact.connectsKnown float hintact
  | _ => trivial

/-- **References.** From the empty configuration on they stay intact just as long as every call is
careful. -/
theorem references_intact_iff_careful (calls : List (ConfigCall Fraction)) :
    (∀ before, before <+: calls → Intact (before.foldl (apply float) {})) ↔
      Throughout (apply float) (fun call config => Careful float config call) calls {} := by
  have hempty : ({} : Config Fraction).removeAllScreens.Consistent := Consistent.removeAllScreens
  refine forall_prefix_iff_throughout ?_ ?_ ?_ hempty
  · exact fun config hconfig => hconfig.intact
  · exact fun config call hconfig hcareful => hconfig.apply float hcareful
  · exact fun config call hconfig hintact => hconfig.careful_of_intact float hintact

/-- The alias survives its screen, as it was given with the screen's name in another case. -/
theorem references_not_intact :
    ¬ ∀ calls : List (ConfigCall (Fin (2 ^ 20))),
      Intact (calls.foldl (apply fixedPoint) {}) := by
  intro h
  let calls : List (ConfigCall (Fin (2 ^ 20))) :=
    [.addScreen "Desk", .addAlias "desk" "tower", .removeScreen "Desk"]
  have hintact := (h calls).names "tower" (by decide)
  cases hintact.2

end Config

end DeskflowPlus
