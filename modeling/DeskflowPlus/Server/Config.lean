import Mathlib.Algebra.GroupWithZero.Nat
import DeskflowPlus.Lib.KeyedList
import DeskflowPlus.Options.OptionTypes
import DeskflowPlus.Server.ScreenMap
import Mathlib.Tactic.SplitIfs

/-!
# The server's configuration

A configuration names the screens and their aliases, and links intervals of the screens' edges with
each other. Names keep their case, which comparisons ignore. Positions on edges are floating-point
numbers, whose arithmetic is a parameter.
-/

namespace DeskflowPlus

/-- The arithmetic of edge positions, `float` in the source. -/
structure FractionArithmetic (Fraction : Type) where
  ofInt : Int → Fraction
  half : Fraction
  add : Fraction → Fraction → Fraction
  sub : Fraction → Fraction → Fraction
  mul : Fraction → Fraction → Fraction
  div : Fraction → Fraction → Fraction
  lt : Fraction → Fraction → Bool
  le : Fraction → Fraction → Bool
  truncate : Fraction → Int

instance neZeroFixed : NeZero (2 ^ 20) := ⟨by decide⟩

def fixedPoint : FractionArithmetic (Fin (2 ^ 20)) where
  ofInt k := Fin.ofNat (2 ^ 20) (k.toNat * 1024)
  half := 512
  add a b := a + b
  sub a b := a - b
  mul a b := Fin.ofNat (2 ^ 20) (a.val * b.val / 1024)
  div a b := Fin.ofNat (2 ^ 20) (a.val * 1024 / b.val)
  lt a b := a.val < b.val
  le a b := a.val ≤ b.val
  truncate a := a.val / 1024

/-- What `CaselessCmp` compares names by. -/
def lower (name : String) : List Char := name.toList.map Char.toLower

/-- `CaselessCmp::equal`. -/
def caselessEqual (a b : String) : Bool := lower a = lower b

namespace Direction

def toNat : Direction → Nat
  | left => 1
  | right => 2
  | top => 3
  | bottom => 4

end Direction

structure CellEdge (Fraction : Type) where
  name : String := ""
  side : Direction
  interval : Fraction × Fraction

namespace CellEdge

variable {Fraction : Type} (float : FractionArithmetic Fraction)

def overlaps (x y : CellEdge Fraction) : Bool :=
  if x.side ≠ y.side then false
  else
    float.le y.interval.1 x.interval.1 && float.lt x.interval.1 y.interval.2 ||
      float.lt y.interval.1 x.interval.2 && float.le x.interval.2 y.interval.2 ||
      float.le x.interval.1 y.interval.1 && float.lt y.interval.1 x.interval.2 ||
      float.lt x.interval.1 y.interval.2 && float.le y.interval.2 x.interval.2

def isInside (edge : CellEdge Fraction) (x : Fraction) : Bool :=
  float.le edge.interval.1 x && float.lt x edge.interval.2

def transform (edge : CellEdge Fraction) (x : Fraction) : Fraction :=
  float.div (float.sub x edge.interval.1) (float.sub edge.interval.2 edge.interval.1)

def inverseTransform (edge : CellEdge Fraction) (x : Fraction) : Fraction :=
  float.add (float.mul x (float.sub edge.interval.2 edge.interval.1)) edge.interval.1

def less (x y : CellEdge Fraction) : Bool :=
  if x.side.toNat < y.side.toNat then true
  else if y.side.toNat < x.side.toNat then false
  else float.lt x.interval.1 y.interval.1

end CellEdge

/-- `m_neighbors` is a map in the order of `CellEdge.less`. -/
structure Cell (Fraction : Type) where
  neighbors : List (CellEdge Fraction × CellEdge Fraction) := []
  options : ScreenOptions := .empty

namespace Cell

variable {Fraction : Type} (float : FractionArithmetic Fraction)

/-- The links up to the edge, and those behind it: before and from `upper_bound` on. -/
def upTo (cell : Cell Fraction) (edge : CellEdge Fraction) :
    List (CellEdge Fraction × CellEdge Fraction) :=
  cell.neighbors.takeWhile fun link => !edge.less float link.1

def behind (cell : Cell Fraction) (edge : CellEdge Fraction) :
    List (CellEdge Fraction × CellEdge Fraction) :=
  cell.neighbors.dropWhile fun link => !edge.less float link.1

def getLink (cell : Cell Fraction) (side : Direction) (position : Fraction) :
    Option (CellEdge Fraction × CellEdge Fraction) :=
  match (cell.upTo float { side, interval := (position, position) }).getLast? with
  | none => none
  | some link =>
    if link.1.side = side ∧ link.1.isInside float position then some link else none

/-- Neither before nor behind the other in the map. -/
def sameKey (x y : CellEdge Fraction) : Bool := !x.less float y && !y.less float x

def overlaps (cell : Cell Fraction) (edge : CellEdge Fraction) : Bool :=
  (cell.behind float edge).head?.any (·.1.overlaps float edge) ||
    (cell.upTo float edge).getLast?.any (·.1.overlaps float edge)

variable [DecidableEq Fraction]

def hasEdge (cell : Cell Fraction) (edge : CellEdge Fraction) : Bool :=
  (cell.neighbors.find? fun link => sameKey float edge link.1).any fun link =>
    link.1.side = edge.side ∧ link.1.interval = edge.interval

/-- An edge must not overlap others but can replace itself. -/
def add (cell : Cell Fraction) (src dst : CellEdge Fraction) : Bool × Cell Fraction :=
  if ¬ cell.hasEdge float src ∧ cell.overlaps float src then (false, cell)
  else
    let others : Cell Fraction :=
      { cell with neighbors := cell.neighbors.filter fun link => !sameKey float src link.1 }
    (true, { others with neighbors := others.upTo float src ++ (src, dst) :: others.behind float src })

variable {cell : Cell Fraction} {src dst : CellEdge Fraction}

theorem mem_of_add {float : FractionArithmetic Fraction}
    {link : CellEdge Fraction × CellEdge Fraction} (h : link ∈ (cell.add float src dst).2.neighbors) :
    link = (src, dst) ∨ link ∈ cell.neighbors := by
  unfold add at h
  split_ifs at h
  · exact .inr h
  rcases List.mem_append.mp h with hbefore | hafter
  · have hothers := (List.takeWhile_sublist _).subset hbefore
    exact .inr (List.mem_filter.mp hothers).1
  rcases List.mem_cons.mp hafter with hnew | hafter
  · exact .inl hnew
  · have hothers := (List.dropWhile_sublist _).subset hafter
    exact .inr (List.mem_filter.mp hothers).1

theorem add_fst {float : FractionArithmetic Fraction} :
    (cell.add float src dst).1 = true ↔
      cell.hasEdge float src = true ∨ ¬ cell.overlaps float src = true := by
  unfold add
  split_ifs with hrefused
  · exact iff_of_false not_false fun h => h.elim hrefused.1 (· hrefused.2)
  · refine iff_of_true rfl ?_
    rwa [not_and_or, not_not] at hrefused

theorem mem_add {float : FractionArithmetic Fraction} (h : (cell.add float src dst).1 = true) :
    (src, dst) ∈ (cell.add float src dst).2.neighbors := by
  unfold add at h ⊢
  split_ifs at h ⊢
  exact List.mem_append_right _ List.mem_cons_self

def removeSide (cell : Cell Fraction) (side : Direction) : Cell Fraction :=
  { cell with neighbors := cell.neighbors.filter fun link => link.1.side ≠ side }

def removeAt (cell : Cell Fraction) (side : Direction) (position : Fraction) : Cell Fraction :=
  { cell with
    neighbors := cell.neighbors.eraseP fun link =>
      link.1.side = side ∧ link.1.isInside float position }

def removeName (cell : Cell Fraction) (name : String → Bool) : Cell Fraction :=
  { cell with neighbors := cell.neighbors.filter fun link => !name link.2.name }

def rename (cell : Cell Fraction) (oldName : String → Bool) (newName : String) : Cell Fraction :=
  { cell with
    neighbors := cell.neighbors.map fun link =>
      if oldName link.2.name then (link.1, { link.2 with name := newName }) else link }

end Cell

/-- `m_map`, `m_nameToCanonicalName` and `m_globalOptions`. The keys of both maps differ in more than
case. -/
structure Config (Fraction : Type) where
  map : List (String × Cell Fraction) := []
  nameToCanonicalName : List (String × String) := []
  globalOptions : ScreenOptions := .empty

namespace Config

variable {Fraction : Type} (float : FractionArithmetic Fraction) (config : Config Fraction)

/-- `std::map::find` in a map of names, and its `insert` and `erase`. -/
def find {Value : Type} (map : List (String × Value)) (name : String) : Option Value :=
  KeyedList.find lower map name

def insert {Value : Type} (map : List (String × Value)) (name : String) (value : Value) :
    List (String × Value) :=
  KeyedList.insert lower map name value

def erase {Value : Type} (map : List (String × Value)) (name : String) : List (String × Value) :=
  KeyedList.erase lower map name

def isScreen (name : String) : Bool := (find config.nameToCanonicalName name).isSome

/-- Unless it is empty, as it is for unknown names. -/
def getCanonicalName (name : String) : Option String :=
  (find config.nameToCanonicalName name).filter (· ≠ "")

def canonicalName (name : String) : String := (find config.nameToCanonicalName name).getD ""

def isCanonicalName (name : String) : Bool :=
  name ≠ "" && (config.getCanonicalName name).any (caselessEqual · name)

def addScreen (name : String) : Bool × Config Fraction :=
  if config.isScreen name then (false, config)
  else
    (true,
      { config with
        map := insert config.map name {}
        nameToCanonicalName := insert config.nameToCanonicalName name name })

def addAlias (canonical alternative : String) : Bool × Config Fraction :=
  if config.isScreen alternative ∨ (find config.map canonical).isNone then (false, config)
  else
    (true,
      { config with nameToCanonicalName := insert config.nameToCanonicalName alternative canonical })

def removeAlias (alternative : String) : Bool × Config Fraction :=
  if (find config.map alternative).isSome ∨ ¬ config.isScreen alternative then (false, config)
  else (true, { config with nameToCanonicalName := erase config.nameToCanonicalName alternative })

/-- `Config::Name`: one name stands for the same screen as the other, or both for none. -/
def sameName (name other : String) : Bool :=
  caselessEqual (config.canonicalName other) (config.canonicalName name)

def mapCells (f : Cell Fraction → Cell Fraction) : Config Fraction :=
  { config with map := config.map.map fun entry => (entry.1, f entry.2) }

def rekey (oldCanonical newName : String) (cell : Cell Fraction) : Config Fraction :=
  { config with
    map := insert (erase config.map oldCanonical) newName cell
    nameToCanonicalName := insert (erase config.nameToCanonicalName oldCanonical) newName newName }

def retarget (oldCanonical newName : String) : Config Fraction :=
  { config with
    nameToCanonicalName := config.nameToCanonicalName.map fun entry =>
      if caselessEqual entry.2 oldCanonical then (entry.1, newName) else entry }

def renameScreen (oldName newName : String) : Bool × Config Fraction :=
  let oldCanonical := config.canonicalName oldName
  match find config.map oldCanonical with
  | none => (false, config)
  | some cell =>
    if ¬ caselessEqual oldName newName ∧ config.isScreen newName then (false, config)
    else
      let rekeyed := config.rekey oldCanonical newName cell
      let relinked := rekeyed.mapCells (·.rename (rekeyed.sameName oldName) newName)
      (true,
        if caselessEqual oldName oldCanonical then relinked.retarget oldCanonical newName
        else relinked)

/-- Aliases go by the exact text of the name they stand for. -/
def removeScreen (name : String) : Config Fraction :=
  let canonical := config.canonicalName name
  if (find config.map canonical).isNone then config
  else
    let removed := { config with map := erase config.map canonical }
    let disconnected := removed.mapCells (·.removeName (config.sameName name))
    { disconnected with
      nameToCanonicalName := config.nameToCanonicalName.filter fun entry => entry.2 ≠ canonical }

def removeAllScreens : Config Fraction := { config with map := [], nameToCanonicalName := [] }

def updateCell (name : String) (cell : Cell Fraction) : Config Fraction :=
  { config with map := config.map.map fun entry =>
      if caselessEqual entry.1 name then (entry.1, cell) else entry }

def connect [DecidableEq Fraction] (srcName : String) (srcSide : Direction)
    (srcInterval : Fraction × Fraction) (dstName : String) (dstInterval : Fraction × Fraction) :
    Bool × Config Fraction :=
  match find config.map (config.canonicalName srcName) with
  | none => (false, config)
  | some cell =>
    match cell.add float { side := srcSide, interval := srcInterval }
        { name := dstName, side := srcSide, interval := dstInterval } with
    | (false, _) => (false, config)
    | (true, cell) => (true, config.updateCell (config.canonicalName srcName) cell)

/-- Screens are found by their canonical names only, also below. -/
def disconnect (srcName : String) (srcSide : Direction) : Bool × Config Fraction :=
  match find config.map srcName with
  | none => (false, config)
  | some cell => (true, config.updateCell srcName (cell.removeSide srcSide))

def disconnectAt (srcName : String) (srcSide : Direction) (position : Fraction) :
    Bool × Config Fraction :=
  match find config.map srcName with
  | none => (false, config)
  | some cell => (true, config.updateCell srcName (cell.removeAt float srcSide position))

def getNeighbor (srcName : String) (srcSide : Direction) (position : Fraction) :
    Option (String × Fraction) :=
  match find config.map (config.canonicalName srcName) with
  | none => none
  | some cell =>
    match cell.getLink float srcSide position with
    | none => none
    | some (srcEdge, dstEdge) =>
      (config.getCanonicalName dstEdge.name).map fun name =>
        (name, dstEdge.inverseTransform float (srcEdge.transform float position))

def getOptions : Option String → Option ScreenOptions
  | none => some config.globalOptions
  | some name => (find config.map name).map (·.options)

/-- The corners that `isSwitchOkay` looks up. -/
def switchCorners (name : Option String) : Option (UInt32 × Int) :=
  (config.getOptions name).bind fun options =>
    (options.find kOptionScreenSwitchCorners).map fun corners =>
      (corners.toUInt32, ((options.find kOptionScreenSwitchCornerSize).map Int32.toInt).getD 0)

end Config

end DeskflowPlus
