import Mathlib.Algebra.Group.Int.Defs
import Mathlib.Algebra.Group.Nat.Defs
import Mathlib.Logic.Basic

/-!
# Screens and their neighbours

A screen's neighbour in a direction is found by the configured links, over the screens that are not
connected; a cursor that goes farther than the neighbour is wide goes on to the neighbour behind it.
A search may go round in links among unconnected screens, so it counts its steps.
-/

namespace DeskflowPlus

inductive Direction where
  | left
  | right
  | top
  | bottom
  deriving DecidableEq

abbrev ClientProxy := Nat

structure Shape where
  x : Int
  y : Int
  width : Int
  height : Int

/-- A fixed configuration: the links between screens and the options the server reads. Positions
along an edge are fractions, which the two functions at the end take from pixels and back. -/
structure ServerConfig (Fraction : Type) where
  canonicalName : String → Option String
  neighbor : String → Direction → Fraction → Option (String × Fraction)
  /-- Corner mask and size of a screen, or of all. -/
  switchCorners : Option String → Option (UInt32 × Int) := fun _ => none
  switchWaitDelay : Nat := 0
  switchTwoTapDelay : Nat := 0
  switchNeedsShift : Bool := false
  switchNeedsControl : Bool := false
  switchNeedsAlt : Bool := false
  relativeMoves : Bool := false
  defaultLockToScreenState : Bool := false
  disableLockToScreen : Bool := false
  toFraction : (offset extent : Int) → Fraction
  toPixel : Fraction → (extent : Int) → Int

structure ServerSetup (Fraction : Type) extends ServerConfig Fraction where
  primaryClient : ClientProxy
  clientName : ClientProxy → String

structure ServerIo where
  shape : ClientProxy → Shape
  cursorPos : ClientProxy → Int × Int := fun _ => (0, 0)
  cursorCenter : Int × Int := (0, 0)
  jumpZoneSize : Int := 1
  isLockedToScreen : Bool := false
  shift : Bool := false
  control : Bool := false
  alt : Bool := false
  leaves : Bool := true
  /-- The two-tap timer is past the delay. -/
  twoTapLate : Bool := false
  adjustMotion : Int × Int → Int × Int := id
  /-- Within how many steps each search of the event returns. -/
  searchSteps : Nat := 0

namespace Direction

def extent (shape : Shape) : Direction → Int
  | left | right => shape.width
  | top | bottom => shape.height

def origin (shape : Shape) : Direction → Int
  | left | right => shape.x
  | top | bottom => shape.y

def along (position : Int × Int) : Direction → Int
  | left | right => position.1
  | top | bottom => position.2

def shift (offset : Int) (position : Int × Int) : Direction → Int × Int
  | left | right => (position.1 + offset, position.2)
  | top | bottom => (position.1, position.2 + offset)

def opposite : Direction → Direction
  | left => right
  | right => left
  | top => bottom
  | bottom => top

end Direction

namespace ServerSetup

variable {Fraction : Type} (setup : ServerSetup Fraction)

def getName (client : ClientProxy) : String :=
  (setup.canonicalName (setup.clientName client)).getD (setup.clientName client)

def mapToFraction (shape : Shape) (dir : Direction) (position : Int × Int) : Fraction :=
  match dir with
  | .left | .right => setup.toFraction (position.2 - shape.y) shape.height
  | .top | .bottom => setup.toFraction (position.1 - shape.x) shape.width

def mapToPixel (shape : Shape) (dir : Direction) (fraction : Fraction) (position : Int × Int) :
    Int × Int :=
  match dir with
  | .left | .right => (position.1, setup.toPixel fraction shape.height + shape.y)
  | .top | .bottom => (setup.toPixel fraction shape.width + shape.x, position.2)

end ServerSetup

/-- `std::map::find`. -/
def findClient (clients : List (String × ClientProxy)) (name : String) : Option ClientProxy :=
  (clients.find? (·.1 = name)).map (·.2)

section Search

variable {Fraction : Type} (setup : ServerSetup Fraction) (io : ServerIo)
  (clients : List (String × ClientProxy))

/-- The loop of `getNeighbor`. -/
def searchNeighbor (dir : Direction) (position : Int × Int) :
    Nat → String → Fraction → Option (Option (ClientProxy × (Int × Int)))
  | 0, _, _ => none
  | steps + 1, srcName, t =>
    match setup.neighbor srcName dir t with
    | none => some none
    | some (dstName, tTmp) =>
      match findClient clients dstName with
      | some client => some (some (client, setup.mapToPixel (io.shape client) dir tTmp position))
      | none => searchNeighbor dir position steps dstName tTmp

/-- The neighbour of a screen with the position on it, or none; or no answer. -/
def getNeighbor (src : ClientProxy) (dir : Direction) (position : Int × Int) :
    Option (Option (ClientProxy × (Int × Int))) :=
  searchNeighbor setup io clients dir position io.searchSteps (setup.getName src)
    (setup.mapToFraction (io.shape src) dir position)

/-- The loop of `mapToNeighbor`: on to the screen that the position lies on, or the last there is.
The position counts from the screen's own edge. -/
def walkToNeighbor (srcSide : Direction) :
    Nat → Shape → ClientProxy → Int × Int → Option (ClientProxy × (Int × Int))
  | 0, _, _, _ => none
  | steps + 1, last, dst, position =>
    let shape := io.shape dst
    let entered := match srcSide with
      | .left | .top => srcSide.shift (srcSide.extent shape) position
      | .right | .bottom => srcSide.shift (-srcSide.extent last) position
    let within : Bool := match srcSide with
      | .left | .top => 0 ≤ srcSide.along entered
      | .right | .bottom => srcSide.along entered < srcSide.extent shape
    if within then some (dst, entered)
    else
      match getNeighbor setup io clients dst srcSide entered with
      | none => none
      | some none => some (dst, entered)
      | some (some (next, position)) => walkToNeighbor srcSide steps shape next position

/-- On the primary screen, far enough from an edge that provokes a jump. -/
def avoidJumpZone (dst : ClientProxy) (dir : Direction) (position : Int × Int) : Int × Int :=
  if dst ≠ setup.primaryClient then position
  else
    let shape := io.shape dst
    let t := setup.mapToFraction shape dir position
    let z := io.jumpZoneSize
    if (setup.neighbor (setup.getName dst) dir.opposite t).isNone then position
    else
      match dir with
      | .left => (min position.1 (shape.x + shape.width - 1 - z), position.2)
      | .right => (max position.1 (shape.x + z), position.2)
      | .top => (position.1, min position.2 (shape.y + shape.height - 1 - z))
      | .bottom => (position.1, max position.2 (shape.y + z))

def mapToNeighbor (src : ClientProxy) (srcSide : Direction) (position : Int × Int) :
    Option (Option ClientProxy × (Int × Int)) :=
  match getNeighbor setup io clients src srcSide position with
  | none => none
  | some none => some (none, position)
  | some (some (dst, position)) =>
    let shape := io.shape src
    match walkToNeighbor setup io clients srcSide io.searchSteps shape dst
        (srcSide.shift (-srcSide.origin shape) position) with
    | none => none
    | some (dst, position) =>
      some (some dst, avoidJumpZone setup io dst srcSide
        (srcSide.shift (srcSide.origin (io.shape dst)) position))

variable {setup io clients} {dir : Direction} {position : Int × Int} {client : ClientProxy}

theorem mem_of_findClient {name : String} (h : findClient clients name = some client) :
    (name, client) ∈ clients := by
  obtain ⟨entry, hentry, rfl⟩ := Option.map_eq_some_iff.mp h
  have hname := @List.find?_some _ _ _ _ hentry
  obtain rfl : entry.1 = name := of_decide_eq_true hname
  exact List.mem_of_find?_eq_some hentry

variable {found : Int × Int}

theorem connected_of_searchNeighbor {steps : Nat} {srcName : String} {t : Fraction}
    (h : searchNeighbor setup io clients dir position steps srcName t = some (some (client, found)))
    : ∃ name, (name, client) ∈ clients := by
  induction steps generalizing srcName t with
  | zero => cases h
  | succ steps ih =>
    unfold searchNeighbor at h
    split at h
    · cases h
    split at h
    · rename_i hfound
      obtain ⟨rfl, -⟩ := Prod.mk.inj (Option.some.inj (Option.some.inj h))
      exact ⟨_, mem_of_findClient hfound⟩
    · exact ih h

theorem connected_of_walkToNeighbor {srcSide : Direction} {steps : Nat} {last : Shape}
    {dst : ClientProxy} (hdst : ∃ name, (name, dst) ∈ clients)
    (h : walkToNeighbor setup io clients srcSide steps last dst position = some (client, found)) :
    ∃ name, (name, client) ∈ clients := by
  induction steps generalizing last dst position with
  | zero => cases h
  | succ steps ih =>
    unfold walkToNeighbor at h
    extract_lets shape entered within at h
    split at h
    · obtain ⟨rfl, -⟩ := Prod.mk.inj (Option.some.inj h)
      exact hdst
    split at h
    · cases h
    · obtain ⟨rfl, -⟩ := Prod.mk.inj (Option.some.inj h)
      exact hdst
    · rename_i hnext
      exact ih (connected_of_searchNeighbor hnext) h

theorem connected_of_mapToNeighbor {src : ClientProxy} {srcSide : Direction}
    (h : mapToNeighbor setup io clients src srcSide position = some (some client, found)) :
    ∃ name, (name, client) ∈ clients := by
  unfold mapToNeighbor at h
  split at h
  · cases h
  · cases h
  rename_i hneighbor
  dsimp only at h
  split at h
  · cases h
  rename_i hwalk
  obtain ⟨hclient, -⟩ := Prod.mk.inj (Option.some.inj h)
  obtain rfl := Option.some.inj hclient
  exact connected_of_walkToNeighbor (connected_of_searchNeighbor hneighbor) hwalk

end Search

end DeskflowPlus
