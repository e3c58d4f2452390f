import DeskflowPlus.Lib.Chain
import DeskflowPlus.Server.Reload
import Mathlib.Data.Finite.Prod

/-!
# Whether the searches return

`getNeighbor` follows the links over unconnected screens. Positions are floating-point numbers, of which
there are finitely many, so it goes on for ever exactly if it comes back to a screen at a position where
it has been before; nothing in it looks for that. `mapToNeighbor` has a measure of its own, the distance
that is left, which every connected screen it passes shortens.
-/

namespace DeskflowPlus

/-- The same answers, with another bound on the searches. -/
def ServerIo.within (io : ServerIo) (steps : Nat) : ServerIo := { io with searchSteps := steps }

section Search

variable {Fraction : Type} {setup : ServerSetup Fraction} {io : ServerIo}
  {clients : List (String × ClientProxy)} {dir : Direction} {position found : Int × Int}
  {client : ClientProxy}

/-- The next screen, if it is not connected, with the position on it. -/
def skipUnconnected (setup : ServerSetup Fraction) (clients : List (String × ClientProxy))
    (dir : Direction) (point : String × Fraction) : Option (String × Fraction) :=
  (setup.neighbor point.1 dir point.2).filter fun next => (findClient clients next.1).isNone

/-- From its source the search comes back to a screen and position that it has passed. -/
def GoesRound (setup : ServerSetup Fraction) (io : ServerIo) (clients : List (String × ClientProxy))
    (src : ClientProxy) (dir : Direction) (position : Int × Int) : Prop :=
  Chain.ComesBack (skipUnconnected setup clients dir)
    (setup.getName src, setup.mapToFraction (io.shape src) dir position)

theorem searchNeighbor_succ {srcName : String} {t : Fraction} :
    (skipUnconnected setup clients dir (srcName, t) = none ∧ ∃ answer, ∀ steps,
      searchNeighbor setup io clients dir position (steps + 1) srcName t = some answer) ∨
    (∃ dstName tTmp, skipUnconnected setup clients dir (srcName, t) = some (dstName, tTmp) ∧
      ∀ steps, searchNeighbor setup io clients dir position (steps + 1) srcName t =
        searchNeighbor setup io clients dir position steps dstName tTmp) := by
  unfold skipUnconnected
  rcases hneighbor : setup.neighbor srcName dir t with _ | ⟨dstName, tTmp⟩
  · refine .inl ⟨rfl, none, fun steps => ?_⟩
    rw [searchNeighbor, hneighbor]
  rcases hclient : findClient clients dstName with _ | client
  · refine .inr ⟨dstName, tTmp, ?_, fun steps => ?_⟩
    · rw [Option.filter_some, hclient]
      rfl
    · rw [searchNeighbor, hneighbor]
      dsimp only
      rw [hclient]
  · refine .inl ⟨?_, some (client, setup.mapToPixel (io.shape client) dir tTmp position),
      fun steps => ?_⟩
    · rw [Option.filter_some, hclient]
      rfl
    · rw [searchNeighbor, hneighbor]
      dsimp only
      rw [hclient]

variable {steps : Nat} {srcName : String} {t : Fraction}

theorem searchNeighbor_eq_none_iff :
    searchNeighbor setup io clients dir position steps srcName t = none ↔
      (Chain.follow (skipUnconnected setup clients dir) steps (srcName, t)).isSome := by
  induction steps generalizing srcName t with
  | zero => exact iff_of_true rfl rfl
  | succ steps ih =>
    rw [Chain.follow_succ]
    rcases @searchNeighbor_succ _ setup io clients dir position srcName t with
      ⟨hskip, answer, hanswer⟩ | ⟨dstName, tTmp, hskip, hsearch⟩
    · rw [hskip, hanswer]
      exact iff_of_false nofun nofun
    · rw [hskip, hsearch]
      exact ih

theorem searchNeighbor_mono {later : Nat} {answer : Option (ClientProxy × (Int × Int))}
    (hle : steps ≤ later)
    (h : searchNeighbor setup io clients dir position steps srcName t = some answer) :
    searchNeighbor setup io clients dir position later srcName t = some answer := by
  induction steps generalizing later srcName t with
  | zero => cases h
  | succ steps ih =>
    obtain ⟨later, rfl⟩ : ∃ rest, later = rest + 1 :=
      Nat.exists_eq_add_of_le' (Nat.le_trans (Nat.le_add_left 1 steps) hle)
    rcases @searchNeighbor_succ _ setup io clients dir position srcName t with
      ⟨-, other, hother⟩ | ⟨dstName, tTmp, -, hsearch⟩
    · rw [hother] at h ⊢
      exact h
    · rw [hsearch] at h ⊢
      exact ih (Nat.le_of_succ_le_succ hle) h

theorem along_searchNeighbor
    (h : searchNeighbor setup io clients dir position steps srcName t = some (some (client, found)))
    : dir.along found = dir.along position := by
  induction steps generalizing srcName t with
  | zero => cases h
  | succ steps ih =>
    unfold searchNeighbor at h
    split at h
    · cases h
    split at h
    · obtain ⟨-, rfl⟩ := Prod.mk.inj (Option.some.inj (Option.some.inj h))
      cases dir <;> rfl
    · exact ih h

theorem searchNeighbor_within {bound : Nat} :
    searchNeighbor setup (io.within bound) clients dir position steps srcName t =
      searchNeighbor setup io clients dir position steps srcName t := by
  induction steps generalizing srcName t with
  | zero => rfl
  | succ steps ih =>
    unfold searchNeighbor
    rcases setup.neighbor srcName dir t with _ | ⟨dstName, tTmp⟩
    · rfl
    dsimp only
    rw [ih]
    rfl

variable {src : ClientProxy}

theorem getNeighbor_within {bound : Nat} :
    getNeighbor setup (io.within bound) clients src dir position =
      searchNeighbor setup io clients dir position bound (setup.getName src)
        (setup.mapToFraction (io.shape src) dir position) :=
  searchNeighbor_within

def NeighborReturns (setup : ServerSetup Fraction) (io : ServerIo)
    (clients : List (String × ClientProxy)) (src : ClientProxy) (dir : Direction)
    (position : Int × Int) : Prop :=
  ∃ steps, (getNeighbor setup (io.within steps) clients src dir position).isSome

theorem neighborReturns_iff_ends :
    NeighborReturns setup io clients src dir position ↔
      Chain.Ends (skipUnconnected setup clients dir)
        (setup.getName src, setup.mapToFraction (io.shape src) dir position) := by
  refine exists_congr fun steps => ?_
  rw [getNeighbor_within, Option.isSome_iff_ne_none]
  exact (not_congr searchNeighbor_eq_none_iff).trans Option.not_isSome_iff_eq_none

theorem getNeighbor_mono {later : Nat} {answer : Option (ClientProxy × (Int × Int))}
    (hle : steps ≤ later)
    (h : getNeighbor setup (io.within steps) clients src dir position = some answer) :
    getNeighbor setup (io.within later) clients src dir position = some answer := by
  rw [getNeighbor_within] at h ⊢
  exact searchNeighbor_mono hle h

def enter (srcSide : Direction) (last shape : Shape) (position : Int × Int) : Int × Int :=
  match srcSide with
  | .left | .top => srcSide.shift (srcSide.extent shape) position
  | .right | .bottom => srcSide.shift (-srcSide.extent last) position

/-- The distance ends on the screen. -/
def isWithin (srcSide : Direction) (shape : Shape) (entered : Int × Int) : Bool :=
  match srcSide with
  | .left | .top => 0 ≤ srcSide.along entered
  | .right | .bottom => srcSide.along entered < srcSide.extent shape

variable {srcSide : Direction}

theorem isWithin_iff {shape : Shape} {entered : Int × Int} :
    isWithin srcSide shape entered = true ↔
      match srcSide with
      | .left | .top => 0 ≤ srcSide.along entered
      | .right | .bottom => srcSide.along entered < srcSide.extent shape := by
  cases srcSide <;> exact decide_eq_true_iff

theorem walkToNeighbor_succ {last : Shape} {dst : ClientProxy} :
    walkToNeighbor setup io clients srcSide (steps + 1) last dst position =
      if isWithin srcSide (io.shape dst) (enter srcSide last (io.shape dst) position) then
        some (dst, enter srcSide last (io.shape dst) position)
      else
        match getNeighbor setup io clients dst srcSide
            (enter srcSide last (io.shape dst) position) with
        | none => none
        | some none => some (dst, enter srcSide last (io.shape dst) position)
        | some (some (next, position)) =>
          walkToNeighbor setup io clients srcSide steps (io.shape dst) next position := by
  cases srcSide <;> rfl

theorem walkToNeighbor_mono {later bound more : Nat} {last : Shape} {dst : ClientProxy}
    (hsteps : steps ≤ later) (hbound : bound ≤ more)
    (h : walkToNeighbor setup (io.within bound) clients srcSide steps last dst position =
      some (client, found)) :
    walkToNeighbor setup (io.within more) clients srcSide later last dst position =
      some (client, found) := by
  induction steps generalizing later last dst position with
  | zero => cases h
  | succ steps ih =>
    obtain ⟨later, rfl⟩ : ∃ rest, later = rest + 1 :=
      Nat.exists_eq_add_of_le' (Nat.le_trans (Nat.le_add_left 1 steps) hsteps)
    rw [walkToNeighbor_succ] at h ⊢
    have hshape : (io.within more).shape dst = (io.within bound).shape dst := rfl
    rw [hshape]
    generalize enter srcSide last ((io.within bound).shape dst) position = entered at h ⊢
    split_ifs at h ⊢
    · exact h
    rcases hneighbor : getNeighbor setup (io.within bound) clients dst srcSide entered with
      _ | answer
    · rw [hneighbor] at h
      cases h
    rw [hneighbor] at h
    rw [getNeighbor_mono hbound hneighbor]
    rcases answer with _ | ⟨next, position⟩
    · exact h
    · exact ih (Nat.le_of_succ_le_succ hsteps) h

def distance (srcSide : Direction) (entered : Int × Int) : Nat :=
  match srcSide with
  | .left | .top => (-srcSide.along entered).toNat
  | .right | .bottom => (srcSide.along entered).toNat

/-- Screens have a positive size. -/
def ServerIo.Sized (io : ServerIo) (clients : List (String × ClientProxy)) : Prop :=
  ∀ entry ∈ clients, 0 < (io.shape entry.2).width ∧ 0 < (io.shape entry.2).height

instance (io : ServerIo) (clients : List (String × ClientProxy)) : Decidable (io.Sized clients) :=
  inferInstanceAs (Decidable (∀ entry ∈ clients, _ ∧ _))

theorem ServerIo.Sized.extent_pos (h : io.Sized clients) (hclient : ∃ name, (name, client) ∈ clients)
    (dir : Direction) : 0 < dir.extent (io.shape client) := by
  obtain ⟨name, hentry⟩ := hclient
  obtain ⟨hwidth, hheight⟩ := h (name, client) hentry
  cases dir <;> assumption

theorem distance_lt {last next : Shape} {entered : Int × Int} (hlast : 0 < srcSide.extent last)
    (hnext : 0 < srcSide.extent next) (hout : ¬ isWithin srcSide last entered)
    (hfound : srcSide.along found = srcSide.along entered) :
    distance srcSide (enter srcSide last next found) < distance srcSide entered := by
  rw [isWithin_iff] at hout
  cases srcSide <;>
    simp only [distance, enter, Direction.along, Direction.shift] at hout hfound ⊢ <;>
    omega

theorem walk_returns {srcSide : Direction} (hsized : io.Sized clients)
    (hreturns : ∀ src, (∃ name, (name, src) ∈ clients) → ∀ position,
      NeighborReturns setup io clients src srcSide position)
    {last : Shape} {dst : ClientProxy} (hlast : 0 < srcSide.extent last)
    (hdst : ∃ name, (name, dst) ∈ clients) :
    ∃ steps bound answer, walkToNeighbor setup (io.within bound) clients srcSide steps last dst
      position = some answer := by
  induction hdistance : distance srcSide (enter srcSide last (io.shape dst) position)
    using Nat.strong_induction_on generalizing last dst position with
  | _ left ih =>
    subst hdistance
    have hshape (bound : Nat) : (io.within bound).shape dst = io.shape dst := rfl
    generalize hentered : enter srcSide last (io.shape dst) position = entered at ih
    by_cases hwithin : isWithin srcSide (io.shape dst) entered = true
    · refine ⟨1, 0, (dst, entered), ?_⟩
      rw [walkToNeighbor_succ, hshape, hentered, if_pos hwithin]
    obtain ⟨bound, hbound⟩ := hreturns dst hdst entered
    obtain ⟨answer, hanswer⟩ := Option.isSome_iff_exists.mp hbound
    rcases answer with _ | ⟨next, found⟩
    · refine ⟨1, bound, (dst, entered), ?_⟩
      rw [walkToNeighbor_succ, hshape, hentered, if_neg hwithin, hanswer]
    have hnext : ∃ name, (name, next) ∈ clients := connected_of_searchNeighbor hanswer
    have hshorter : distance srcSide (enter srcSide (io.shape dst) (io.shape next) found) <
        distance srcSide entered :=
      distance_lt (hsized.extent_pos hdst srcSide) (hsized.extent_pos hnext srcSide) hwithin
        (along_searchNeighbor hanswer)
    obtain ⟨steps, more, answer, hwalk⟩ :=
      ih _ hshorter (hsized.extent_pos hdst srcSide) hnext rfl
    refine ⟨steps + 1, max bound more, answer, ?_⟩
    rw [walkToNeighbor_succ, hshape, hentered, if_neg hwithin,
      getNeighbor_mono (Nat.le_max_left ..) hanswer]
    exact walkToNeighbor_mono le_rfl (Nat.le_max_right ..) hwalk

def MapReturns (setup : ServerSetup Fraction) (io : ServerIo) (clients : List (String × ClientProxy))
    (src : ClientProxy) (dir : Direction) (position : Int × Int) : Prop :=
  ∃ steps, (mapToNeighbor setup (io.within steps) clients src dir position).isSome

theorem mapReturns_of_neighborReturns (hsized : io.Sized clients)
    (hreturns : ∀ src, (∃ name, (name, src) ∈ clients) → ∀ position,
      NeighborReturns setup io clients src dir position) (hsrc : ∃ name, (name, src) ∈ clients) :
    MapReturns setup io clients src dir position := by
  obtain ⟨bound, hbound⟩ := hreturns src hsrc position
  obtain ⟨answer, hanswer⟩ := Option.isSome_iff_exists.mp hbound
  rcases answer with _ | ⟨dst, entered⟩
  · refine ⟨bound, ?_⟩
    unfold mapToNeighbor
    rw [hanswer]
    rfl
  have hdst : ∃ name, (name, dst) ∈ clients := connected_of_searchNeighbor hanswer
  obtain ⟨steps, more, answer, hwalk⟩ :=
    @walk_returns _ setup io clients (dir.shift (-dir.origin (io.shape src)) entered) dir hsized
      hreturns (io.shape src) dst (hsized.extent_pos hsrc dir) hdst
  let all := max bound (max steps more)
  have hsteps : steps ≤ all := (Nat.le_max_left ..).trans (Nat.le_max_right ..)
  have hmore : more ≤ all := (Nat.le_max_right ..).trans (Nat.le_max_right ..)
  refine ⟨all, ?_⟩
  unfold mapToNeighbor
  rw [getNeighbor_mono (Nat.le_max_left ..) hanswer]
  have hwalked : walkToNeighbor setup (io.within all) clients dir (io.within all).searchSteps
      ((io.within all).shape src) dst (dir.shift (-dir.origin ((io.within all).shape src)) entered) =
        some answer := walkToNeighbor_mono hsteps hmore hwalk
  dsimp only at hwalked ⊢
  rw [hwalked]
  rfl

end Search

section Configured

variable {Fraction : Type} {site : ServerSite Fraction} {config : Config Fraction}
  {options : ServerOptions} {io : ServerIo} {clients : List (String × ClientProxy)}
  {src : ClientProxy} {dir : Direction} {position : Int × Int}

theorem Config.name_of_getNeighbor {float : FractionArithmetic Fraction} {srcName : String}
    {t : Fraction} {next : String × Fraction}
    (h : config.getNeighbor float srcName dir t = some next) :
    next.1 ∈ config.nameToCanonicalName.map (·.2) := by
  unfold Config.getNeighbor at h
  split at h
  · cases h
  split at h
  · cases h
  obtain ⟨name, hname, rfl⟩ := Option.map_eq_some_iff.mp h
  obtain ⟨hfind, -⟩ := Option.filter_eq_some_iff.mp hname
  obtain ⟨entry, hentry, rfl⟩ := Option.map_eq_some_iff.mp hfind
  exact List.mem_map_of_mem (List.mem_of_find?_eq_some hentry)

theorem neighborReturns_iff [Finite Fraction] :
    NeighborReturns (site.setup config options) io clients src dir position ↔
      ¬ GoesRound (site.setup config options) io clients src dir position := by
  have hfinite : (({name | name ∈ (site.setup config options).getName src ::
      config.nameToCanonicalName.map (·.2)} : Set String) ×ˢ (Set.univ : Set Fraction)).Finite :=
    Set.Finite.prod (List.finite_toSet _) Set.finite_univ
  refine neighborReturns_iff_ends.trans (Chain.ends_iff hfinite fun count point hpoint => ?_)
  refine ⟨?_, trivial⟩
  cases count with
  | zero =>
    obtain rfl := Option.some.inj hpoint
    exact List.mem_cons_self
  | succ count =>
    rw [Chain.follow_succ'] at hpoint
    obtain ⟨before, -, hnext⟩ := Option.bind_eq_some_iff.mp hpoint
    obtain ⟨hneighbor, -⟩ := Option.filter_eq_some_iff.mp hnext
    exact List.mem_cons_of_mem _ (Config.name_of_getNeighbor hneighbor)

/-- **Neighbour search.** The searches from all connected screens return exactly if none of them goes
round among unconnected screens; from one screen `getNeighbor` returns exactly if it does not. -/
theorem searches_return_iff [Finite Fraction] (hsized : io.Sized clients) :
    ((∀ src, (∃ name, (name, src) ∈ clients) → ∀ dir position,
        NeighborReturns (site.setup config options) io clients src dir position ∧
          MapReturns (site.setup config options) io clients src dir position) ↔
      ∀ src, (∃ name, (name, src) ∈ clients) → ∀ dir position,
        ¬ GoesRound (site.setup config options) io clients src dir position) ∧
    ∀ src dir position, NeighborReturns (site.setup config options) io clients src dir position ↔
      ¬ GoesRound (site.setup config options) io clients src dir position := by
  refine ⟨⟨fun hreturns src hsrc dir position => ?_, fun hround src hsrc dir position => ?_⟩,
    fun src dir position => neighborReturns_iff⟩
  · exact neighborReturns_iff.mp (hreturns src hsrc dir position).1
  · have hneighbor (src : ClientProxy) (hsrc : ∃ name, (name, src) ∈ clients)
        (position : Int × Int) :
        NeighborReturns (site.setup config options) io clients src dir position :=
      neighborReturns_iff.mpr (hround src hsrc dir position)
    exact ⟨hneighbor src hsrc position, mapReturns_of_neighborReturns hsized hneighbor hsrc⟩

def relayConfig (behind : String) : Config (Fin (2 ^ 20)) where
  map :=
    [("desk", { neighbors := [({ side := .right, interval := (0, 1024) },
        { name := "relay", side := .right, interval := (0, 1024) })] }),
      ("far", {}),
      ("relay", { neighbors := [({ side := .right, interval := (0, 1024) },
        { name := behind, side := .right, interval := (0, 1024) })] })]
  nameToCanonicalName := [("desk", "desk"), ("far", "far"), ("relay", "relay")]

def relaySite : ServerSite (Fin (2 ^ 20)) where
  float := fixedPoint
  primaryClient := 0
  clientName client := if client = 0 then "desk" else "far"

def relayIo : ServerIo where
  shape _ := ⟨0, 0, 100, 100⟩

def relayClients : List (String × ClientProxy) := [("desk", 0), ("far", 1)]

theorem searches_return_relay :
    NeighborReturns (relaySite.setup (relayConfig "far") {}) relayIo relayClients 0 .right (100, 50) :=
  have hsized : relayIo.Sized relayClients := by decide
  ((searches_return_iff hsized).2 0 .right (100, 50)).mpr fun hround =>
    Chain.not_ends_of_comesBack hround ⟨2, rfl⟩

/-- The unconnected screen is its own neighbour. -/
theorem search_goes_round :
    ¬ ∀ (config : Config (Fin (2 ^ 20))) (clients : List (String × ClientProxy)) (io : ServerIo),
      io.Sized clients → ∀ src, (∃ name, (name, src) ∈ clients) → ∀ dir position,
        NeighborReturns (relaySite.setup config {}) io clients src dir position := by
  intro hreturns
  have hdesk : ∃ name, (name, 0) ∈ relayClients := ⟨"desk", List.mem_cons_self⟩
  have hneighbor := hreturns (relayConfig "relay") relayClients relayIo (by decide) 0 hdesk .right
    (100, 50)
  exact neighborReturns_iff.mp hneighbor ⟨1, 2, Nat.one_lt_two, rfl, rfl⟩

end Configured

end DeskflowPlus
