import DeskflowPlus.Reconnect.ReconnectSafety

/-!
# The order of the lookups does not matter

Each manual entry has a place of its own, which holds what the entry gives at once or what its lookup
answered. The result is read off the places once none of them waits, so it is that of the request and
the answers, in whatever order they came.
-/

namespace DeskflowPlus.Reconnect

open Transfer

variable {QHostAddress : Type} [DecidableEq QHostAddress]

section Order

variable {qt : QtNetwork QHostAddress} {candidates more : List (AddressCandidate QHostAddress)}

theorem appendCandidate_sublist (candidate : AddressCandidate QHostAddress) :
    (appendCandidate qt candidates candidate).Sublist (candidates ++ [candidate]) := by
  unfold appendCandidate
  split_ifs
  · exact List.sublist_append_left _ _
  · exact List.sublist_append_left _ _
  · exact List.Sublist.refl _

theorem foldl_appendCandidate_sublist :
    (more.foldl (appendCandidate qt) candidates).Sublist (candidates ++ more) := by
  induction more generalizing candidates with
  | nil =>
    rw [List.append_nil]
    exact List.Sublist.refl _
  | cons candidate more ih =>
    calc
      (more.foldl (appendCandidate qt) (appendCandidate qt candidates candidate)).Sublist
          (appendCandidate qt candidates candidate ++ more) := ih
      List.Sublist _ ((candidates ++ [candidate]) ++ more) :=
        (appendCandidate_sublist candidate).append_right more
      _ = candidates ++ candidate :: more := List.append_cons _ _ _ |>.symm

theorem sublist_foldl_appendCandidate :
    candidates.Sublist (more.foldl (appendCandidate qt) candidates) := by
  induction more generalizing candidates with
  | nil => exact List.Sublist.refl _
  | cons candidate more ih =>
    refine List.Sublist.trans ?_ ih
    unfold appendCandidate
    split_ifs
    · exact List.Sublist.refl _
    · exact List.Sublist.refl _
    · exact List.sublist_append_left _ _

theorem exists_key_foldl {candidate : AddressCandidate QHostAddress} (h : candidate ∈ more)
    (husable : isUsableAddress qt candidate.address = true) :
    ∃ kept ∈ more.foldl (appendCandidate qt) candidates,
      candidateKey qt kept = candidateKey qt candidate := by
  induction more generalizing candidates with
  | nil => exact absurd h List.not_mem_nil
  | cons first more ih =>
    obtain rfl | hlater := List.mem_cons.mp h
    · have hkept : ∃ kept ∈ appendCandidate qt candidates candidate,
          candidateKey qt kept = candidateKey qt candidate := by
        unfold appendCandidate
        split_ifs with hunusable hseen
        · exact absurd (husable.symm.trans hunusable) Bool.noConfusion
        · exact List.mem_map.mp hseen
        · exact ⟨candidate, List.mem_append_right _ (List.mem_singleton_self _), rfl⟩
      obtain ⟨kept, hmem, hkey⟩ := hkept
      have hsublist : (appendCandidate qt candidates candidate).Sublist
          (more.foldl (appendCandidate qt) (appendCandidate qt candidates candidate)) :=
        sublist_foldl_appendCandidate
      exact ⟨kept, hsublist.subset hmem, hkey⟩
    · exact ih hlater

omit [DecidableEq QHostAddress] in
theorem Distinct.nodup_addresses (h : Distinct qt candidates) :
    (candidates.map fun candidate =>
      (candidate.address, candidate.inputPort, candidate.filePort)).Nodup := by
  refine List.Nodup.of_map (fun triple : QHostAddress × UInt16 × UInt16 => candidateKey qt
    { address := triple.1, inputPort := triple.2.1, filePort := triple.2.2 }) ?_
  rw [List.map_map]
  exact h

end Order

namespace AddressCandidateProvider

variable (qt : QtNetwork QHostAddress) (answers : QString → List QHostAddress × QString)

def withAnswer (normalized : ManualAddress) (answer : List QHostAddress × QString)
    (entry : ManualEntry QHostAddress) : ManualEntry QHostAddress :=
  if normalizedResolvedAddresses qt answer.1 = [] then
    { entry with
      unresolved := normalized.host
      diagnostic := normalized.host ++ QString.literal ": " ++
        if answer.2 = [] then QString.literal "hostname resolved to no usable addresses"
        else answer.2 }
  else
    { entry with
      candidates := entry.candidates ++ (normalizedResolvedAddresses qt answer.1).map fun address =>
        { address, inputPort := normalized.inputPort, filePort := normalized.filePort
          source := .manual, originHost := normalized.host } }

def answered (entry : ManualEntry QHostAddress) : ManualEntry QHostAddress :=
  match entry.pending with
  | none => entry
  | some normalized => withAnswer qt normalized (answers normalized.host) entry

def manualEntries (request : AddressCandidateRequest QHostAddress) : List (ManualEntry QHostAddress) :=
  request.settings.manualAddresses.map (manualEntry qt)

def slots (request : AddressCandidateRequest QHostAddress) (waiting : List Nat) :
    List (ManualEntry QHostAddress) :=
  (manualEntries qt request).mapIdx fun index entry =>
    if index ∈ waiting then entry else answered qt answers entry

def allCandidates (request : AddressCandidateRequest QHostAddress) :
    List (AddressCandidate QHostAddress) :=
  let candidate (source : AddressCandidateSource) (address : QHostAddress) :
      AddressCandidate QHostAddress :=
    { address, inputPort := request.inputPort, filePort := request.filePort, source }
  request.recentSuccessfulAddresses.map (candidate .recentSuccessful) ++
    (if request.settings.enabled then request.discoveredAddresses.map (candidate .discovered)
      else []) ++
    (manualEntries qt request).flatMap fun entry => (answered qt answers entry).candidates

def Rejected (request : AddressCandidateRequest QHostAddress) : Prop :=
  request.inputPort = 0 ∨ request.filePort = 0

instance (request : AddressCandidateRequest QHostAddress) : Decidable (Rejected request) :=
  inferInstanceAs (Decidable (_ ∨ _))

def outcome (request : AddressCandidateRequest QHostAddress) : ResolutionSignal QHostAddress :=
  if Rejected request then
    .resolutionFailed (QString.literal "Candidate ports must be in the range 1..65535")
  else
    let unresolved := (manualEntries qt request).map (answered qt answers) |>.filter
      (·.unresolved ≠ [])
    .candidatesResolved
      { candidates := (allCandidates qt answers request).foldl (appendCandidate qt) []
        unresolvedHosts := unresolved.map (·.unresolved)
        diagnostics := unresolved.map (·.diagnostic) }

variable {qt answers} {request : AddressCandidateRequest QHostAddress}

theorem slots_nil : slots qt answers request [] = (manualEntries qt request).map (answered qt answers) := by
  apply List.ext_getElem?
  intro index
  simp [slots]

theorem result_eq {state : ResolutionState QHostAddress} (hports : ¬ Rejected request)
    (hpriority : state.priorityCandidates = priorityCandidates qt request)
    (hcandidates : state.manualCandidates = (slots qt answers request []).map (·.candidates))
    (hunresolved : state.unresolvedByManualIndex = (slots qt answers request []).map (·.unresolved))
    (hdiagnostic : state.diagnosticByManualIndex = (slots qt answers request []).map (·.diagnostic)) :
    .candidatesResolved (result qt state) = outcome qt answers request := by
  rw [slots_nil] at hcandidates hunresolved hdiagnostic
  have hall : state.manualCandidates.flatten.foldl (appendCandidate qt) state.priorityCandidates =
      (allCandidates qt answers request).foldl (appendCandidate qt) [] := by
    rw [hcandidates, hpriority, allCandidates, priorityCandidates, List.map_map, List.foldl_append,
      List.foldl_append, List.flatMap]
    split <;> rfl
  have hfilter : (state.unresolvedByManualIndex.zip state.diagnosticByManualIndex).filter (·.1 ≠ []) =
      ((manualEntries qt request).map (answered qt answers) |>.filter (·.unresolved ≠ [])).map
        fun entry => (entry.unresolved, entry.diagnostic) := by
    rw [hunresolved, hdiagnostic, List.zip_map', List.filter_map]
    rfl
  rw [outcome, if_neg hports, result, hall]
  dsimp only
  rw [hfilter, List.map_map, List.map_map]
  rfl

end AddressCandidateProvider

open AddressCandidateProvider

structure ResolutionRun (QHostAddress : Type) where
  provider : AddressCandidateProvider QHostAddress := {}
  requests : List (AddressCandidateRequest QHostAddress) := []
  emitted : List (Nat × ResolutionSignal QHostAddress) := []

inductive ResolutionEvent (QHostAddress : Type) where
  | resolve (request : AddressCandidateRequest QHostAddress)
  | finish (lookup : HostLookup)
  | fire (timer : ResolutionTimer)

namespace ResolutionRun

variable (qt : QtNetwork QHostAddress) (answers : QString → List QHostAddress × QString)

def step (run : ResolutionRun QHostAddress) :
    ResolutionEvent QHostAddress → Option (ResolutionRun QHostAddress)
  | .resolve request =>
    some { run with provider := run.provider.resolveCandidates qt request
                    requests := run.requests ++ [request] }
  | .finish lookup =>
    if lookup ∈ run.provider.lookups then
      let answer := answers lookup.manualAddress.host
      let provider := { run.provider with lookups := run.provider.lookups.erase lookup }
      some { run with provider := provider.finishHost qt lookup answer.1 answer.2 }
    else none
  | .fire timer =>
    if timer ∈ run.provider.timers then
      let provider := { run.provider with timers := run.provider.timers.erase timer }
      let signals := (provider.timeout qt timer).toList.map fun signal => (timer.generation, signal)
      some { run with provider, emitted := run.emitted ++ signals }
    else none

def machine : Machine (ResolutionRun QHostAddress) (ResolutionEvent QHostAddress) where
  start run := run = {}
  step := step qt answers

/-- The lookups of the newest request that are out. -/
def waiting (run : ResolutionRun QHostAddress) : List HostLookup :=
  run.provider.lookups.filter (·.generation = run.provider.generation)

def due (run : ResolutionRun QHostAddress) : List Nat :=
  run.provider.timers.map (·.generation) ++ run.emitted.map Prod.fst

def timerOf (request : AddressCandidateRequest QHostAddress) (generation : Nat) : ResolutionTimer :=
  if Rejected request then .portsRejected generation else .completion generation

structure Fills (state : ResolutionState QHostAddress) (request : AddressCandidateRequest QHostAddress)
    (waiting : List HostLookup) : Prop where
  priority : state.priorityCandidates = priorityCandidates qt request
  candidates : state.manualCandidates =
    (slots qt answers request (waiting.map (·.manualIndex))).map (·.candidates)
  unresolved : state.unresolvedByManualIndex =
    (slots qt answers request (waiting.map (·.manualIndex))).map (·.unresolved)
  diagnostic : state.diagnosticByManualIndex =
    (slots qt answers request (waiting.map (·.manualIndex))).map (·.diagnostic)
  pending : state.pendingHosts = waiting.length
  scheduled : state.completionScheduled = true ↔ waiting = []
  indices : (waiting.map (·.manualIndex)).Nodup
  lookups : ∀ lookup ∈ waiting, ∃ entry, (manualEntries qt request)[lookup.manualIndex]? = some entry ∧
    entry.pending = some lookup.manualAddress ∧ entry.candidates = []

structure Newest (run : ResolutionRun QHostAddress) (request : AddressCandidateRequest QHostAddress) :
    Prop where
  rejected : Rejected request → run.waiting = []
  fills : ¬ Rejected request → Fills qt answers run.provider.state request run.waiting
  timer : ∀ timer ∈ run.provider.timers, timer.generation = run.provider.generation →
    timer = timerOf request run.provider.generation
  due : run.provider.generation ∈ run.due ↔ run.waiting = []

structure Ok (run : ResolutionRun QHostAddress) : Prop where
  generation : run.provider.generation = run.requests.length
  lookups : ∀ lookup ∈ run.provider.lookups,
    0 < lookup.generation ∧ lookup.generation ≤ run.provider.generation
  nodup : run.due.Nodup
  bounds : ∀ number ∈ run.due, 0 < number ∧ number ≤ run.provider.generation
  emitted : ∀ answer ∈ run.emitted, ∃ request, run.requests[answer.1 - 1]? = some request ∧
    answer.2 = outcome qt answers request
  newest : ∀ request, run.requests.getLast? = some request → Newest qt answers run request

variable {qt answers} {request : AddressCandidateRequest QHostAddress}
  {run : ResolutionRun QHostAddress} {provider : AddressCandidateProvider QHostAddress}

def lookupsOf (qt : QtNetwork QHostAddress) (request : AddressCandidateRequest QHostAddress)
    (generation : Nat) : List HostLookup :=
  (manualEntries qt request).zipIdx.filterMap fun (entry, index) =>
    entry.pending.map fun manualAddress => HostLookup.mk generation index manualAddress

variable {lookup : HostLookup}

omit [DecidableEq QHostAddress] in
theorem mem_lookupsOf {generation : Nat} :
    lookup ∈ lookupsOf qt request generation ↔ lookup.generation = generation ∧
      ∃ entry, (manualEntries qt request)[lookup.manualIndex]? = some entry ∧
        entry.pending = some lookup.manualAddress := by
  unfold lookupsOf
  rw [List.mem_filterMap]
  constructor
  · rintro ⟨⟨entry, index⟩, hmem, hlookup⟩
    obtain ⟨address, hpending, rfl⟩ := Option.map_eq_some_iff.mp hlookup
    exact ⟨rfl, entry, List.mem_zipIdx_iff_getElem?.mp hmem, hpending⟩
  · rintro ⟨rfl, entry, hentry, hpending⟩
    refine ⟨(entry, lookup.manualIndex), List.mem_zipIdx_iff_getElem?.mpr hentry, ?_⟩
    dsimp only
    rw [hpending]
    rfl

omit [DecidableEq QHostAddress] in
theorem nodup_lookupsOf (generation : Nat) :
    ((lookupsOf qt request generation).map (·.manualIndex)).Nodup := by
  have hindices : ((manualEntries qt request).zipIdx.map Prod.snd).Nodup := by
    rw [List.zipIdx_map_snd]
    exact List.nodup_range'
  unfold lookupsOf
  rw [List.Nodup, List.pairwise_map] at hindices ⊢
  apply List.pairwise_filterMap.mpr
  apply hindices.imp
  intro first second hne lookup hfirst other hsecond
  obtain ⟨address, -, rfl⟩ := Option.map_eq_some_iff.mp hfirst
  obtain ⟨address, -, rfl⟩ := Option.map_eq_some_iff.mp hsecond
  exact hne

theorem candidates_of_pending {index : Nat} {entry : ManualEntry QHostAddress}
    {address : ManualAddress} (h : (manualEntries qt request)[index]? = some entry)
    (hpending : entry.pending = some address) : entry.candidates = [] := by
  rw [manualEntries, List.getElem?_map] at h
  obtain ⟨manual, -, rfl⟩ := Option.map_eq_some_iff.mp h
  unfold manualEntry at hpending ⊢
  split
  · rfl
  · split
    case h_1 hliteral => simp_all
    case h_2 => rfl

theorem slots_lookupsOf (generation : Nat) :
    slots qt answers request ((lookupsOf qt request generation).map (·.manualIndex)) =
      manualEntries qt request := by
  apply List.ext_getElem?
  intro index
  rw [slots, List.getElem?_mapIdx]
  cases hentry : (manualEntries qt request)[index]? with
  | none => rfl
  | some entry =>
    rw [Option.map_some]
    split
    case isTrue => rfl
    case isFalse hwaits =>
      cases hpending : entry.pending with
      | none => rw [answered, hpending]
      | some address =>
        have hmem : HostLookup.mk generation index address ∈ lookupsOf qt request generation :=
          mem_lookupsOf.mpr ⟨rfl, entry, hentry, hpending⟩
        exact absurd (List.mem_map_of_mem hmem) hwaits

theorem resolveCandidates_of_rejected (h : Rejected request) :
    provider.resolveCandidates qt request =
      { provider with generation := provider.generation + 1
                      timers := provider.timers ++ [.portsRejected (provider.generation + 1)] } :=
  if_pos h

def startState (qt : QtNetwork QHostAddress) (request : AddressCandidateRequest QHostAddress)
    (lookups : List HostLookup) (completionScheduled : Bool) : ResolutionState QHostAddress where
  priorityCandidates := priorityCandidates qt request
  manualCandidates := (manualEntries qt request).map (·.candidates)
  unresolvedByManualIndex := (manualEntries qt request).map (·.unresolved)
  diagnosticByManualIndex := (manualEntries qt request).map (·.diagnostic)
  pendingHosts := lookups.length
  completionScheduled

theorem fills_startState {generation : Nat} {scheduled : Bool}
    (h : scheduled = true ↔ lookupsOf qt request generation = []) :
    Fills qt answers (startState qt request (lookupsOf qt request generation) scheduled) request
      (lookupsOf qt request generation) where
  priority := rfl
  candidates := by
    rw [slots_lookupsOf]
    rfl
  unresolved := by
    rw [slots_lookupsOf]
    rfl
  diagnostic := by
    rw [slots_lookupsOf]
    rfl
  pending := rfl
  scheduled := h
  indices := nodup_lookupsOf _
  lookups lookup hmem := by
    obtain ⟨-, entry, hentry, hpending⟩ := mem_lookupsOf.mp hmem
    exact ⟨entry, hentry, hpending, candidates_of_pending hentry hpending⟩

theorem resolveCandidates_of_accepted (h : ¬ Rejected request) :
    let lookups := lookupsOf qt request (provider.generation + 1)
    provider.resolveCandidates qt request =
      { generation := provider.generation + 1
        state := startState qt request lookups (lookups = [])
        lookups := provider.lookups ++ lookups
        timers := provider.timers ++
          if lookups = [] then [.completion (provider.generation + 1)] else [] } := by
  intro lookups
  have hnext : provider.resolveCandidates qt request =
      if lookups = [] then
        scheduleCompletion { provider with generation := provider.generation + 1
                                           state := startState qt request lookups false }
      else { provider with generation := provider.generation + 1
                           state := startState qt request lookups false
                           lookups := provider.lookups ++ lookups } := if_neg h
  by_cases hnone : lookups = []
  · rw [hnext, if_pos hnone, if_pos hnone, decide_eq_true hnone, hnone, List.append_nil]
    rfl
  · rw [hnext, if_neg hnone, if_neg hnone, decide_eq_false hnone, List.append_nil]

variable {waiting : List HostLookup}

theorem slots_erase (hmem : lookup ∈ waiting) (hindices : (waiting.map (·.manualIndex)).Nodup) :
    slots qt answers request ((waiting.erase lookup).map (·.manualIndex)) =
      (slots qt answers request (waiting.map (·.manualIndex))).modify lookup.manualIndex
        (answered qt answers) := by
  have hperm : (waiting.map (·.manualIndex)).Perm
      (lookup.manualIndex :: (waiting.erase lookup).map (·.manualIndex)) :=
    (List.perm_cons_erase hmem).map _
  have hgone := (List.nodup_cons.mp (hperm.nodup_iff.mp hindices)).1
  apply List.ext_getElem?
  intro index
  rw [List.getElem?_modify, slots, slots, List.getElem?_mapIdx, List.getElem?_mapIdx]
  cases (manualEntries qt request)[index]? with
  | none => rfl
  | some entry =>
    have hwaits : index ∈ waiting.map (·.manualIndex) ↔
        index = lookup.manualIndex ∨ index ∈ (waiting.erase lookup).map (·.manualIndex) :=
      hperm.mem_iff.trans List.mem_cons
    apply congrArg some
    dsimp only
    by_cases hindex : lookup.manualIndex = index
    · subst hindex
      rw [if_neg hgone, if_pos rfl, if_pos (hwaits.mpr (Or.inl rfl))]
    · rw [if_neg hindex]
      have hsame : index ∈ waiting.map (·.manualIndex) ↔
          index ∈ (waiting.erase lookup).map (·.manualIndex) :=
        hwaits.trans (or_iff_right (Ne.symm hindex))
      simp only [hsame]

theorem map_modify_eq {α β : Type} {l : List α} {f : α → α} {project : α → β} {index : Nat} {entry : α}
    {g : β → β} (hentry : l[index]? = some entry) (h : project (f entry) = g (project entry)) :
    (l.modify index f).map project = (l.map project).modify index g := by
  apply List.ext_getElem?
  intro other
  rw [List.getElem?_map, List.getElem?_modify, List.getElem?_modify, List.getElem?_map]
  by_cases hindex : index = other
  · subst hindex
    rw [hentry]
    simp [h]
  · simp [hindex]

theorem Fills.recordHost {state : ResolutionState QHostAddress}
    (h : Fills qt answers state request waiting) (hmem : lookup ∈ waiting) :
    let answer := answers lookup.manualAddress.host
    let next := AddressCandidateProvider.recordHost qt lookup answer.1 answer.2 state
    let places := slots qt answers request ((waiting.erase lookup).map (·.manualIndex))
    next.priorityCandidates = priorityCandidates qt request ∧
      next.manualCandidates = places.map (·.candidates) ∧
      next.unresolvedByManualIndex = places.map (·.unresolved) ∧
      next.diagnosticByManualIndex = places.map (·.diagnostic) ∧
      next.pendingHosts = state.pendingHosts ∧
      next.completionScheduled = state.completionScheduled := by
  intro answer next places
  obtain ⟨entry, hentry, hpending, -⟩ := h.lookups lookup hmem
  have hslot : (slots qt answers request (waiting.map (·.manualIndex)))[lookup.manualIndex]? =
      some entry := by
    rw [slots, List.getElem?_mapIdx, hentry, Option.map_some, if_pos (List.mem_map_of_mem hmem)]
  have hplaces : places = (slots qt answers request (waiting.map (·.manualIndex))).modify
      lookup.manualIndex (answered qt answers) := slots_erase hmem h.indices
  have hkept {β : Type} {project : ManualEntry QHostAddress → β}
      (hsame : project (answered qt answers entry) = project entry) : places.map project =
        (slots qt answers request (waiting.map (·.manualIndex))).map project := by
    rw [hplaces, map_modify_eq hslot (hsame.trans (id_eq _).symm), List.modify_id]
  have hchanged {β : Type} {project : ManualEntry QHostAddress → β} {change : β → β}
      (hsame : project (answered qt answers entry) = change (project entry)) :
      places.map project = ((slots qt answers request (waiting.map (·.manualIndex))).map
        project).modify lookup.manualIndex change := by
    rw [hplaces, map_modify_eq hslot hsame]
  have hplace : answered qt answers entry = withAnswer qt lookup.manualAddress answer entry := by
    rw [answered, hpending]
  by_cases hnone : normalizedResolvedAddresses qt answer.1 = []
  · have hanswered : answered qt answers entry = _ := hplace.trans (if_pos hnone)
    have hnext : next = { state with
        unresolvedByManualIndex := state.unresolvedByManualIndex.set lookup.manualIndex _
        diagnosticByManualIndex := state.diagnosticByManualIndex.set lookup.manualIndex _ } :=
      if_pos hnone
    have hcandidates := hkept (congrArg ManualEntry.candidates hanswered :)
    rw [hnext]
    refine ⟨h.priority, h.candidates.trans hcandidates.symm, ?_, ?_, rfl, rfl⟩
    · dsimp only
      rw [h.unresolved, List.set_eq_modify]
      exact (hchanged (congrArg ManualEntry.unresolved hanswered)).symm
    · dsimp only
      rw [h.diagnostic, List.set_eq_modify]
      exact (hchanged (congrArg ManualEntry.diagnostic hanswered)).symm
  · have hanswered : answered qt answers entry = _ := hplace.trans (if_neg hnone)
    have hnext : next = { state with
        manualCandidates := state.manualCandidates.modify lookup.manualIndex _ } := if_neg hnone
    have hunresolved := hkept (congrArg ManualEntry.unresolved hanswered :)
    have hdiagnostic := hkept (congrArg ManualEntry.diagnostic hanswered :)
    rw [hnext]
    refine ⟨h.priority, ?_, h.unresolved.trans hunresolved.symm,
      h.diagnostic.trans hdiagnostic.symm, rfl, rfl⟩
    dsimp only
    rw [h.candidates]
    exact (hchanged (congrArg ManualEntry.candidates hanswered)).symm

theorem finishHost_of_fills (h : Fills qt answers provider.state request waiting)
    (hmem : lookup ∈ waiting) (hgeneration : lookup.generation = provider.generation) :
    let answer := answers lookup.manualAddress.host
    let next := provider.finishHost qt lookup answer.1 answer.2
    next.generation = provider.generation ∧ next.lookups = provider.lookups ∧
      Fills qt answers next.state request (waiting.erase lookup) ∧
      next.timers = provider.timers ++
        if waiting.erase lookup = [] then [.completion provider.generation] else [] := by
  intro answer next
  obtain ⟨hpriority, hcandidates, hunresolved, hdiagnostic, hpending, hscheduled⟩ := h.recordHost hmem
  have hlength : (waiting.erase lookup).length = waiting.length - 1 := List.length_erase_of_mem hmem
  have hpositive : 0 < waiting.length := List.length_pos_of_mem hmem
  have hopen : provider.state.completionScheduled = false :=
    Bool.eq_false_iff.mpr fun htrue => List.ne_nil_of_mem hmem (h.scheduled.mp htrue)
  have hfills (state : ResolutionState QHostAddress)
      (hstate : state = { AddressCandidateProvider.recordHost qt lookup answer.1 answer.2 provider.state
        with pendingHosts := waiting.length - 1, completionScheduled := state.completionScheduled })
      (hdone : state.completionScheduled = true ↔ waiting.erase lookup = []) :
      Fills qt answers state request (waiting.erase lookup) := by
    rw [hstate]
    refine ⟨hpriority, hcandidates, hunresolved, hdiagnostic, hlength.symm, hdone, ?_, ?_⟩
    · exact h.indices.sublist (List.erase_sublist.map _)
    · exact fun other hother => h.lookups other (List.mem_of_mem_erase hother)
  have hnext : next = if waiting.length - 1 = 0 then
      scheduleCompletion { provider with
        state := { AddressCandidateProvider.recordHost qt lookup answer.1 answer.2 provider.state
          with pendingHosts := waiting.length - 1 } }
      else { provider with
        state := { AddressCandidateProvider.recordHost qt lookup answer.1 answer.2 provider.state
          with pendingHosts := waiting.length - 1 } } := by
    have hheard : ¬ (lookup.generation ≠ provider.generation ∨ provider.state.pendingHosts = 0) := by
      rw [h.pending]
      omega
    show AddressCandidateProvider.finishHost qt lookup answer.1 answer.2 provider = _
    rw [AddressCandidateProvider.finishHost, if_neg hheard]
    dsimp only
    rw [hpending, h.pending]
  by_cases hlast : waiting.erase lookup = []
  · have hzero : waiting.length - 1 = 0 := by rw [← hlength, hlast, List.length_nil]
    rw [hnext, if_pos hzero, if_pos hlast, scheduleCompletion, if_neg]
    · exact ⟨rfl, rfl, hfills _ rfl (iff_of_true rfl hlast), rfl⟩
    · exact Bool.eq_false_iff.mp (hscheduled.trans hopen)
  · have hmore : waiting.length - 1 ≠ 0 := by
      rw [← hlength]
      exact fun hzero => hlast (List.length_eq_zero_iff.mp hzero)
    rw [hnext, if_neg hmore, if_neg hlast, List.append_nil]
    refine ⟨rfl, rfl, hfills _ rfl (iff_of_false ?_ hlast), rfl⟩
    exact Bool.eq_false_iff.mp (hscheduled.trans hopen)

theorem Ok.exists_newest (h : Ok qt answers run) (hsome : 0 < run.provider.generation) :
    ∃ request, run.requests.getLast? = some request ∧
      run.requests[run.provider.generation - 1]? = some request ∧ Newest qt answers run request := by
  have hlength : run.requests.length - 1 < run.requests.length := by
    rw [← h.generation]
    omega
  have hlast : run.requests.getLast? = some run.requests[run.requests.length - 1] := by
    rw [List.getLast?_eq_getElem?, List.getElem?_eq_getElem hlength]
  refine ⟨_, hlast, ?_, h.newest _ hlast⟩
  rw [h.generation, List.getElem?_eq_getElem hlength]

theorem Ok.resolved {next : AddressCandidateProvider QHostAddress} {fresh : List HostLookup}
    (h : Ok qt answers run) (hgeneration : next.generation = run.provider.generation + 1)
    (hlookups : next.lookups = run.provider.lookups ++ fresh)
    (hfresh : ∀ lookup ∈ fresh, lookup.generation = run.provider.generation + 1)
    (htimers : next.timers = run.provider.timers ++
      if fresh = [] then [timerOf request (run.provider.generation + 1)] else [])
    (hrejected : Rejected request → fresh = [])
    (hfills : ¬ Rejected request → Fills qt answers next.state request fresh) :
    Ok qt answers { run with provider := next, requests := run.requests ++ [request] } := by
  have htimer : (timerOf request (run.provider.generation + 1)).generation =
      run.provider.generation + 1 := by
    unfold timerOf
    split <;> rfl
  have hold : run.provider.generation + 1 ∉ run.due := fun hmem =>
    absurd (h.bounds _ hmem).2 (Nat.not_succ_le_self _)
  have hwaiting : waiting { run with provider := next, requests := run.requests ++ [request] } =
      fresh := by
    have hstale : run.provider.lookups.filter (·.generation = next.generation) = [] := by
      rw [List.filter_eq_nil_iff, hgeneration]
      intro lookup hlookup hsame
      have hle := (h.lookups lookup hlookup).2
      have heq := of_decide_eq_true hsame
      omega
    show next.lookups.filter (·.generation = next.generation) = fresh
    rw [hlookups, List.filter_append, hstale, List.nil_append, List.filter_eq_self, hgeneration]
    exact fun lookup hlookup => decide_eq_true (hfresh lookup hlookup)
  have hdue : (due { run with provider := next, requests := run.requests ++ [request] }).Perm
      ((if fresh = [] then [run.provider.generation + 1] else []) ++ run.due) := by
    show (next.timers.map (·.generation) ++ run.emitted.map Prod.fst).Perm _
    rw [htimers, List.map_append, List.append_assoc]
    split
    case isTrue =>
      rw [List.map_singleton, htimer]
      exact List.perm_middle
    case isFalse => exact List.Perm.refl _
  refine ⟨?_, ?_, ?_, ?_, ?_, ?_⟩
  · show next.generation = (run.requests ++ [request]).length
    rw [hgeneration, h.generation, List.length_append, List.length_singleton]
  · show ∀ lookup ∈ next.lookups, 0 < lookup.generation ∧ lookup.generation ≤ next.generation
    rw [hlookups, hgeneration]
    intro lookup hlookup
    rcases List.mem_append.mp hlookup with hlookup | hlookup
    · have hbounds := h.lookups lookup hlookup
      omega
    · rw [hfresh lookup hlookup]
      omega
  · rw [hdue.nodup_iff]
    split
    case isTrue => exact List.nodup_cons.mpr ⟨hold, h.nodup⟩
    case isFalse => exact h.nodup
  · intro number hnumber
    show 0 < number ∧ number ≤ next.generation
    rw [hgeneration]
    rcases List.mem_append.mp (hdue.mem_iff.mp hnumber) with hnew | hnumber
    · split at hnew
      · rw [List.mem_singleton.mp hnew]
        omega
      · exact absurd hnew List.not_mem_nil
    · have hbounds := h.bounds number hnumber
      omega
  · intro answer hanswer
    obtain ⟨earlier, hearlier, heq⟩ := h.emitted answer hanswer
    refine ⟨earlier, ?_, heq⟩
    rw [List.getElem?_append_left, hearlier]
    exact (List.getElem?_eq_some_iff.mp hearlier).1
  · intro last hlast
    obtain rfl : request = last := by
      rw [List.getLast?_concat] at hlast
      exact Option.some.inj hlast
    refine ⟨fun hreject => hwaiting.trans (hrejected hreject), fun hports => ?_, ?_, ?_⟩
    · rw [hwaiting]
      exact hfills hports
    · show ∀ timer ∈ next.timers, timer.generation = next.generation → timer = timerOf _ next.generation
      rw [htimers, hgeneration]
      intro timer hmem hsame
      rcases List.mem_append.mp hmem with hmem | hmem
      · exact absurd (hsame ▸ List.mem_append_left _ (List.mem_map_of_mem hmem)) hold
      · split at hmem
        · exact List.mem_singleton.mp hmem
        · exact absurd hmem List.not_mem_nil
    · rw [hwaiting]
      show next.generation ∈ due _ ↔ fresh = []
      rw [hdue.mem_iff, hgeneration, List.mem_append, or_iff_left hold]
      split
      case isTrue hnone => exact iff_of_true (List.mem_singleton_self _) hnone
      case isFalse hsome => exact iff_of_false List.not_mem_nil hsome

theorem Ok.resolve (h : Ok qt answers run) (request : AddressCandidateRequest QHostAddress) :
    Ok qt answers { run with provider := run.provider.resolveCandidates qt request
                             requests := run.requests ++ [request] } := by
  by_cases hports : Rejected request
  · rw [resolveCandidates_of_rejected hports]
    refine h.resolved rfl (List.append_nil _).symm (fun lookup hmem => absurd hmem List.not_mem_nil)
      ?_ (fun _ => rfl) (fun haccepted => absurd hports haccepted)
    rw [if_pos rfl, timerOf, if_pos hports]
  · rw [resolveCandidates_of_accepted hports]
    refine h.resolved rfl rfl (fun lookup hmem => (mem_lookupsOf.mp hmem).1) ?_
      (fun hreject => absurd hreject hports) fun _ => fills_startState decide_eq_true_iff
    rw [timerOf, if_neg hports]

theorem finishHost_of_stale {addresses : List QHostAddress} {diagnostic : QString}
    (h : lookup.generation ≠ provider.generation) :
    provider.finishHost qt lookup addresses diagnostic = provider :=
  if_pos (Or.inl h)

theorem Ok.finish_stale (h : Ok qt answers run)
    (hstale : lookup.generation ≠ run.provider.generation) :
    Ok qt answers { run with
      provider := { run.provider with lookups := run.provider.lookups.erase lookup } } := by
  have hwaiting : waiting { run with provider :=
      { run.provider with lookups := run.provider.lookups.erase lookup } } = run.waiting := by
    unfold waiting
    rw [← List.erase_filter, List.erase_of_not_mem]
    exact fun hmem => hstale (of_decide_eq_true (List.mem_filter.mp hmem).2)
  refine ⟨h.generation, fun other hother => h.lookups other (List.mem_of_mem_erase hother), h.nodup,
    h.bounds, h.emitted, fun request hrequest => ?_⟩
  have hnewest := h.newest request hrequest
  refine ⟨fun hreject => hwaiting.trans (hnewest.rejected hreject), fun hports => ?_, hnewest.timer, ?_⟩
  · rw [hwaiting]
    exact hnewest.fills hports
  · rw [hwaiting]
    exact hnewest.due

theorem Ok.finish_newest (h : Ok qt answers run) (hmem : lookup ∈ run.provider.lookups)
    (hgeneration : lookup.generation = run.provider.generation) :
    let answer := answers lookup.manualAddress.host
    let erased := { run.provider with lookups := run.provider.lookups.erase lookup }
    Ok qt answers { run with provider := erased.finishHost qt lookup answer.1 answer.2 } := by
  intro answer erased
  have hwaits : lookup ∈ run.waiting := List.mem_filter.mpr ⟨hmem, decide_eq_true hgeneration⟩
  obtain ⟨request, hlast, -, hnewest⟩ :=
    h.exists_newest (hgeneration ▸ (h.lookups lookup hmem).1)
  have hports : ¬ Rejected request := fun hreject =>
    List.ne_nil_of_mem hwaits (hnewest.rejected hreject)
  have hnone : run.provider.generation ∉ run.due := fun hdue =>
    List.ne_nil_of_mem hwaits (hnewest.due.mp hdue)
  have hfills : Fills qt answers erased.state request run.waiting := hnewest.fills hports
  obtain ⟨hnumber, hlookups, hfilled, htimers⟩ := finishHost_of_fills hfills hwaits hgeneration
  have hwaiting : waiting { run with provider := erased.finishHost qt lookup answer.1 answer.2 } =
      run.waiting.erase lookup := by
    unfold waiting
    rw [hlookups, hnumber, List.erase_filter]
  have hdue : (due { run with provider := erased.finishHost qt lookup answer.1 answer.2 }).Perm
      ((if run.waiting.erase lookup = [] then [run.provider.generation] else []) ++ run.due) := by
    unfold due
    rw [htimers, List.map_append, List.append_assoc]
    split
    case isTrue => exact List.perm_middle
    case isFalse => exact List.Perm.refl _
  refine ⟨hnumber.trans h.generation, ?_, ?_, ?_, h.emitted, ?_⟩
  · show ∀ other ∈ (erased.finishHost qt lookup answer.1 answer.2).lookups,
      0 < other.generation ∧ other.generation ≤ _
    rw [hlookups, hnumber]
    exact fun other hother => h.lookups other (List.mem_of_mem_erase hother)
  · rw [hdue.nodup_iff]
    split
    case isTrue => exact List.nodup_cons.mpr ⟨hnone, h.nodup⟩
    case isFalse => exact h.nodup
  · intro number hmember
    show 0 < number ∧ number ≤ (erased.finishHost qt lookup answer.1 answer.2).generation
    rw [hnumber]
    rcases List.mem_append.mp (hdue.mem_iff.mp hmember) with hnew | hold
    · split at hnew
      · rw [List.mem_singleton.mp hnew, ← hgeneration]
        exact ⟨(h.lookups lookup hmem).1, Nat.le_refl _⟩
      · exact absurd hnew List.not_mem_nil
    · exact h.bounds number hold
  · intro last hlast'
    obtain rfl : request = last := Option.some.inj (hlast.symm.trans hlast')
    refine ⟨fun hreject => absurd hreject hports, fun _ => hwaiting.symm ▸ hfilled, ?_, ?_⟩
    · show ∀ timer ∈ (erased.finishHost qt lookup answer.1 answer.2).timers, timer.generation =
        (erased.finishHost qt lookup answer.1 answer.2).generation → timer = timerOf request
          (erased.finishHost qt lookup answer.1 answer.2).generation
      rw [htimers, hnumber]
      intro timer htimer hsame
      rcases List.mem_append.mp htimer with htimer | htimer
      · exact hnewest.timer timer htimer hsame
      · rw [timerOf, if_neg hports]
        split at htimer
        · exact List.mem_singleton.mp htimer
        · exact absurd htimer List.not_mem_nil
    · rw [hwaiting]
      show (erased.finishHost qt lookup answer.1 answer.2).generation ∈ _ ↔ _
      rw [hdue.mem_iff, hnumber, List.mem_append, or_iff_left hnone]
      split
      case isTrue hdone => exact iff_of_true (List.mem_singleton_self _) hdone
      case isFalse hmore => exact iff_of_false List.not_mem_nil hmore

theorem Ok.timeout_eq (h : Ok qt answers run) {timer : ResolutionTimer}
    (hmem : timer ∈ run.provider.timers) (hnewest : Newest qt answers run request)
    (timers : List ResolutionTimer) :
    AddressCandidateProvider.timeout qt timer { run.provider with timers } =
      if timer.generation = run.provider.generation then some (outcome qt answers request)
      else none := by
  by_cases hgeneration : timer.generation = run.provider.generation
  · have hdue : run.provider.generation ∈ run.due :=
      hgeneration ▸ List.mem_append_left _ (List.mem_map_of_mem hmem)
    have hnone := hnewest.due.mp hdue
    rw [if_pos hgeneration, hnewest.timer timer hmem hgeneration, timerOf]
    by_cases hports : Rejected request
    · rw [if_pos hports, outcome, if_pos hports]
      exact if_neg (not_not.mpr rfl)
    · have hfills := hnewest.fills hports
      rw [hnone] at hfills
      rw [if_neg hports, ← result_eq hports hfills.priority hfills.candidates hfills.unresolved
        hfills.diagnostic]
      exact if_neg (not_not.mpr rfl)
  · rw [if_neg hgeneration]
    exact if_pos hgeneration

theorem Ok.fire (h : Ok qt answers run) {timer : ResolutionTimer}
    (hmem : timer ∈ run.provider.timers) :
    let provider := { run.provider with timers := run.provider.timers.erase timer }
    Ok qt answers { run with
      provider
      emitted := run.emitted ++ (provider.timeout qt timer).toList.map fun signal =>
        (timer.generation, signal) } := by
  intro provider
  have hnumber : timer.generation ∈ run.due := List.mem_append_left _ (List.mem_map_of_mem hmem)
  have hpositive : 0 < run.provider.generation := by
    have hbounds := h.bounds _ hnumber
    omega
  obtain ⟨request, hlast, hrequest, hnewest⟩ := h.exists_newest hpositive
  have htimeout := h.timeout_eq hmem hnewest (run.provider.timers.erase timer)
  have hperm : (run.provider.timers.map (·.generation)).Perm
      (timer.generation :: (run.provider.timers.erase timer).map (·.generation)) :=
    (List.perm_cons_erase hmem).map _
  have hsplit : run.due.Perm (timer.generation ::
      ((run.provider.timers.erase timer).map (·.generation) ++ run.emitted.map Prod.fst)) :=
    hperm.append_right _
  have hgone := (List.nodup_cons.mp (hsplit.nodup_iff.mp h.nodup)).1
  have hrest := (List.nodup_cons.mp (hsplit.nodup_iff.mp h.nodup)).2
  by_cases hgeneration : timer.generation = run.provider.generation
  · have hdue : (due { run with
        provider
        emitted := run.emitted ++ [(timer.generation, outcome qt answers request)] }).Perm
        run.due := by
      unfold due
      rw [List.map_append, List.map_singleton, ← List.append_assoc]
      exact (List.perm_append_singleton _ _).trans hsplit.symm
    rw [htimeout, if_pos hgeneration]
    refine ⟨h.generation, h.lookups, hdue.nodup_iff.mpr h.nodup, fun number hmember =>
      h.bounds number (hdue.mem_iff.mp hmember), fun answer hanswer => ?_, fun last hlast' => ?_⟩
    · rcases List.mem_append.mp hanswer with hanswer | hanswer
      · exact h.emitted answer hanswer
      · rw [List.mem_singleton.mp hanswer]
        exact ⟨request, hgeneration ▸ hrequest, rfl⟩
    · have hsame := h.newest last hlast'
      exact ⟨hsame.rejected, hsame.fills, fun other hother => hsame.timer other
        (List.mem_of_mem_erase hother), hdue.mem_iff.trans hsame.due⟩
  · rw [htimeout, if_neg hgeneration]
    have hemitted : run.emitted ++ (none : Option (ResolutionSignal QHostAddress)).toList.map
        (fun signal => (timer.generation, signal)) = run.emitted := List.append_nil _
    rw [hemitted]
    refine ⟨h.generation, h.lookups, hrest, fun number hmember => h.bounds number
      (hsplit.mem_iff.mpr (List.mem_cons_of_mem _ hmember)), h.emitted, fun last hlast' => ?_⟩
    have hsame := h.newest last hlast'
    refine ⟨hsame.rejected, hsame.fills, fun other hother => hsame.timer other
      (List.mem_of_mem_erase hother), Iff.trans ?_ hsame.due⟩
    exact (hsplit.mem_iff.trans (List.mem_cons.trans (or_iff_right (Ne.symm hgeneration)))).symm

theorem ok_of_reachable (h : (machine qt answers).Reachable (fun _ _ => True) run) :
    Ok qt answers run := by
  refine h.invariant (fun state hstart => ?_) fun state event next hok _ hstep => ?_
  · obtain rfl : state = {} := hstart
    exact ⟨rfl, fun lookup hmem => absurd hmem List.not_mem_nil, List.nodup_nil,
      fun number hmem => absurd hmem List.not_mem_nil,
      fun answer hmem => absurd hmem List.not_mem_nil, fun request hlast => absurd hlast.symm nofun⟩
  · cases event with
    | resolve request =>
      obtain rfl := Option.some.inj hstep
      exact hok.resolve request
    | finish lookup =>
      obtain ⟨hmem, heq⟩ := Option.ite_none_right_eq_some.mp hstep
      obtain rfl := Option.some.inj heq
      by_cases hgeneration : lookup.generation = state.provider.generation
      · exact hok.finish_newest hmem hgeneration
      · have hunheard : AddressCandidateProvider.finishHost qt lookup
            (answers lookup.manualAddress.host).1 (answers lookup.manualAddress.host).2
            { state.provider with lookups := state.provider.lookups.erase lookup } = _ :=
          finishHost_of_stale hgeneration
        dsimp only
        rw [hunheard]
        exact hok.finish_stale hgeneration
    | fire timer =>
      obtain ⟨hmem, heq⟩ := Option.ite_none_right_eq_some.mp hstep
      obtain rfl := Option.some.inj heq
      exact hok.fire hmem

/-- A callback of an earlier request than the newest. -/
def Superseded (run : ResolutionRun QHostAddress) : ResolutionEvent QHostAddress → Prop
  | .resolve _ => False
  | .finish lookup => lookup.generation ≠ run.requests.length
  | .fire timer => timer.generation ≠ run.requests.length

/-- A state without the callback of an event. -/
def dismiss (run : ResolutionRun QHostAddress) :
    ResolutionEvent QHostAddress → ResolutionRun QHostAddress
  | .resolve _ => run
  | .finish lookup =>
    { run with provider := { run.provider with lookups := run.provider.lookups.erase lookup } }
  | .fire timer =>
    { run with provider := { run.provider with timers := run.provider.timers.erase timer } }

/-- Nothing of the newest request is out. -/
def Settled (run : ResolutionRun QHostAddress) : Prop :=
  (∀ lookup ∈ run.provider.lookups, lookup.generation ≠ run.requests.length) ∧
    ∀ timer ∈ run.provider.timers, timer.generation ≠ run.requests.length

theorem step_of_superseded (h : Ok qt answers run) {event : ResolutionEvent QHostAddress}
    {next : ResolutionRun QHostAddress} (hsuperseded : Superseded run event)
    (hstep : step qt answers run event = some next) : next = run.dismiss event := by
  cases event with
  | resolve request => exact absurd hsuperseded id
  | finish lookup =>
    obtain ⟨-, heq⟩ := Option.ite_none_right_eq_some.mp hstep
    obtain rfl := Option.some.inj heq
    have hunheard : AddressCandidateProvider.finishHost qt lookup
        (answers lookup.manualAddress.host).1 (answers lookup.manualAddress.host).2
        { run.provider with lookups := run.provider.lookups.erase lookup } = _ :=
      finishHost_of_stale (h.generation.trans_ne (Ne.symm hsuperseded)).symm
    dsimp only
    rw [hunheard, dismiss]
  | fire timer =>
    obtain ⟨-, heq⟩ := Option.ite_none_right_eq_some.mp hstep
    obtain rfl := Option.some.inj heq
    have hsilent : AddressCandidateProvider.timeout qt timer
        { run.provider with timers := run.provider.timers.erase timer } = none :=
      if_pos (h.generation.trans_ne (Ne.symm hsuperseded)).symm
    have hemitted : run.emitted ++ (none : Option (ResolutionSignal QHostAddress)).toList.map
        (fun signal => (timer.generation, signal)) = run.emitted := List.append_nil _
    dsimp only
    rw [hsilent, hemitted, dismiss]

theorem mem_emitted_of_settled (h : Ok qt answers run) (hsome : run.requests ≠ [])
    (hsettled : run.Settled) : run.requests.length ∈ run.emitted.map Prod.fst := by
  have hpositive : 0 < run.provider.generation := by
    rw [h.generation]
    exact List.length_pos_iff.mpr hsome
  obtain ⟨request, -, -, hnewest⟩ := h.exists_newest hpositive
  have hnone : run.waiting = [] := by
    apply List.filter_eq_nil_iff.mpr
    intro lookup hlookup hsame
    exact hsettled.1 lookup hlookup ((of_decide_eq_true hsame).trans h.generation)
  rcases List.mem_append.mp (hnewest.due.mpr hnone) with htimer | hemitted
  · obtain ⟨timer, hmem, hsame⟩ := List.mem_map.mp htimer
    exact absurd (hsame.trans h.generation) (hsettled.2 timer hmem)
  · exact h.generation ▸ hemitted

/-- **Lookup timing.** What is emitted for a request is its outcome, so two runs emit the same for the
same request; a request that is not superseded is answered once; a callback of a superseded one changes
and emits nothing. The candidates of an outcome have addresses and ports of their own and stand in the
order of all candidates, each usable one of which has its key among them. -/
theorem timing_independent (qt : QtNetwork QHostAddress)
    (answers : QString → List QHostAddress × QString) :
    (∀ run, (machine qt answers).Reachable (fun _ _ => True) run →
      (∀ answer ∈ run.emitted, ∃ request, run.requests[answer.1 - 1]? = some request ∧
        answer.2 = outcome qt answers request) ∧
      (∀ other, (machine qt answers).Reachable (fun _ _ => True) other →
        ∀ answer ∈ run.emitted, ∀ otherAnswer ∈ other.emitted,
          run.requests[answer.1 - 1]? = other.requests[otherAnswer.1 - 1]? →
            answer.2 = otherAnswer.2) ∧
      (run.emitted.map Prod.fst).Nodup ∧
      (run.requests ≠ [] → run.Settled → run.requests.length ∈ run.emitted.map Prod.fst) ∧
      ∀ event next, Superseded run event → step qt answers run event = some next →
        next = run.dismiss event) ∧
    ∀ request result, outcome qt answers request = .candidatesResolved result →
      (result.candidates.map fun candidate =>
        (candidate.address, candidate.inputPort, candidate.filePort)).Nodup ∧
      result.candidates.Sublist (allCandidates qt answers request) ∧
      ∀ candidate ∈ allCandidates qt answers request, isUsableAddress qt candidate.address = true →
        ∃ kept ∈ result.candidates, candidateKey qt kept = candidateKey qt candidate := by
  refine ⟨fun run hrun => ?_, fun request result hresult => ?_⟩
  · have hok := ok_of_reachable hrun
    refine ⟨hok.emitted, fun other hother answer hanswer otherAnswer hotherAnswer hsame => ?_,
      (List.nodup_append.mp hok.nodup).2.1, mem_emitted_of_settled hok,
      fun event next hsuperseded hstep => step_of_superseded hok hsuperseded hstep⟩
    obtain ⟨request, hrequest, heq⟩ := hok.emitted answer hanswer
    obtain ⟨otherRequest, hotherRequest, hotherEq⟩ :=
      (ok_of_reachable hother).emitted otherAnswer hotherAnswer
    obtain rfl : request = otherRequest :=
      Option.some.inj (hrequest.symm.trans (hsame.trans hotherRequest))
    exact heq.trans hotherEq.symm
  · unfold outcome at hresult
    split at hresult
    case isTrue => cases hresult
    case isFalse =>
      cases hresult
      have hnone : Distinct qt [] := List.nodup_nil
      refine ⟨hnone.foldl.nodup_addresses, ?_, fun candidate hmem husable => ?_⟩
      · exact foldl_appendCandidate_sublist
      · exact exists_key_foldl hmem husable

/-- A network address that was reached before is the outcome, once the timer has fired. -/
theorem timing_independent_recent : ∃ run : ResolutionRun QString,
    (run.requests ≠ [] → run.Settled → run.requests.length ∈ run.emitted.map Prod.fst) ∧
      run.requests.length = 1 ∧ run.emitted.length = 1 := by
  have hresolved := @Machine.Run.tail _ _ (machine QtNetwork.dotted fun _ => ([], []))
    (fun _ _ => True) {} _ _
    (.resolve { recentSuccessfulAddresses := [QString.literal "10.0.0.1"] }) .refl trivial rfl
  have hfired := @Machine.Run.tail _ _ (machine QtNetwork.dotted fun _ => ([], []))
    (fun _ _ => True) {} _ _ (.fire (.completion 1)) hresolved trivial rfl
  exact ⟨_, ((timing_independent QtNetwork.dotted fun _ => ([], [])).1 _ ⟨{}, rfl, hfired⟩).2.2.2.1,
    rfl, rfl⟩

end ResolutionRun

end DeskflowPlus.Reconnect
