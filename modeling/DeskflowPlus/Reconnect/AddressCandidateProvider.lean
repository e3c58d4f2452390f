import Mathlib.Data.List.Nodup
import Mathlib.Tactic.SplitIfs
import DeskflowPlus.Trust.TrustedDeviceStore

/-!
# The addresses under which a peer may be found

A resolution collects the addresses of earlier connections, then the discovered ones, then the
manual ones in their order, and names each address with its ports once. Manual names are looked up
while the provider returns to its event loop; a new resolution makes the callbacks of the earlier
ones void.
-/

namespace DeskflowPlus.Reconnect

open Transfer Trust

def kDefaultManualInputPort : UInt16 := 24800
def kDefaultManualFilePort : UInt16 := 24801

structure ManualAddress where
  host : QString
  inputPort : UInt16 := kDefaultManualInputPort
  filePort : UInt16 := kDefaultManualFilePort
  deriving DecidableEq

structure DiscoverySettings where
  enabled : Bool := true
  manualAddresses : List ManualAddress := []
  deriving DecidableEq

inductive NetworkLayerProtocol where
  | iPv4Protocol
  | iPv6Protocol
  | anyIPProtocol
  | unknownNetworkLayerProtocol
  deriving DecidableEq

/-- What is asked of `QHostAddress` and of `QString::arg`, and `parseManualAddress`, which gives a
manual address in its normal form or a diagnostic. -/
structure QtNetwork (QHostAddress : Type) where
  setAddress : QString → Option QHostAddress
  toString : QHostAddress → QString
  isNull : QHostAddress → Bool
  isMulticast : QHostAddress → Bool
  isBroadcast : QHostAddress → Bool
  anyIPv4 : QHostAddress
  anyIPv6 : QHostAddress
  protocol : QHostAddress → NetworkLayerProtocol
  arg : QString → QString → QString
  parseManualAddress : QString → UInt16 → UInt16 → Except QString ManualAddress

inductive AddressCandidateSource where
  | recentSuccessful
  | discovered
  | manual
  deriving DecidableEq

structure AddressCandidate (QHostAddress : Type) where
  address : QHostAddress
  inputPort : UInt16 := kDefaultManualInputPort
  filePort : UInt16 := kDefaultManualFilePort
  source : AddressCandidateSource := .manual
  originHost : QString := []
  deriving DecidableEq

structure AddressCandidateRequest (QHostAddress : Type) where
  settings : DiscoverySettings := {}
  recentSuccessfulAddresses : List QHostAddress := []
  discoveredAddresses : List QHostAddress := []
  inputPort : UInt16 := kDefaultManualInputPort
  filePort : UInt16 := kDefaultManualFilePort
  deriving DecidableEq

structure AddressCandidateResult (QHostAddress : Type) where
  candidates : List (AddressCandidate QHostAddress) := []
  unresolvedHosts : List QString := []
  diagnostics : List QString := []
  deriving DecidableEq

variable {QHostAddress : Type} [DecidableEq QHostAddress]

section Candidates

variable (qt : QtNetwork QHostAddress)

def isUsableAddress (address : QHostAddress) : Bool :=
  !qt.isNull address && !qt.isMulticast address && !qt.isBroadcast address &&
    address ≠ qt.anyIPv4 && address ≠ qt.anyIPv6 &&
    qt.protocol address ≠ .unknownNetworkLayerProtocol

def candidateKey (candidate : AddressCandidate QHostAddress) : QString :=
  qt.arg
    (qt.arg (qt.arg (QString.literal "%1|%2|%3") (qt.toString candidate.address))
      (QString.literal candidate.inputPort.toNat.repr))
    (QString.literal candidate.filePort.toNat.repr)

/-- `seen` holds the keys of the list. -/
def appendCandidate (candidates : List (AddressCandidate QHostAddress))
    (candidate : AddressCandidate QHostAddress) : List (AddressCandidate QHostAddress) :=
  if isUsableAddress qt candidate.address = false then candidates
  else if candidateKey qt candidate ∈ candidates.map (candidateKey qt) then candidates
  else candidates ++ [candidate]

def protocolRank (address : QHostAddress) : Nat :=
  if qt.protocol address = .iPv4Protocol then 0 else 1

def addressOrder (left right : QHostAddress) : Bool :=
  if protocolRank qt left ≠ protocolRank qt right then protocolRank qt left < protocolRank qt right
  else !decide (qt.toString right < qt.toString left)

def normalizedResolvedAddresses (addresses : List QHostAddress) : List QHostAddress :=
  (addresses.foldl (fun result address =>
    if isUsableAddress qt address && !result.contains address then result ++ [address]
    else result) []).mergeSort (addressOrder qt)

def Distinct (candidates : List (AddressCandidate QHostAddress)) : Prop :=
  (candidates.map (candidateKey qt)).Nodup

variable {qt}

theorem Distinct.appendCandidate {candidates : List (AddressCandidate QHostAddress)}
    (h : Distinct qt candidates) (candidate : AddressCandidate QHostAddress) :
    Distinct qt (appendCandidate qt candidates candidate) := by
  unfold Reconnect.appendCandidate
  split_ifs with husable hseen
  · exact h
  · exact h
  · unfold Distinct
    rw [List.map_append, List.map_singleton]
    exact List.nodup_append.mpr ⟨h, List.nodup_singleton _, fun key hkey other hother => by
      rw [List.mem_singleton.mp hother]
      exact fun heq => hseen (heq ▸ hkey)⟩

theorem Distinct.foldl {candidates more : List (AddressCandidate QHostAddress)}
    (h : Distinct qt candidates) :
    Distinct qt (more.foldl (Reconnect.appendCandidate qt) candidates) := by
  induction more generalizing candidates with
  | nil => exact h
  | cons candidate more ih => exact ih (h.appendCandidate candidate)

end Candidates

structure ResolutionState (QHostAddress : Type) where
  priorityCandidates : List (AddressCandidate QHostAddress) := []
  manualCandidates : List (List (AddressCandidate QHostAddress)) := []
  unresolvedByManualIndex : List QString := []
  diagnosticByManualIndex : List QString := []
  pendingHosts : Nat := 0
  completionScheduled : Bool := false
  deriving DecidableEq

/-- What a manual entry gives at once, and the name that has to be looked up for it. -/
structure ManualEntry (QHostAddress : Type) where
  candidates : List (AddressCandidate QHostAddress) := []
  unresolved : QString := []
  diagnostic : QString := []
  pending : Option ManualAddress := none

/-- A host name the resolver was asked for; it may call back any number of times. -/
structure HostLookup where
  generation : Nat
  manualIndex : Nat
  manualAddress : ManualAddress
  deriving DecidableEq

/-- A single shot of the provider's. -/
inductive ResolutionTimer where
  | portsRejected (generation : Nat)
  | completion (generation : Nat)
  deriving DecidableEq

def ResolutionTimer.generation : ResolutionTimer → Nat
  | .portsRejected generation | .completion generation => generation

inductive ResolutionSignal (QHostAddress : Type) where
  | candidatesResolved (result : AddressCandidateResult QHostAddress)
  | resolutionFailed (diagnostic : QString)
  deriving DecidableEq

/-- The provider and the callbacks that are out. Of the resolutions only the newest is kept: no
callback of an earlier one reads its state. -/
structure AddressCandidateProvider (QHostAddress : Type) where
  generation : Nat := 0
  state : ResolutionState QHostAddress := {}
  lookups : List HostLookup := []
  timers : List ResolutionTimer := []
  deriving DecidableEq

namespace AddressCandidateProvider

variable (qt : QtNetwork QHostAddress)

def manualEntry (entry : ManualAddress) : ManualEntry QHostAddress :=
  match qt.parseManualAddress entry.host entry.inputPort entry.filePort with
  | .error diagnostic =>
    { unresolved := entry.host, diagnostic := entry.host ++ QString.literal ": " ++ diagnostic }
  | .ok normalized =>
    match qt.setAddress normalized.host with
    | some literal =>
      { candidates := [{ address := literal, inputPort := normalized.inputPort
                         filePort := normalized.filePort, source := .manual
                         originHost := normalized.host }] }
    | none => { pending := some normalized }

def scheduleCompletion (provider : AddressCandidateProvider QHostAddress) :
    AddressCandidateProvider QHostAddress :=
  if provider.state.completionScheduled then provider
  else
    { provider with
      state := { provider.state with completionScheduled := true }
      timers := provider.timers ++ [.completion provider.generation] }

def priorityCandidates (request : AddressCandidateRequest QHostAddress) :
    List (AddressCandidate QHostAddress) :=
  let candidate (source : AddressCandidateSource) (address : QHostAddress) :
      AddressCandidate QHostAddress :=
    { address, inputPort := request.inputPort, filePort := request.filePort, source }
  let recent := (request.recentSuccessfulAddresses.map (candidate .recentSuccessful)).foldl
    (appendCandidate qt) []
  if request.settings.enabled then
    (request.discoveredAddresses.map (candidate .discovered)).foldl (appendCandidate qt) recent
  else recent

def resolveCandidates (request : AddressCandidateRequest QHostAddress)
    (provider : AddressCandidateProvider QHostAddress) : AddressCandidateProvider QHostAddress :=
  let generation := provider.generation + 1
  if request.inputPort = 0 ∨ request.filePort = 0 then
    { provider with generation, timers := provider.timers ++ [.portsRejected generation] }
  else
    let entries : List (ManualEntry QHostAddress) :=
      request.settings.manualAddresses.map (manualEntry qt)
    let pending := entries.zipIdx.filterMap fun (entry, index) =>
      entry.pending.map fun manualAddress => HostLookup.mk generation index manualAddress
    let resolving := { provider with
      generation
      state :=
        { priorityCandidates := priorityCandidates qt request
          manualCandidates := entries.map ManualEntry.candidates
          unresolvedByManualIndex := entries.map ManualEntry.unresolved
          diagnosticByManualIndex := entries.map ManualEntry.diagnostic
          pendingHosts := pending.length } }
    if pending = [] then resolving.scheduleCompletion
    else { resolving with lookups := resolving.lookups ++ pending }

def recordHost (lookup : HostLookup) (addresses : List QHostAddress) (diagnostic : QString)
    (state : ResolutionState QHostAddress) : ResolutionState QHostAddress :=
  let host := lookup.manualAddress.host
  let normalizedAddresses := normalizedResolvedAddresses qt addresses
  if normalizedAddresses = [] then
    { state with
      unresolvedByManualIndex := state.unresolvedByManualIndex.set lookup.manualIndex host
      diagnosticByManualIndex := state.diagnosticByManualIndex.set lookup.manualIndex
        (host ++ QString.literal ": " ++
          if diagnostic = [] then QString.literal "hostname resolved to no usable addresses"
          else diagnostic) }
  else
    { state with
      manualCandidates := state.manualCandidates.modify lookup.manualIndex (· ++
        normalizedAddresses.map fun address =>
          { address, inputPort := lookup.manualAddress.inputPort
            filePort := lookup.manualAddress.filePort, source := .manual, originHost := host }) }

def finishHost (lookup : HostLookup) (addresses : List QHostAddress) (diagnostic : QString)
    (provider : AddressCandidateProvider QHostAddress) : AddressCandidateProvider QHostAddress :=
  if lookup.generation ≠ provider.generation ∨ provider.state.pendingHosts = 0 then provider
  else
    let state := recordHost qt lookup addresses diagnostic provider.state
    let pendingHosts := state.pendingHosts - 1
    let counted := { provider with state := { state with pendingHosts } }
    if pendingHosts = 0 then counted.scheduleCompletion else counted

def result (state : ResolutionState QHostAddress) : AddressCandidateResult QHostAddress :=
  let unresolved := (state.unresolvedByManualIndex.zip state.diagnosticByManualIndex).filter
    (·.1 ≠ [])
  { candidates := state.manualCandidates.flatten.foldl (appendCandidate qt) state.priorityCandidates
    unresolvedHosts := unresolved.map Prod.fst
    diagnostics := unresolved.map Prod.snd }

/-- The signal that a timer emits, unless its resolution is no longer the newest. -/
def timeout (timer : ResolutionTimer) (provider : AddressCandidateProvider QHostAddress) :
    Option (ResolutionSignal QHostAddress) :=
  if timer.generation ≠ provider.generation then none
  else
    match timer with
    | .portsRejected _ =>
      some (.resolutionFailed (QString.literal "Candidate ports must be in the range 1..65535"))
    | .completion _ => some (.candidatesResolved (result qt provider.state))

variable {qt} {provider : AddressCandidateProvider QHostAddress}

/-- The candidates collected so far have keys of their own. -/
def Ok (qt : QtNetwork QHostAddress) (provider : AddressCandidateProvider QHostAddress) : Prop :=
  Distinct qt provider.state.priorityCandidates

omit [DecidableEq QHostAddress] in
theorem Ok.initial : Ok qt {} :=
  List.nodup_nil

omit [DecidableEq QHostAddress] in
theorem Ok.of_priorityCandidates {next : AddressCandidateProvider QHostAddress}
    (hsame : next.state.priorityCandidates = provider.state.priorityCandidates)
    (h : provider.Ok qt) : next.Ok qt := by
  unfold Ok
  rw [hsame]
  exact h

omit [DecidableEq QHostAddress] in
theorem Ok.scheduleCompletion (h : provider.Ok qt) : provider.scheduleCompletion.Ok qt := by
  unfold AddressCandidateProvider.scheduleCompletion
  split_ifs
  · exact h
  · exact h

theorem distinct_priorityCandidates (request : AddressCandidateRequest QHostAddress) :
    Distinct qt (priorityCandidates qt request) := by
  have hnone : Distinct qt [] := List.nodup_nil
  unfold priorityCandidates
  split_ifs
  · exact hnone.foldl.foldl
  · exact hnone.foldl

theorem Ok.resolveCandidates (h : provider.Ok qt) (request : AddressCandidateRequest QHostAddress) :
    (provider.resolveCandidates qt request).Ok qt := by
  have hpriority : Distinct qt (priorityCandidates qt request) :=
    distinct_priorityCandidates request
  unfold AddressCandidateProvider.resolveCandidates
  split_ifs
  · exact h
  dsimp only
  split_ifs
  · exact Ok.scheduleCompletion hpriority
  · exact hpriority

theorem Ok.finishHost (h : provider.Ok qt) (lookup : HostLookup) (addresses : List QHostAddress)
    (diagnostic : QString) : (provider.finishHost qt lookup addresses diagnostic).Ok qt := by
  have hrecord : (recordHost qt lookup addresses diagnostic provider.state).priorityCandidates =
      provider.state.priorityCandidates := by
    unfold recordHost
    dsimp only
    split_ifs <;> rfl
  unfold AddressCandidateProvider.finishHost
  split_ifs
  · exact h
  dsimp only
  split_ifs
  · exact Ok.scheduleCompletion (Ok.of_priorityCandidates hrecord h)
  · exact Ok.of_priorityCandidates hrecord h

theorem Ok.distinct_result (h : provider.Ok qt) :
    Distinct qt (result qt provider.state).candidates :=
  Distinct.foldl h

omit [DecidableEq QHostAddress] in
theorem generation_scheduleCompletion :
    provider.scheduleCompletion.generation = provider.generation := by
  unfold scheduleCompletion
  split_ifs <;> rfl

theorem generation_resolveCandidates (request : AddressCandidateRequest QHostAddress) :
    (provider.resolveCandidates qt request).generation = provider.generation + 1 := by
  unfold resolveCandidates
  split_ifs
  · rfl
  dsimp only
  split_ifs
  · exact generation_scheduleCompletion
  · rfl

theorem generation_finishHost (lookup : HostLookup) (addresses : List QHostAddress)
    (diagnostic : QString) :
    (provider.finishHost qt lookup addresses diagnostic).generation = provider.generation := by
  unfold finishHost
  split_ifs
  · rfl
  dsimp only
  split_ifs
  · exact generation_scheduleCompletion
  · rfl

theorem generation_of_timeout {timer : ResolutionTimer} {signal : ResolutionSignal QHostAddress}
    (h : provider.timeout qt timer = some signal) : timer.generation = provider.generation := by
  unfold timeout at h
  split_ifs at h with hgeneration
  exact not_not.mp hgeneration

theorem distinct_of_timeout (hok : provider.Ok qt) {timer : ResolutionTimer}
    {result : AddressCandidateResult QHostAddress}
    (h : provider.timeout qt timer = some (.candidatesResolved result)) :
    Distinct qt result.candidates := by
  unfold timeout at h
  split_ifs at h
  cases timer with
  | portsRejected generation => cases h
  | completion generation =>
    cases h
    exact hok.distinct_result

end AddressCandidateProvider

end DeskflowPlus.Reconnect
