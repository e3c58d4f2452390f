import DeskflowPlus.Reconnect.AutoReconnectCoordinator

/-!
# The coordinator among its callbacks

Lookups and timers of the provider, attempts the connector still has to report on, and retry timers
of any number of generations come in any order between calls of the coordinator's own interface and
changes of the store of trusted devices. An attempt reports at most once, and a timer fires once. A
connector that reports at once does so behind the call that asked it, which ends there.
-/

namespace DeskflowPlus.Reconnect

open Transfer Trust

variable {QHostAddress : Type} [DecidableEq QHostAddress]

/-- A connection that the connector was asked for and has not reported on. -/
structure ConnectAttempt (QHostAddress : Type) where
  generation : Nat
  deviceId : DeviceId
  candidate : AddressCandidate QHostAddress
  deriving DecidableEq

structure ReconnectSession (QHostAddress : Type) where
  coordinator : AutoReconnectCoordinator QHostAddress
  provider : AddressCandidateProvider QHostAddress := {}
  attempts : List (ConnectAttempt QHostAddress) := []
  retryTimers : List Nat := []
  delivered : List (Nat × ResolutionSignal QHostAddress) := []
  effects : List (Nat × ReconnectEffect QHostAddress) := []
  deriving DecidableEq

inductive ReconnectEvent (QHostAddress : Type) where
  | start (request : AutoReconnectRequest QHostAddress)
  | networkAvailable
  | stop
  | trustChanged (trustedDevices : DeviceStore)
  | hostResolved (lookup : HostLookup) (addresses : List QHostAddress) (diagnostic : QString)
  | resolutionTimeout (timer : ResolutionTimer)
  | connectFinished (attempt : ConnectAttempt QHostAddress) (result : AutoReconnectConnectResult)
      (faults : AutoReconnectCoordinator.SaveFaults)
  | retryTimeout (generation : Nat)

def ReconnectEffect.attempted :
    ReconnectEffect QHostAddress → Option (AddressCandidate QHostAddress)
  | .connector _ _ candidate => some candidate
  | _ => none

def ReconnectEffect.isResolve : ReconnectEffect QHostAddress → Bool
  | .resolveCandidates _ => true
  | _ => false

def ResolutionSignal.candidates :
    ResolutionSignal QHostAddress → Option (List (AddressCandidate QHostAddress))
  | .candidatesResolved result => some result.candidates
  | .resolutionFailed _ => none

namespace ReconnectSession

open AutoReconnectCoordinator (Outcome)

section

variable (qt : QtNetwork QHostAddress) (qtText : QtText)

def perform (session : ReconnectSession QHostAddress) :
    ReconnectEffect QHostAddress → ReconnectSession QHostAddress
  | .emit _ => session
  | .resolveCandidates request =>
    { session with provider := session.provider.resolveCandidates qt request }
  | .connector generation deviceId candidate =>
    { session with attempts := session.attempts ++ [{ generation, deviceId, candidate }] }
  | .scheduler generation _ =>
    { session with retryTimers := session.retryTimers ++ [generation] }

def performAll (session : ReconnectSession QHostAddress)
    (effects : List (ReconnectEffect QHostAddress)) : ReconnectSession QHostAddress :=
  effects.foldl (perform qt) session

def conclude (session : ReconnectSession QHostAddress) (outcome : Outcome QHostAddress) :
    ReconnectSession QHostAddress :=
  performAll qt { session with
    coordinator := outcome.1
    effects := session.effects ++ outcome.2.map (outcome.1.generation, ·) } outcome.2

def handle (session : ReconnectSession QHostAddress) :
    ReconnectEvent QHostAddress → Option (ReconnectSession QHostAddress × Outcome QHostAddress)
  | .start request => some (session, session.coordinator.start qt request)
  | .networkAvailable => some (session, session.coordinator.networkAvailable qt)
  | .stop => some (session, session.coordinator.stop)
  | .trustChanged trustedDevices =>
    some (session, { session.coordinator with trustedDevices }, [])
  | .hostResolved lookup addresses diagnostic =>
    if lookup ∈ session.provider.lookups then
      some ({ session with
        provider := session.provider.finishHost qt lookup addresses diagnostic },
        session.coordinator, [])
    else none
  | .resolutionTimeout timer =>
    if timer ∈ session.provider.timers then
      let fired := { session with
        provider := { session.provider with timers := session.provider.timers.erase timer } }
      match session.provider.timeout qt timer with
      | none => some (fired, session.coordinator, [])
      | some signal =>
        some ({ fired with
          delivered := session.delivered ++ [(session.coordinator.generation, signal)] },
          session.coordinator.resolved signal)
    else none
  | .connectFinished attempt result faults =>
    if attempt ∈ session.attempts then
      some ({ session with attempts := session.attempts.erase attempt },
        session.coordinator.candidateFinished qt qtText attempt.generation attempt.candidate result
          faults)
    else none
  | .retryTimeout generation =>
    if generation ∈ session.retryTimers then
      some ({ session with retryTimers := session.retryTimers.erase generation },
        session.coordinator.retryElapsed qt generation)
    else none

def step (session : ReconnectSession QHostAddress) (event : ReconnectEvent QHostAddress) :
    Option (ReconnectSession QHostAddress) :=
  (session.handle qt qtText event).map fun (rest, outcome) => rest.conclude qt outcome

def machine (options : AutoReconnectOptions) :
    Machine (ReconnectSession QHostAddress) (ReconnectEvent QHostAddress) where
  start session :=
    ∃ trustedDevices, session = { coordinator := { trustedDevices, options := options.adopted } }
  step := step qt qtText

end

def tried (session : ReconnectSession QHostAddress) (generation : Nat) :
    List (AddressCandidate QHostAddress) :=
  session.effects.filterMap fun entry =>
    if entry.1 = generation then entry.2.attempted else none

/-- The addresses delivered in a generation; only the first delivery is awaited. -/
def resolvedIn (session : ReconnectSession QHostAddress) (generation : Nat) :
    List (AddressCandidate QHostAddress) :=
  (session.delivered.findSome? fun entry =>
    if entry.1 = generation then entry.2.candidates else none).getD []

/-- The generations in which the provider was asked, one for each of its own. -/
def asked (session : ReconnectSession QHostAddress) : List Nat :=
  (session.effects.filter fun entry => entry.2.isResolve).map Prod.fst

/-- The generation that a resolution of the provider belongs to. -/
def askedIn (session : ReconnectSession QHostAddress) (resolution : Nat) : Option Nat :=
  if resolution = 0 then none else session.asked[resolution - 1]?

def Stale (session : ReconnectSession QHostAddress) : ReconnectEvent QHostAddress → Prop
  | .hostResolved lookup _ _ =>
    session.askedIn lookup.generation ≠ some session.coordinator.generation
  | .resolutionTimeout timer =>
    session.askedIn timer.generation ≠ some session.coordinator.generation
  | .connectFinished attempt _ _ => attempt.generation ≠ session.coordinator.generation
  | .retryTimeout generation => generation ≠ session.coordinator.generation
  | _ => False

section

variable {qt : QtNetwork QHostAddress} {qtText : QtText}
  {session rest : ReconnectSession QHostAddress} {outcome : Outcome QHostAddress}

theorem handle_hostResolved {lookup : HostLookup} {addresses : List QHostAddress}
    {diagnostic : QString}
    (h : session.handle qt qtText (.hostResolved lookup addresses diagnostic) =
      some (rest, outcome)) :
    rest = { session with
        provider := session.provider.finishHost qt lookup addresses diagnostic } ∧
      outcome = (session.coordinator, []) := by
  obtain ⟨-, heq⟩ := Option.ite_none_right_eq_some.mp h
  cases heq
  exact ⟨rfl, rfl⟩

theorem handle_resolutionTimeout {timer : ResolutionTimer}
    (h : session.handle qt qtText (.resolutionTimeout timer) = some (rest, outcome)) :
    (session.provider.timeout qt timer = none ∧
        rest = { session with
          provider := { session.provider with timers := session.provider.timers.erase timer } } ∧
        outcome = (session.coordinator, [])) ∨
      ∃ signal, session.provider.timeout qt timer = some signal ∧
        rest = { session with
          provider := { session.provider with timers := session.provider.timers.erase timer }
          delivered := session.delivered ++ [(session.coordinator.generation, signal)] } ∧
        outcome = session.coordinator.resolved signal := by
  obtain ⟨-, heq⟩ := Option.ite_none_right_eq_some.mp h
  dsimp only at heq
  split at heq
  · rename_i hnone
    cases heq
    exact .inl ⟨hnone, rfl, rfl⟩
  · rename_i signal hsignal
    cases heq
    exact .inr ⟨signal, hsignal, rfl, rfl⟩

theorem handle_connectFinished {attempt : ConnectAttempt QHostAddress}
    {result : AutoReconnectConnectResult} {faults : AutoReconnectCoordinator.SaveFaults}
    (h : session.handle qt qtText (.connectFinished attempt result faults) =
      some (rest, outcome)) :
    attempt ∈ session.attempts ∧
      rest = { session with attempts := session.attempts.erase attempt } ∧
      outcome = session.coordinator.candidateFinished qt qtText attempt.generation
        attempt.candidate result faults := by
  obtain ⟨hattempt, heq⟩ := Option.ite_none_right_eq_some.mp h
  cases heq
  exact ⟨hattempt, rfl, rfl⟩

theorem handle_retryTimeout {generation : Nat}
    (h : session.handle qt qtText (.retryTimeout generation) = some (rest, outcome)) :
    rest = { session with retryTimers := session.retryTimers.erase generation } ∧
      outcome = session.coordinator.retryElapsed qt generation := by
  obtain ⟨-, heq⟩ := Option.ite_none_right_eq_some.mp h
  cases heq
  exact ⟨rfl, rfl⟩

end

end ReconnectSession

/-- An effect that calls neither the provider nor the connector. -/
def ReconnectEffect.Quiet (effect : ReconnectEffect QHostAddress) : Prop :=
  effect.attempted = none ∧ effect.isResolve = false

namespace AutoReconnectCoordinator

variable {qt : QtNetwork QHostAddress} {qtText : QtText}
  {coordinator : AutoReconnectCoordinator QHostAddress}

/-- The round is as far as before. -/
structure Keeps (before after : AutoReconnectCoordinator QHostAddress) : Prop where
  options : after.options = before.options
  request : after.request = before.request
  candidates : after.candidates = before.candidates
  nextCandidate : after.nextCandidate = before.nextCandidate
  generation : after.generation = before.generation
  waiting : after.waitingForCandidates = before.waitingForCandidates

/-- A function leaves the round where it is, or tries its next candidate. -/
inductive Advances (before : AutoReconnectCoordinator QHostAddress) :
    Outcome QHostAddress → Prop
  | keeps {after : AutoReconnectCoordinator QHostAddress}
      {effects : List (ReconnectEffect QHostAddress)} (hkeeps : Keeps before after)
      (hquiet : ∀ effect ∈ effects, effect.Quiet) : Advances before (after, effects)
  | tries {request : AutoReconnectRequest QHostAddress} {candidate : AddressCandidate QHostAddress}
      (hrequest : before.request = some request)
      (hcandidate : before.candidates[before.nextCandidate]? = some candidate) :
      Advances before ({ before with nextCandidate := before.nextCandidate + 1 },
        [.emit (.connecting request.deviceId candidate),
          .connector before.generation request.deviceId candidate])

omit [DecidableEq QHostAddress] in
theorem Keeps.refl : Keeps coordinator coordinator := by
  constructor <;> rfl

omit [DecidableEq QHostAddress] in
theorem Advances.nothing : Advances coordinator (coordinator, []) :=
  .keeps .refl (fun _ h => (List.not_mem_nil h).elim)

omit [DecidableEq QHostAddress] in
theorem Advances.emits (signal : ReconnectSignal QHostAddress) :
    Advances coordinator (coordinator, [.emit signal]) := by
  refine .keeps .refl fun effect heffect => ?_
  rw [List.mem_singleton.mp heffect]
  exact ⟨rfl, rfl⟩

omit [DecidableEq QHostAddress] in
theorem scheduleRetry_advances (generation : Nat) (diagnostic : QString) :
    Advances coordinator (coordinator.scheduleRetry generation diagnostic) := by
  unfold scheduleRetry
  split
  · exact .nothing
  split
  · exact .nothing
  · refine .keeps (by constructor <;> rfl) fun effect heffect => ?_
    simp only [List.mem_cons, List.not_mem_nil, or_false] at heffect
    obtain rfl | rfl | rfl := heffect <;> exact ⟨rfl, rfl⟩

omit [DecidableEq QHostAddress] in
theorem tryNextCandidate_advances (generation : Nat) :
    Advances coordinator (coordinator.tryNextCandidate generation) := by
  unfold tryNextCandidate
  split
  · exact .nothing
  rename_i request hrequest
  split_ifs with hgeneration
  · exact .nothing
  dsimp only
  split_ifs
  · exact .emits _
  split
  · exact scheduleRetry_advances _ _
  rename_i candidate hcandidate
  rw [not_not.mp hgeneration]
  exact .tries hrequest hcandidate

omit [DecidableEq QHostAddress] in
theorem rememberSuccessfulAddress_keeps (qt : QtNetwork QHostAddress) (qtText : QtText)
    (coordinator : AutoReconnectCoordinator QHostAddress) (deviceId : DeviceId)
    (candidate : AddressCandidate QHostAddress) (faults : SaveFaults) :
    Keeps coordinator
        (rememberSuccessfulAddress qt coordinator qtText deviceId candidate faults).1 ∧
      ∀ effect ∈ (rememberSuccessfulAddress qt coordinator qtText deviceId candidate faults).2,
        ∃ diagnostic, effect = .emit (.persistenceFailed deviceId diagnostic) := by
  unfold rememberSuccessfulAddress
  split
  · exact ⟨.refl, fun _ h => (List.not_mem_nil h).elim⟩
  dsimp only
  split
  · exact ⟨.refl, fun effect heffect => ⟨_, List.mem_singleton.mp heffect⟩⟩
  · refine ⟨by constructor <;> rfl, fun effect heffect => ?_⟩
    split_ifs at heffect
    · exact ⟨_, List.mem_singleton.mp heffect⟩
    · exact (List.not_mem_nil heffect).elim

omit [DecidableEq QHostAddress] in
theorem candidateFinished_advances (generation : Nat) (candidate : AddressCandidate QHostAddress)
    (result : AutoReconnectConnectResult) (faults : SaveFaults) :
    Advances coordinator
      (coordinator.candidateFinished qt qtText generation candidate result faults) := by
  unfold candidateFinished
  split
  · exact .nothing
  rename_i request hrequest
  split
  · exact .nothing
  split
  · exact .emits _
  · exact tryNextCandidate_advances _
  split
  · exact .emits _
  dsimp only
  split_ifs
  · exact .emits _
  obtain ⟨hkeeps, heffects⟩ := rememberSuccessfulAddress_keeps qt qtText
    { coordinator with connected := true, retryAttempt := 0 } request.deviceId candidate faults
  refine .keeps ⟨hkeeps.1, hkeeps.2, hkeeps.3, hkeeps.4, hkeeps.5, hkeeps.6⟩ ?_
  intro effect heffect
  obtain hpersist | hconnected := List.mem_append.mp heffect
  · obtain ⟨diagnostic, rfl⟩ := heffects effect hpersist
    exact ⟨rfl, rfl⟩
  · rw [List.mem_singleton.mp hconnected]
    exact ⟨rfl, rfl⟩

omit [DecidableEq QHostAddress] in
theorem beginRound_cases (request : AutoReconnectRequest QHostAddress) :
    (∃ signal, coordinator.beginRound qt request =
      ({ coordinator with waitingForCandidates := false }, [.emit signal])) ∨
    ∃ wanted, coordinator.beginRound qt request =
      ({ coordinator with candidates := [], nextCandidate := 0, waitingForCandidates := true },
        [.resolveCandidates wanted]) := by
  unfold beginRound
  dsimp only
  split_ifs with hpinning
  · exact .inl ⟨_, rfl⟩
  · split
    · rename_i hfind
      unfold verifyTrustedDevice at hpinning
      rw [hfind] at hpinning
      exact absurd rfl hpinning
    · exact .inr ⟨_, rfl⟩

def taking (coordinator : AutoReconnectCoordinator QHostAddress) :
    ResolutionSignal QHostAddress → AutoReconnectCoordinator QHostAddress
  | .candidatesResolved result =>
    { coordinator with
      waitingForCandidates := false
      candidates := result.candidates.take coordinator.options.maxCandidatesPerRound.toNat
      nextCandidate := 0 }
  | .resolutionFailed _ => { coordinator with waitingForCandidates := false }

omit [DecidableEq QHostAddress] in
theorem resolved_of_not_waiting {signal : ResolutionSignal QHostAddress}
    (h : coordinator.waitingForCandidates = false) :
    coordinator.resolved signal = (coordinator, []) := by
  cases signal with
  | candidatesResolved result => exact if_pos (.inr h)
  | resolutionFailed diagnostic => exact if_pos (.inr h)

omit [DecidableEq QHostAddress] in
theorem resolved_of_waiting {signal : ResolutionSignal QHostAddress}
    (hrequest : coordinator.request ≠ none) (h : coordinator.waitingForCandidates = true) :
    Advances (coordinator.taking signal) (coordinator.resolved signal) := by
  have hawaited : ¬(coordinator.request = none ∨ coordinator.waitingForCandidates = false) :=
    not_or.mpr ⟨hrequest, by rw [h]; nofun⟩
  cases signal with
  | candidatesResolved result =>
    show Advances _ (coordinator.candidatesReady result)
    unfold candidatesReady
    rw [if_neg hawaited]
    dsimp only
    split_ifs
    · exact scheduleRetry_advances _ _
    · exact tryNextCandidate_advances _
  | resolutionFailed diagnostic =>
    show Advances _ (coordinator.resolutionFailed diagnostic)
    unfold resolutionFailed
    rw [if_neg hawaited]
    exact scheduleRetry_advances _ _

omit [DecidableEq QHostAddress] in
theorem candidateFinished_stale {generation : Nat} (h : generation ≠ coordinator.generation)
    (candidate : AddressCandidate QHostAddress) (result : AutoReconnectConnectResult)
    (faults : SaveFaults) :
    coordinator.candidateFinished qt qtText generation candidate result faults =
      (coordinator, []) := by
  unfold candidateFinished
  split
  · rfl
  · exact if_pos h

omit [DecidableEq QHostAddress] in
theorem retryElapsed_stale {generation : Nat} (h : generation ≠ coordinator.generation) :
    coordinator.retryElapsed qt generation = (coordinator, []) := by
  unfold retryElapsed
  split
  · rfl
  · exact if_pos h

end AutoReconnectCoordinator

end DeskflowPlus.Reconnect
