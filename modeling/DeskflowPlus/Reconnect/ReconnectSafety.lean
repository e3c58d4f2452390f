import DeskflowPlus.Reconnect.ReconnectGenerations

/-!
# What callbacks of a round may do

Of every reachable session: a callback of another generation changes nothing, a connection counts
only for the requested device and behind the verification of its peer, the tries of a round are the
first of the addresses it was given, and a retry comes no sooner than the initial delay and no later
than the larger of the two configured ones.
-/

namespace DeskflowPlus.Reconnect

open Transfer Trust

variable {QHostAddress : Type} [DecidableEq QHostAddress]

namespace AutoReconnectCoordinator

variable {qt : QtNetwork QHostAddress} {qtText : QtText}
  {coordinator : AutoReconnectCoordinator QHostAddress}

/-- Every retry is scheduled after the delay that the counter stands for. -/
def Spaced (outcome : Outcome QHostAddress) : Prop :=
  ∀ generation delay, .scheduler generation delay ∈ outcome.2 →
    delay = min (Int.bmod (outcome.1.options.initialRetryDelay * outcome.1.retryAttempt) (2 ^ 64))
      outcome.1.options.maxRetryDelay

/-- Besides, nobody is told of a connection. -/
structure Orderly (outcome : Outcome QHostAddress) : Prop where
  spaced : Spaced outcome
  unconnected : ∀ deviceId candidate, .emit (.connected deviceId candidate) ∉ outcome.2

omit [DecidableEq QHostAddress] in
theorem Orderly.nothing : Orderly (coordinator, []) :=
  ⟨fun _ _ h => (List.not_mem_nil h).elim, fun _ _ => List.not_mem_nil⟩

omit [DecidableEq QHostAddress] in
theorem Orderly.blocked {deviceId : DeviceId} {error : PeerPinningError} {diagnostic : QString} :
    Orderly (coordinator, [.emit (.trustBlocked deviceId error diagnostic)]) := by
  constructor
  · intro generation delay h
    cases List.mem_singleton.mp h
  · intro device candidate h
    cases List.mem_singleton.mp h

omit [DecidableEq QHostAddress] in
theorem scheduleRetry_orderly (generation : Nat) (diagnostic : QString) :
    Orderly (coordinator.scheduleRetry generation diagnostic) := by
  unfold scheduleRetry
  split
  · exact .nothing
  split
  · exact .nothing
  constructor
  · intro at_ delay h
    simp only [List.mem_cons, List.not_mem_nil, or_false, reduceCtorEq, false_or,
      ReconnectEffect.scheduler.injEq] at h
    exact h.2
  · intro deviceId candidate h
    simp only [List.mem_cons, List.not_mem_nil, or_false, reduceCtorEq,
      ReconnectEffect.emit.injEq] at h

omit [DecidableEq QHostAddress] in
theorem tryNextCandidate_orderly (generation : Nat) :
    Orderly (coordinator.tryNextCandidate generation) := by
  unfold tryNextCandidate
  split
  · exact .nothing
  split
  · exact .nothing
  dsimp only
  split
  · exact .blocked
  split
  · exact scheduleRetry_orderly _ _
  · constructor
    · intro at_ delay h
      simp only [List.mem_cons, List.not_mem_nil, or_false, reduceCtorEq] at h
    · intro deviceId candidate h
      simp only [List.mem_cons, List.not_mem_nil, or_false, reduceCtorEq,
        ReconnectEffect.emit.injEq] at h

omit [DecidableEq QHostAddress] in
theorem resolved_orderly (signal : ResolutionSignal QHostAddress) :
    Orderly (coordinator.resolved signal) := by
  cases signal with
  | candidatesResolved result =>
    show Orderly (coordinator.candidatesReady result)
    unfold candidatesReady
    split
    · exact .nothing
    dsimp only
    split
    · exact scheduleRetry_orderly _ _
    · exact tryNextCandidate_orderly _
  | resolutionFailed diagnostic =>
    show Orderly (coordinator.resolutionFailed diagnostic)
    unfold resolutionFailed
    split
    · exact .nothing
    · exact scheduleRetry_orderly _ _

omit [DecidableEq QHostAddress] in
theorem beginRound_orderly (request : AutoReconnectRequest QHostAddress) :
    Orderly (coordinator.beginRound qt request) := by
  unfold beginRound
  dsimp only
  split
  · exact .blocked
  split
  · exact .blocked
  · constructor
    · intro generation delay h
      cases List.mem_singleton.mp h
    · intro deviceId candidate h
      cases List.mem_singleton.mp h

omit [DecidableEq QHostAddress] in
theorem networkAvailable_orderly : Orderly (coordinator.networkAvailable qt) := by
  unfold networkAvailable
  split
  · exact .nothing
  split
  · exact .nothing
  · exact beginRound_orderly _

omit [DecidableEq QHostAddress] in
theorem retryElapsed_orderly (generation : Nat) :
    Orderly (coordinator.retryElapsed qt generation) := by
  unfold retryElapsed
  split
  · exact .nothing
  split
  · exact .nothing
  · exact beginRound_orderly _

omit [DecidableEq QHostAddress] in
theorem candidateFinished_orderly (generation : Nat) (candidate : AddressCandidate QHostAddress)
    (result : AutoReconnectConnectResult) (faults : SaveFaults) :
    Spaced (coordinator.candidateFinished qt qtText generation candidate result faults) ∧
      ∀ deviceId other, .emit (.connected deviceId other) ∈
          (coordinator.candidateFinished qt qtText generation candidate result faults).2 →
        other = candidate ∧ generation = coordinator.generation ∧
          coordinator.request.map AutoReconnectRequest.deviceId = some deviceId ∧
          result.error = .none ∧ ∃ peer, result.authenticatedPeer = some peer ∧
            (coordinator.verifyAuthenticatedPeer deviceId peer).ok = true := by
  have horderly {outcome : Outcome QHostAddress} (h : Orderly outcome) {P : Prop}
      {deviceId : DeviceId} {other : AddressCandidate QHostAddress}
      (hconnected : .emit (.connected deviceId other) ∈ outcome.2) : P :=
    (h.unconnected deviceId other hconnected).elim
  unfold candidateFinished
  split
  · exact ⟨Orderly.nothing.spaced, fun _ _ => horderly .nothing⟩
  rename_i request hrequest
  split
  · exact ⟨Orderly.nothing.spaced, fun _ _ => horderly .nothing⟩
  rename_i hgeneration
  split
  · exact ⟨Orderly.blocked.spaced, fun _ _ => horderly .blocked⟩
  · exact ⟨(tryNextCandidate_orderly _).spaced, fun _ _ => horderly (tryNextCandidate_orderly _)⟩
  rename_i herror
  split
  · exact ⟨Orderly.blocked.spaced, fun _ _ => horderly .blocked⟩
  rename_i peer hpeer
  dsimp only
  split
  · exact ⟨Orderly.blocked.spaced, fun _ _ => horderly .blocked⟩
  rename_i hpinning
  obtain ⟨-, hpersist⟩ := rememberSuccessfulAddress_keeps qt qtText
    { coordinator with connected := true, retryAttempt := 0 } request.deviceId candidate faults
  constructor
  · intro at_ delay h
    obtain hremembered | hconnected := List.mem_append.mp h
    · obtain ⟨diagnostic, heq⟩ := hpersist _ hremembered
      cases heq
    · cases List.mem_singleton.mp hconnected
  · intro deviceId other h
    obtain hremembered | hconnected := List.mem_append.mp h
    · obtain ⟨diagnostic, heq⟩ := hpersist _ hremembered
      cases heq
    · cases List.mem_singleton.mp hconnected
      refine ⟨rfl, not_not.mp hgeneration, ?_, herror, peer, hpeer, eq_true_of_ne_false hpinning⟩
      rw [hrequest]
      rfl

omit [DecidableEq QHostAddress] in
theorem verifyAuthenticatedPeer_ok {deviceId : DeviceId} {peer : AuthenticatedReconnectPeer}
    (h : (coordinator.verifyAuthenticatedPeer deviceId peer).ok = true) :
    peer.deviceId = deviceId ∧
      (TlsPeerPinningPolicy.verify coordinator.trustedDevices.trusted deviceId
        peer.certificateFingerprintSha256).ok = true := by
  unfold verifyAuthenticatedPeer at h
  split at h
  · cases h
  · rename_i hdevice
    obtain rfl := not_not.mp hdevice
    exact ⟨rfl, h⟩

/-- A delay that was computed without overflow lies between the two delays. -/
theorem delay_bounds {initial maximum attempt delay : Int} (hpositive : 0 < initial)
    (hattempt : 0 < attempt) (hfits : initial * attempt < 2 ^ 63)
    (hdelay : delay = min (Int.bmod (initial * attempt) (2 ^ 64)) (max initial maximum)) :
    initial ≤ delay ∧ delay ≤ max initial maximum := by
  have hgrows : initial * 1 ≤ initial * attempt :=
    Int.mul_le_mul_of_nonneg_left hattempt hpositive.le
  have hexact : Int.bmod (initial * attempt) (2 ^ 64) = initial * attempt :=
    Int.bmod_eq_of_le (by omega) (by omega)
  rw [hexact] at hdelay
  omega

theorem adopted_delays {options : AutoReconnectOptions}
    (hpositive : 0 < options.initialRetryDelay) :
    options.adopted.initialRetryDelay = options.initialRetryDelay ∧
      options.adopted.maxRetryDelay = max options.initialRetryDelay options.maxRetryDelay := by
  have hinitial : max 1 options.initialRetryDelay = options.initialRetryDelay :=
    max_eq_right hpositive
  exact ⟨hinitial, congrArg (max · options.maxRetryDelay) hinitial⟩

end AutoReconnectCoordinator

namespace ReconnectSession

open AutoReconnectCoordinator (Outcome Spaced Orderly)

variable {qt : QtNetwork QHostAddress} {qtText : QtText} {options : AutoReconnectOptions}
  {session rest : ReconnectSession QHostAddress} {event : ReconnectEvent QHostAddress}
  {outcome : Outcome QHostAddress}

omit [DecidableEq QHostAddress] in
theorem Inv.not_waiting (h : Inv qt options session) {resolution : Nat}
    (hresolution : resolution = session.provider.generation)
    (hstale : session.askedIn resolution ≠ some session.coordinator.generation) :
    session.coordinator.waitingForCandidates = false := by
  cases h.phase with
  | idle hwaiting _ => exact hwaiting
  | awaiting hawaiting => exact absurd (hresolution ▸ hawaiting.asked) hstale
  | trying htrying => exact htrying.waiting

theorem Inv.stale (h : Inv qt options session)
    (hhandle : session.handle qt qtText event = some (rest, outcome))
    (hstale : session.Stale event) : outcome = (session.coordinator, []) := by
  cases event with
  | start request => exact hstale.elim
  | networkAvailable => exact hstale.elim
  | stop => exact hstale.elim
  | trustChanged trustedDevices => exact hstale.elim
  | hostResolved lookup addresses diagnostic => exact (handle_hostResolved hhandle).2
  | resolutionTimeout timer =>
    obtain ⟨-, -, rfl⟩ | ⟨signal, hsignal, -, rfl⟩ := handle_resolutionTimeout hhandle
    · rfl
    · have hresolution := AddressCandidateProvider.generation_of_timeout hsignal
      exact AutoReconnectCoordinator.resolved_of_not_waiting (h.not_waiting hresolution hstale)
  | connectFinished attempt result faults =>
    obtain ⟨-, -, rfl⟩ := handle_connectFinished hhandle
    exact AutoReconnectCoordinator.candidateFinished_stale hstale _ _ _
  | retryTimeout generation =>
    obtain ⟨-, rfl⟩ := handle_retryTimeout hhandle
    exact AutoReconnectCoordinator.retryElapsed_stale hstale

def Verified (session : ReconnectSession QHostAddress) (event : ReconnectEvent QHostAddress)
    (deviceId : DeviceId) (candidate : AddressCandidate QHostAddress) : Prop :=
  ∃ attempt result faults peer, event = .connectFinished attempt result faults ∧
    attempt ∈ session.attempts ∧ attempt.generation = session.coordinator.generation ∧
    attempt.candidate = candidate ∧ attempt.deviceId = deviceId ∧
    session.coordinator.request.map AutoReconnectRequest.deviceId = some deviceId ∧
    result.error = .none ∧ result.authenticatedPeer = some peer ∧ peer.deviceId = deviceId ∧
    (TlsPeerPinningPolicy.verify session.coordinator.trustedDevices.trusted deviceId
      peer.certificateFingerprintSha256).ok = true

theorem Inv.orderly (h : Inv qt options session)
    (hhandle : session.handle qt qtText event = some (rest, outcome)) :
    Spaced outcome ∧ ∀ deviceId candidate, .emit (.connected deviceId candidate) ∈ outcome.2 →
      session.Verified event deviceId candidate := by
  have horderly {outcome : Outcome QHostAddress} (h : Orderly outcome) : Spaced outcome ∧
      ∀ deviceId candidate, .emit (.connected deviceId candidate) ∈ outcome.2 →
        session.Verified event deviceId candidate :=
    ⟨h.spaced, fun deviceId candidate hmem => (h.unconnected deviceId candidate hmem).elim⟩
  cases event with
  | start request =>
    cases hhandle
    exact horderly (AutoReconnectCoordinator.beginRound_orderly _)
  | networkAvailable =>
    cases hhandle
    exact horderly AutoReconnectCoordinator.networkAvailable_orderly
  | stop =>
    cases hhandle
    exact horderly .nothing
  | trustChanged trustedDevices =>
    cases hhandle
    exact horderly .nothing
  | hostResolved lookup addresses diagnostic =>
    obtain ⟨-, rfl⟩ := handle_hostResolved hhandle
    exact horderly .nothing
  | resolutionTimeout timer =>
    obtain ⟨-, -, rfl⟩ | ⟨signal, -, -, rfl⟩ := handle_resolutionTimeout hhandle
    · exact horderly .nothing
    · exact horderly (AutoReconnectCoordinator.resolved_orderly _)
  | connectFinished attempt result faults =>
    obtain ⟨hattempt, -, rfl⟩ := handle_connectFinished hhandle
    obtain ⟨hspaced, hconnected⟩ := AutoReconnectCoordinator.candidateFinished_orderly
      attempt.generation attempt.candidate result faults
    refine ⟨hspaced, fun deviceId candidate hmem => ?_⟩
    obtain ⟨rfl, hgeneration, hrequest, herror, peer, hpeer, hverified⟩ :=
      hconnected deviceId candidate hmem
    obtain ⟨hdevice, hpinned⟩ := AutoReconnectCoordinator.verifyAuthenticatedPeer_ok hverified
    have hasked := h.devices attempt hattempt hgeneration
    rw [hrequest] at hasked
    exact ⟨attempt, result, faults, peer, rfl, hattempt, hgeneration, rfl,
      (Option.some.inj hasked).symm, hrequest, herror, hpeer, hdevice, hpinned⟩
  | retryTimeout generation =>
    obtain ⟨-, rfl⟩ := handle_retryTimeout hhandle
    exact horderly (AutoReconnectCoordinator.retryElapsed_orderly _)

theorem perform_coordinator (effect : ReconnectEffect QHostAddress) :
    (session.perform qt effect).coordinator = session.coordinator := by
  cases effect <;> rfl

theorem performAll_coordinator (effects : List (ReconnectEffect QHostAddress)) :
    (session.performAll qt effects).coordinator = session.coordinator := by
  induction effects generalizing session with
  | nil => rfl
  | cons effect effects ih => exact ih.trans (perform_coordinator effect)

theorem Inv.adopted_of_handle (h : Inv qt options session)
    (hhandle : session.handle qt qtText event = some (rest, outcome)) :
    outcome.1.options = options.adopted := by
  have hstep : session.step qt qtText event = some (rest.conclude qt outcome) := by
    unfold ReconnectSession.step
    rw [hhandle]
    rfl
  have hcoordinator : (rest.conclude qt outcome).coordinator = outcome.1 :=
    performAll_coordinator outcome.2
  rw [← hcoordinator]
  exact (h.step hstep).adopted

structure Safe (qt : QtNetwork QHostAddress) (qtText : QtText) (options : AutoReconnectOptions)
    (session : ReconnectSession QHostAddress) : Prop where
  stale : ∀ event rest outcome, session.handle qt qtText event = some (rest, outcome) →
    session.Stale event → outcome = (session.coordinator, [])
  connected : ∀ event rest outcome, session.handle qt qtText event = some (rest, outcome) →
    ∀ deviceId candidate, .emit (.connected deviceId candidate) ∈ outcome.2 →
      session.Verified event deviceId candidate
  rounds : ∀ generation,
    session.tried generation <+: (session.resolvedIn generation).take (roundLimit options)
  once : ∀ generation, (session.tried generation).Nodup
  delays : 0 < options.initialRetryDelay → ∀ event rest outcome,
    session.handle qt qtText event = some (rest, outcome) →
    ∀ generation delay, .scheduler generation delay ∈ outcome.2 → 0 < outcome.1.retryAttempt →
      options.initialRetryDelay * outcome.1.retryAttempt < 2 ^ 63 →
      options.initialRetryDelay ≤ delay ∧
        delay ≤ max options.initialRetryDelay options.maxRetryDelay

omit [DecidableEq QHostAddress] in
theorem Inv.nodup_resolvedIn (h : Inv qt options session) (generation : Nat) :
    (session.resolvedIn generation).Nodup := by
  unfold resolvedIn
  cases hfirst : session.delivered.findSome? _ with
  | none => exact List.nodup_nil
  | some candidates =>
    obtain ⟨entry, hentry, hcandidates⟩ := List.exists_of_findSome?_eq_some hfirst
    split_ifs at hcandidates
    exact List.Nodup.of_map _ (h.distinct entry hentry candidates hcandidates)

/-- **Every run is safe.** -/
theorem safe_of_run (h : (machine qt qtText options).Reachable (fun _ _ => True) session) :
    session.Safe qt qtText options := by
  have hinv : Inv qt options session := inv_of_reachable h
  constructor
  · exact fun event rest outcome hhandle hstale => hinv.stale hhandle hstale
  · exact fun event rest outcome hhandle => (hinv.orderly hhandle).2
  · exact hinv.rounds
  · intro generation
    have htaken := (hinv.rounds generation).sublist.trans (List.take_sublist _ _)
    exact (hinv.nodup_resolvedIn generation).sublist htaken
  · intro hpositive event rest outcome hhandle generation delay hmem hattempt hfits
    obtain ⟨hinitial, hmaximum⟩ := AutoReconnectCoordinator.adopted_delays hpositive
    have hdelay := (hinv.orderly hhandle).1 generation delay hmem
    rw [hinv.adopted_of_handle hhandle, hinitial, hmaximum] at hdelay
    exact AutoReconnectCoordinator.delay_bounds hpositive hattempt hfits hdelay

end ReconnectSession

section Samples

def QtNetwork.dotted : QtNetwork QString where
  setAddress text := some text
  toString address := address
  isNull address := address = []
  isMulticast _ := false
  isBroadcast _ := false
  anyIPv4 := QString.literal "0.0.0.0"
  anyIPv6 := QString.literal "::"
  protocol _ := .iPv4Protocol
  arg text value :=
    let isMarker (digit : UInt16) (pair : UInt16 × UInt16) : Bool := pair = (0x25, digit)
    match [0x31, 0x32, 0x33].find? fun digit => (text.zip text.tail).any (isMarker digit) with
    | none => text
    | some digit =>
      let before := (text.zip text.tail).findIdx (isMarker digit)
      text.take before ++ value ++ text.drop (before + 2)
  parseManualAddress host inputPort filePort := .ok { host, inputPort, filePort }

def sampleDevice : DeviceId := ⟨1, one_nonNull⟩

def sampleDevices : DeviceStore :=
  { devices := [{ deviceId := sampleDevice
                  fingerprintSha256 := List.replicate kSha256FingerprintBytes 0x31
                  platform := QString.literal "windows" }] }

def sampleRequest : AutoReconnectRequest QString :=
  { deviceId := sampleDevice, discoveredAddresses := [QString.literal "192.0.2.1"] }

def sampleAttempt (generation : Nat) : ConnectAttempt QString :=
  { generation
    deviceId := sampleDevice
    candidate := { address := QString.literal "192.0.2.1", source := .discovered } }

def crossedOptions : AutoReconnectOptions :=
  { maxCandidatesPerRound := 0, initialRetryDelay := 1000, maxRetryDelay := 500 }

def sampleStart (options : AutoReconnectOptions) : ReconnectSession QString :=
  { coordinator := { trustedDevices := sampleDevices, options := options.adopted } }

def sampleSession (options : AutoReconnectOptions) (events : List (ReconnectEvent QString)) :
    ReconnectSession QString :=
  ((ReconnectSession.machine .dotted .ascii options).exec (sampleStart options) events).getD
    (sampleStart options)

theorem sampleSession_reachable {options : AutoReconnectOptions}
    {events : List (ReconnectEvent QString)} {session : ReconnectSession QString}
    (h : (ReconnectSession.machine .dotted .ascii options).exec (sampleStart options) events =
      some session) :
    (ReconnectSession.machine .dotted .ascii options).Reachable (fun _ _ => True) session :=
  ⟨sampleStart options, ⟨sampleDevices, rfl⟩, Machine.run_of_exec h⟩

def firstRound : List (ReconnectEvent QString) :=
  [.start sampleRequest, .resolutionTimeout (.completion 1)]

/-- The round tries one candidate where none is configured, and the retry comes a second later where
half a second is the maximum. -/
theorem ReconnectSession.adopted_options_differ :
    (∃ session, (machine .dotted .ascii crossedOptions).Reachable (fun _ _ => True) session ∧
      crossedOptions.maxCandidatesPerRound < (session.tried 1).length) ∧
    ∃ session event rest outcome delay,
      (machine .dotted .ascii crossedOptions).Reachable (fun _ _ => True) session ∧
      session.handle .dotted .ascii event = some (rest, outcome) ∧
      .scheduler 1 delay ∈ outcome.2 ∧ 0 < crossedOptions.initialRetryDelay ∧
      0 < crossedOptions.maxRetryDelay ∧ crossedOptions.maxRetryDelay < delay := by
  have hexec : (machine .dotted .ascii crossedOptions).exec (sampleStart crossedOptions)
      firstRound = some (sampleSession crossedOptions firstRound) := by decide
  have hreachable := sampleSession_reachable hexec
  refine ⟨⟨_, hreachable, by decide⟩, _, .connectFinished (sampleAttempt 1)
    { error := .networkError } {}, _, _, 1000, hreachable, rfl, by decide, by decide, by decide,
    by decide⟩

/-- Two attempts are out, of which one is of an earlier generation. -/
theorem ReconnectSession.safe_of_run_restarted :
    (sampleSession {} (firstRound ++ [.networkAvailable, .resolutionTimeout (.completion 2)])).Safe
        .dotted .ascii {} ∧
      (sampleSession {} (firstRound ++
        [.networkAvailable, .resolutionTimeout (.completion 2)])).attempts =
        [sampleAttempt 1, sampleAttempt 2] := by
  have hexec : (machine .dotted .ascii {}).exec (sampleStart {})
      (firstRound ++ [.networkAvailable, .resolutionTimeout (.completion 2)]) =
      some (sampleSession {}
        (firstRound ++ [.networkAvailable, .resolutionTimeout (.completion 2)])) := by decide
  exact ⟨safe_of_run (sampleSession_reachable hexec), by decide⟩

end Samples

end DeskflowPlus.Reconnect
