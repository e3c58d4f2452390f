import DeskflowPlus.Lib.Run
import DeskflowPlus.Reconnect.AddressCandidateProvider

/-!
# Reconnecting to a trusted peer

A round asks for the addresses of the requested device and tries them one after the other, until one
of them leads to the device under its pinned certificate. When all have failed the next round is
scheduled, a little later each time. Whatever a round has asked for carries the round's generation,
and counts for nothing once another generation has begun.
-/

namespace DeskflowPlus.Reconnect

open Transfer Trust

inductive AutoReconnectConnectError where
  | none
  | networkError
  | authenticationFailed

structure AuthenticatedReconnectPeer where
  deviceId : DeviceId
  certificateFingerprintSha256 : QByteArray

structure AutoReconnectConnectResult where
  error : AutoReconnectConnectError := .none
  authenticatedPeer : Option AuthenticatedReconnectPeer := none
  diagnostic : QString := []

structure AutoReconnectRequest (QHostAddress : Type) where
  deviceId : DeviceId
  discoveredAddresses : List QHostAddress := []
  settings : DiscoverySettings := {}
  inputPort : UInt16 := kDefaultManualInputPort
  filePort : UInt16 := kDefaultManualFilePort
  deriving DecidableEq

/-- In milliseconds. -/
abbrev ReconnectDelay := Int

structure AutoReconnectOptions where
  maxCandidatesPerRound : Int := 16
  maxRememberedAddresses : Int := 8
  initialRetryDelay : ReconnectDelay := 1000
  maxRetryDelay : ReconnectDelay := 10000
  deriving DecidableEq

/-- The options as the constructor takes them over. -/
def AutoReconnectOptions.adopted (options : AutoReconnectOptions) : AutoReconnectOptions :=
  let initialRetryDelay := max 1 options.initialRetryDelay
  { maxCandidatesPerRound := max 1 options.maxCandidatesPerRound
    maxRememberedAddresses := max 1 options.maxRememberedAddresses
    initialRetryDelay
    maxRetryDelay := max initialRetryDelay options.maxRetryDelay }

inductive ReconnectSignal (QHostAddress : Type) where
  | connecting (deviceId : DeviceId) (candidate : AddressCandidate QHostAddress)
  | connected (deviceId : DeviceId) (candidate : AddressCandidate QHostAddress)
  | retryScheduled (deviceId : DeviceId) (delay : ReconnectDelay)
  | trustBlocked (deviceId : DeviceId) (error : PeerPinningError) (diagnostic : QString)
  | roundFailed (deviceId : DeviceId) (diagnostic : QString)
  | persistenceFailed (deviceId : DeviceId) (diagnostic : QString)
  deriving DecidableEq

/-- What the coordinator does to others: it emits a signal, asks the provider, and hands a callback
of a generation to the connector or to the scheduler. -/
inductive ReconnectEffect (QHostAddress : Type) where
  | emit (signal : ReconnectSignal QHostAddress)
  | resolveCandidates (request : AddressCandidateRequest QHostAddress)
  | connector (generation : Nat) (deviceId : DeviceId) (candidate : AddressCandidate QHostAddress)
  | scheduler (generation : Nat) (delay : ReconnectDelay)
  deriving DecidableEq

/-- The members of the coordinator. `m_hasRequest` is that there is a request, and the generation,
which would come around after `2 ^ 64` rounds, is a number. -/
structure AutoReconnectCoordinator (QHostAddress : Type) where
  trustedDevices : DeviceStore
  options : AutoReconnectOptions
  request : Option (AutoReconnectRequest QHostAddress) := none
  candidates : List (AddressCandidate QHostAddress) := []
  nextCandidate : Nat := 0
  generation : Nat := 0
  retryAttempt : Int := 0
  connected : Bool := false
  waitingForCandidates : Bool := false
  deriving DecidableEq

namespace AutoReconnectCoordinator

variable {QHostAddress : Type} [DecidableEq QHostAddress]

section

variable (qt : QtNetwork QHostAddress) (coordinator : AutoReconnectCoordinator QHostAddress)

/-- The coordinator after a member function, and what the function did to others. -/
abbrev Outcome (QHostAddress : Type) :=
  AutoReconnectCoordinator QHostAddress × List (ReconnectEffect QHostAddress)

def trustBlocked (deviceId : DeviceId) (pinning : PeerPinningResult) :
    ReconnectEffect QHostAddress :=
  .emit (.trustBlocked deviceId pinning.error (QString.literal pinning.diagnostic))

def verifyTrustedDevice (deviceId : DeviceId) : PeerPinningResult :=
  match coordinator.trustedDevices.find deviceId with
  | none => { error := .unknownPeer, diagnostic := "TLS peer device is not paired" }
  | some trustedDevice =>
    if trustedDevice.revoked then
      { error := .revokedPeer, diagnostic := "TLS peer trust was revoked" }
    else {}

def verifyAuthenticatedPeer (deviceId : DeviceId) (peer : AuthenticatedReconnectPeer) :
    PeerPinningResult :=
  if peer.deviceId ≠ deviceId then
    { error := .deviceIdMismatch
      diagnostic := "TLS authenticated device ID does not match the requested peer" }
  else
    TlsPeerPinningPolicy.verify coordinator.trustedDevices.trusted peer.deviceId
      peer.certificateFingerprintSha256

def beginRound (request : AutoReconnectRequest QHostAddress) : Outcome QHostAddress :=
  let pinning := coordinator.verifyTrustedDevice request.deviceId
  if pinning.ok = false then
    ({ coordinator with waitingForCandidates := false }, [trustBlocked request.deviceId pinning])
  else
    match coordinator.trustedDevices.find request.deviceId with
    | none =>
      (coordinator, [trustBlocked request.deviceId
        { error := .unknownPeer, diagnostic := "TLS peer device is not paired" }])
    | some trustedDevice =>
      ({ coordinator with candidates := [], nextCandidate := 0, waitingForCandidates := true },
        [.resolveCandidates
          { settings := request.settings
            recentSuccessfulAddresses := trustedDevice.lastAddresses.filterMap qt.setAddress
            discoveredAddresses := request.discoveredAddresses
            inputPort := request.inputPort
            filePort := request.filePort }])

/-- The counter is an `int` and the delay a 64-bit count. -/
def scheduleRetry (generation : Nat) (diagnostic : QString) : Outcome QHostAddress :=
  match coordinator.request with
  | none => (coordinator, [])
  | some request =>
    if generation ≠ coordinator.generation then (coordinator, [])
    else
      let retryAttempt :=
        if coordinator.retryAttempt < coordinator.options.maxRetryDelay then
          Int.bmod (coordinator.retryAttempt + 1) (2 ^ 32)
        else coordinator.retryAttempt
      let uncappedDelay := Int.bmod (coordinator.options.initialRetryDelay * retryAttempt) (2 ^ 64)
      let delay := min uncappedDelay coordinator.options.maxRetryDelay
      ({ coordinator with retryAttempt },
        [.emit (.roundFailed request.deviceId diagnostic),
          .emit (.retryScheduled request.deviceId delay), .scheduler generation delay])

def tryNextCandidate (generation : Nat) : Outcome QHostAddress :=
  match coordinator.request with
  | none => (coordinator, [])
  | some request =>
    if generation ≠ coordinator.generation then (coordinator, [])
    else
      let pinning := coordinator.verifyTrustedDevice request.deviceId
      if pinning.ok = false then (coordinator, [trustBlocked request.deviceId pinning])
      else
        match coordinator.candidates[coordinator.nextCandidate]? with
        | none => coordinator.scheduleRetry generation
            (QString.literal "All address candidates failed")
        | some candidate =>
          ({ coordinator with nextCandidate := coordinator.nextCandidate + 1 },
            [.emit (.connecting request.deviceId candidate),
              .connector generation request.deviceId candidate])

/-- How the two files are written, should the store be saved. -/
structure SaveFaults where
  primary : Option WriteFault := none
  backup : Option WriteFault := none

/-- The store afterwards, and what is said of a failure. -/
def rememberSuccessfulAddress (qtText : QtText) (deviceId : DeviceId)
    (candidate : AddressCandidate QHostAddress) (faults : SaveFaults) : Outcome QHostAddress :=
  match coordinator.trustedDevices.find deviceId with
  | none => (coordinator, [])
  | some trustedDevice =>
    let addressText := qt.toString candidate.address
    let lastAddresses := (addressText :: trustedDevice.lastAddresses.filter (· ≠ addressText)).take
      coordinator.options.maxRememberedAddresses.toNat
    let hostAddress (text : QString) : Option QString := (qt.setAddress text).map qt.toString
    match coordinator.trustedDevices.upsert qtText hostAddress
      { trustedDevice with lastAddresses } with
    | .error diagnostic => (coordinator, [.emit (.persistenceFailed deviceId diagnostic)])
    | .ok trustedDevices =>
      let saved := (trustedDevices.save faults.primary faults.backup {}).1
      ({ coordinator with trustedDevices },
        if saved.ok = false then [.emit (.persistenceFailed deviceId saved.diagnostic)] else [])

def candidateFinished (qtText : QtText) (generation : Nat)
    (candidate : AddressCandidate QHostAddress) (result : AutoReconnectConnectResult)
    (faults : SaveFaults) : Outcome QHostAddress :=
  match coordinator.request with
  | none => (coordinator, [])
  | some request =>
    if generation ≠ coordinator.generation then (coordinator, [])
    else
      match result.error with
      | .authenticationFailed =>
        (coordinator, [.emit (.trustBlocked request.deviceId .unauthenticatedPeer
          (if result.diagnostic = [] then
            QString.literal "TLS connector could not authenticate the peer"
          else result.diagnostic))])
      | .networkError => coordinator.tryNextCandidate generation
      | .none =>
        match result.authenticatedPeer with
        | none =>
          (coordinator, [trustBlocked request.deviceId
            { error := .unauthenticatedPeer
              diagnostic :=
                "TLS connector reported success without an authenticated peer identity" }])
        | some peer =>
          let pinning := coordinator.verifyAuthenticatedPeer request.deviceId peer
          if pinning.ok = false then (coordinator, [trustBlocked request.deviceId pinning])
          else
            let remembered := rememberSuccessfulAddress qt
              { coordinator with connected := true, retryAttempt := 0 } qtText request.deviceId
              candidate faults
            (remembered.1, remembered.2 ++ [.emit (.connected request.deviceId candidate)])

def candidatesReady (result : AddressCandidateResult QHostAddress) : Outcome QHostAddress :=
  if coordinator.request = none ∨ coordinator.waitingForCandidates = false then (coordinator, [])
  else
    let candidates := result.candidates.take coordinator.options.maxCandidatesPerRound.toNat
    let ready := { coordinator with waitingForCandidates := false, candidates, nextCandidate := 0 }
    if candidates = [] then
      ready.scheduleRetry coordinator.generation
        (QString.literal "No usable address candidates were resolved")
    else ready.tryNextCandidate coordinator.generation

/-- The slot connected to `resolutionFailed`. -/
def resolutionFailed (diagnostic : QString) : Outcome QHostAddress :=
  if coordinator.request = none ∨ coordinator.waitingForCandidates = false then (coordinator, [])
  else
    { coordinator with waitingForCandidates := false }.scheduleRetry coordinator.generation
      diagnostic

def start (request : AutoReconnectRequest QHostAddress) : Outcome QHostAddress :=
  { coordinator with
    generation := coordinator.generation + 1
    request := some request
    connected := false
    retryAttempt := 0 }.beginRound qt request

def networkAvailable : Outcome QHostAddress :=
  match coordinator.request with
  | none => (coordinator, [])
  | some request =>
    if coordinator.connected then (coordinator, [])
    else
      { coordinator with
        generation := coordinator.generation + 1
        retryAttempt := 0 }.beginRound qt request

def stop : Outcome QHostAddress :=
  ({ coordinator with
    generation := coordinator.generation + 1
    request := none
    connected := false
    waitingForCandidates := false
    candidates := [] }, [])

/-- The callback handed to the scheduler. -/
def retryElapsed (generation : Nat) : Outcome QHostAddress :=
  match coordinator.request with
  | none => (coordinator, [])
  | some request =>
    if generation ≠ coordinator.generation then (coordinator, [])
    else { coordinator with generation := coordinator.generation + 1 }.beginRound qt request

def resolved : ResolutionSignal QHostAddress → Outcome QHostAddress
  | .candidatesResolved result => coordinator.candidatesReady result
  | .resolutionFailed diagnostic => coordinator.resolutionFailed diagnostic

end

end AutoReconnectCoordinator

end DeskflowPlus.Reconnect
