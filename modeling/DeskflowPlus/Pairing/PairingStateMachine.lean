import DeskflowPlus.Transfer.QtTypes

/-!
# The pairing state machine

One pairing session at a time: it is requested, the transcript is exchanged, and the user's six
digits are compared with the session's own until they match or the attempts run out. Every action
reads the clock first and ends a session that is past its expiry. Each reading is an argument, so
that time may pass between any two of them.
-/

namespace DeskflowPlus.Pairing

open Transfer

/-- The order of `QDateTime`; an invalid time comes before every valid one. -/
def notAfter (left right : QDateTime) : Bool :=
  match left.msecs, right.msecs with
  | none, _ => true
  | some _, none => false
  | some left, some right => left ≤ right

/-- `left < right`. -/
def before (left right : QDateTime) : Bool := !notAfter right left

def addSecs (time : QDateTime) (seconds : Int) : QDateTime :=
  ⟨time.msecs.map (· + seconds * 1000)⟩

/-- A network address in its own spelling; the empty one is null. -/
abbrev QHostAddress := QString

structure DeviceSnapshot where
  id : DeviceId
  displayName : QString := []
  deviceAlias : QString := []
  platform : QString := []
  addresses : List QHostAddress := []
  deriving DecidableEq

inductive PairingFailureReason where
  | none
  | cancelled
  | codeMismatch
  | expired
  | tooManyAttempts
  | transportFailed
  | trustStoreWriteFailed
  | certificateChanged
  | directConnectionRequired
  deriving DecidableEq

inductive PairingState where
  | idle
  | requesting
  | exchangingTranscript
  | awaitingUserComparison
  | confirming
  | completed
  | expired
  | rejected
  | failed
  deriving DecidableEq

def PairingState.isTerminal (state : PairingState) : Bool :=
  state = .completed || state = .expired || state = .rejected || state = .failed

structure PairingSnapshot where
  pairingSessionId : QUuid
  peer : DeviceSnapshot
  state : PairingState := .idle
  sixDigitSas : QString := []
  expiresAtUtc : QDateTime
  attemptsRemaining : Int := 0
  failureReason : PairingFailureReason := .none
  deriving DecidableEq

inductive PairingError where
  | none
  | activeSessionExists
  | invalidFingerprint
  | invalidSas
  | sessionNotFound
  | invalidState
  | expired
  | attemptsExhausted
  deriving DecidableEq

structure PairingActionResult where
  error : PairingError := .none
  diagnostic : QString := []

def PairingActionResult.ok (result : PairingActionResult) : Bool := result.error = .none

structure PairingOptions where
  validity : Int := 300
  attempts : Int := 3

def kFingerprintBytes : Nat := 32

/-- The pattern `^[0-9]{6}$`, whose dollar sign lets a line feed follow. -/
def isSixDigits (text : QString) : Bool :=
  let digits := if text.getLast? = some 0x0a then text.dropLast else text
  digits.length = 6 && digits.all fun unit => 0x30 ≤ unit && unit ≤ 0x39

/-- The number in decimal, filled up with zeros to six digits. -/
def formatSas (value : Nat) : QString :=
  let digits := QString.literal (toString value)
  List.replicate (6 - digits.length) 0x30 ++ digits

structure PairingStateMachine where
  options : PairingOptions := {}
  snapshot : Option PairingSnapshot := none
  peerFingerprintSha256 : QByteArray := []

structure MachineStep where
  result : PairingActionResult := {}
  machine : PairingStateMachine
  published : Bool := false

namespace PairingStateMachine

def failure (error : PairingError) (diagnostic : String) (machine : PairingStateMachine)
    (published : Bool := false) : MachineStep :=
  ⟨⟨error, QString.literal diagnostic⟩, machine, published⟩

def moveTo (state : PairingState) (reason : PairingFailureReason) (snapshot : PairingSnapshot)
    (machine : PairingStateMachine) : PairingStateMachine :=
  { machine with snapshot := some { snapshot with state, failureReason := reason } }

/-- `expireIfNeeded`, and whether it expired the session. -/
def expireIfNeeded (now : QDateTime) (machine : PairingStateMachine) : Bool × PairingStateMachine :=
  match machine.snapshot with
  | none => (false, machine)
  | some snapshot =>
    if snapshot.state.isTerminal || before now snapshot.expiresAtUtc then (false, machine)
    else (true, machine.moveTo .expired .expired snapshot)

/-- The checks every action starts with; none lets it go on with the session's snapshot. -/
def prepareAction (sessionId : QUuid) (now : QDateTime) (machine : PairingStateMachine) :
    MachineStep ⊕ PairingSnapshot :=
  match machine.snapshot with
  | none => .inl (failure .sessionNotFound "pairing session was not found" machine)
  | some snapshot =>
    if sessionId = 0 ∨ snapshot.pairingSessionId ≠ sessionId then
      .inl (failure .sessionNotFound "pairing session was not found" machine)
    else
      match machine.expireIfNeeded now with
      | (true, machine) => .inl (failure .expired "pairing session expired" machine true)
      | (false, _) => .inr snapshot

/-- `beginSession`; the clock is read for the expiry of an older session and for this one's. -/
def beginSession (peer : DeviceSnapshot) (peerFingerprintSha256 : QByteArray) (sessionId : QUuid)
    (expiresAtUtc : QDateTime) (receivedSas : Option QString) (generated : UInt32)
    (expiryNow beginNow : QDateTime) (machine : PairingStateMachine) : MachineStep :=
  let (published, machine) := machine.expireIfNeeded expiryNow
  if machine.snapshot.any (!·.state.isTerminal) then
    failure .activeSessionExists "a pairing session is already active" machine published
  else if peerFingerprintSha256.length ≠ kFingerprintBytes then
    failure .invalidFingerprint "pairing peer fingerprint must be SHA-256" machine published
  else if machine.options.validity ≤ 0 ∨ machine.options.attempts ≤ 0 then
    failure .invalidState "pairing options are invalid" machine published
  else
    let sas : Except String QString := match receivedSas with
      | some sixDigits =>
        if isSixDigits sixDigits then .ok sixDigits
        else .error "received pairing code must contain six digits"
      | none =>
        if generated ≥ 1000000 then .error "pairing code generator returned an invalid value"
        else .ok (formatSas generated.toNat)
    match sas with
    | .error diagnostic => failure .invalidSas diagnostic machine published
    | .ok sixDigitSas =>
      if ¬ beginNow.isValid ∨ sessionId = 0 ∨ ¬ expiresAtUtc.isValid ∨
          notAfter expiresAtUtc beginNow ∨
          before (addSecs beginNow machine.options.validity) expiresAtUtc then
        failure .invalidState "pairing session ID or expiry is invalid" machine published
      else
        { machine := { machine with
            peerFingerprintSha256
            snapshot := some
              { pairingSessionId := sessionId
                peer
                state := .requesting
                sixDigitSas
                expiresAtUtc
                attemptsRemaining := machine.options.attempts } }
          published := true }

/-- `begin`: a fresh session that lasts for the whole validity. -/
def start (peer : DeviceSnapshot) (peerFingerprintSha256 : QByteArray) (uuid : QUuid)
    (generated : UInt32) (startNow expiryNow beginNow : QDateTime)
    (machine : PairingStateMachine) : MachineStep :=
  machine.beginSession peer peerFingerprintSha256 uuid (addSecs startNow machine.options.validity)
    none generated expiryNow beginNow

def transition (sessionId : QUuid) (required next : PairingState) (now : QDateTime)
    (machine : PairingStateMachine) : MachineStep :=
  match machine.prepareAction sessionId now with
  | .inl step => step
  | .inr snapshot =>
    if snapshot.state ≠ required then
      failure .invalidState "pairing state transition is not allowed" machine
    else { machine := { machine with snapshot := some { snapshot with state := next } }
           published := true }

def markTransportReady (sessionId : QUuid) (now : QDateTime) (machine : PairingStateMachine) :
    MachineStep :=
  machine.transition sessionId .requesting .exchangingTranscript now

def markTranscriptExchanged (sessionId : QUuid) (now : QDateTime) (machine : PairingStateMachine) :
    MachineStep :=
  machine.transition sessionId .exchangingTranscript .awaitingUserComparison now

def submitDisplayedSas (sessionId : QUuid) (sixDigits : QString) (now : QDateTime)
    (machine : PairingStateMachine) : MachineStep :=
  match machine.prepareAction sessionId now with
  | .inl step => step
  | .inr snapshot =>
    if snapshot.state ≠ .awaitingUserComparison then
      failure .invalidState "pairing is not waiting for code comparison" machine
    else if ¬ isSixDigits sixDigits then
      failure .invalidSas "pairing code must contain six digits" machine
    else if sixDigits ≠ snapshot.sixDigitSas then
      let remaining := { snapshot with attemptsRemaining := snapshot.attemptsRemaining - 1 }
      if remaining.attemptsRemaining = 0 then
        failure .attemptsExhausted "pairing code attempts were exhausted"
          (machine.moveTo .rejected .tooManyAttempts remaining) true
      else
        failure .invalidSas "pairing code did not match"
          { machine with snapshot := some remaining } true
    else { machine := { machine with snapshot := some { snapshot with state := .confirming } }
           published := true }

def complete (sessionId : QUuid) (now : QDateTime) (machine : PairingStateMachine) : MachineStep :=
  machine.transition sessionId .confirming .completed now

/-- `reject` and `fail`, which differ in the state they end in. -/
def finish (state : PairingState) (diagnostic : String) (sessionId : QUuid)
    (reason : PairingFailureReason) (now : QDateTime) (machine : PairingStateMachine) :
    MachineStep :=
  match machine.prepareAction sessionId now with
  | .inl step => step
  | .inr snapshot =>
    if snapshot.state.isTerminal || reason = .none then failure .invalidState diagnostic machine
    else { machine := machine.moveTo state reason snapshot, published := true }

def reject (sessionId : QUuid) (reason : PairingFailureReason) (now : QDateTime)
    (machine : PairingStateMachine) : MachineStep :=
  machine.finish .rejected "pairing rejection transition is invalid" sessionId reason now

def fail (sessionId : QUuid) (reason : PairingFailureReason) (now : QDateTime)
    (machine : PairingStateMachine) : MachineStep :=
  machine.finish .failed "pairing failure transition is invalid" sessionId reason now

def cancel (sessionId : QUuid) (now : QDateTime) (machine : PairingStateMachine) : MachineStep :=
  machine.reject sessionId .cancelled now

def pendingFingerprint (sessionId : QUuid) (machine : PairingStateMachine) : Option QByteArray :=
  match machine.snapshot with
  | none => none
  | some snapshot =>
    if snapshot.pairingSessionId ≠ sessionId ∨ snapshot.state ≠ .confirming then none
    else some machine.peerFingerprintSha256

end PairingStateMachine

end DeskflowPlus.Pairing
