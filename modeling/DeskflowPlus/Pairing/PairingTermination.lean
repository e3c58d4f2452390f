import DeskflowPlus.Lib.Run
import DeskflowPlus.Pairing.PairingConsistency

/-!
# What becomes of a finished pairing

The state machine leaves a session that has ended alone, and so do the user's and the peer's calls
that only it decides. A cancellation and a declining result do not ask: the one is always sent, and
both overwrite the snapshot kept by hand. A request that repeats the identifier of the finished
session opens it again.
-/

namespace DeskflowPlus.Pairing

open Transfer Trust

namespace PairingManager

variable {platform : PairingPlatform} {manager : PairingManager} {io : PairingIo}
  {ended : PairingSnapshot}

structure Finished (manager : PairingManager) (ended : PairingSnapshot) : Prop where
  consistent : manager.Consistent
  snapshot : manager.snapshot = some ended
  terminal : ended.state.isTerminal = true

namespace Finished

theorem machine (h : manager.Finished ended) : manager.stateMachine.Ended :=
  fun _ hsnapshot => h.consistent.not_running h.snapshot h.terminal hsnapshot

theorem expireIfNeeded (h : manager.Finished ended) (now : QDateTime) :
    manager.expireIfNeeded now = (false, manager) := by
  obtain ⟨hsame, -⟩ | ⟨-, -, running, hrunning, hstate, -⟩ := expireIfNeeded_cases now manager
  · exact hsame
  · obtain rfl := Option.some.inj (h.snapshot.symm.trans hrunning)
    exact absurd h.terminal (by rw [hstate]; nofun)

theorem any_eq_false (h : manager.Finished ended) {state : PairingState}
    (hstate : state.isTerminal = false) :
    (manager.stateMachine.snapshot.any (·.state = state)) = false := by
  rw [Option.any_eq_false]
  intro snapshot hsnapshot
  rw [decide_eq_false_iff_not]
  rintro rfl
  exact absurd (h.machine snapshot hsnapshot) (by rw [hstate]; nofun)

theorem confirmMatchingSas (h : manager.Finished ended) (sessionId : QUuid) :
    (manager.confirmMatchingSas platform sessionId io).2 = manager := by
  unfold PairingManager.confirmMatchingSas
  split
  · rfl
  split
  · rfl
  rw [h.expireIfNeeded]
  dsimp only
  split
  · rfl
  rename_i current hcurrent
  have hended := h.machine current hcurrent
  rw [if_pos]
  constructor <;> intro hstate <;> rw [hstate] at hended <;> cases hended

theorem submitDisplayedSas (h : manager.Finished ended) (sessionId : QUuid)
    (sixDigits : QString) : (manager.submitDisplayedSas sessionId sixDigits io).2 = manager := by
  unfold PairingManager.submitDisplayedSas
  split
  · rfl
  split
  · rfl
  rw [h.expireIfNeeded]
  dsimp only
  split
  · rfl
  rename_i manual hmanual
  obtain rfl := Option.some.inj ((snapshot_of_manual hmanual).symm.trans h.snapshot)
  have hended := h.terminal
  rw [if_pos]
  intro hstate
  rw [hstate] at hended
  cases hended

theorem handleSubmission (h : manager.Finished ended) (submission : PairingCodeSubmission)
    (source : PairingEndpoint) :
    (manager.handleSubmission platform submission source io).2 = manager := by
  unfold PairingManager.handleSubmission
  split
  · rfl
  split
  · rfl
  rw [h.expireIfNeeded]
  dsimp only
  rw [h.any_eq_false rfl]
  rfl

theorem handleResult (h : manager.Finished ended) (message : PairingResultMessage)
    (source : PairingEndpoint) :
    (manager.handleResult platform message source io).2 = manager ∨
      ∃ active, manager.active = some active ∧ active.wireSessionId = message.pairingSessionId ∧
        active.endpoint = source ∧ active.role = .incoming ∧ message.accepted = false ∧
        manager.manualSnapshot.isSome = true ∧
        (manager.handleResult platform message source io).2 =
          { manager with
            manualSnapshot :=
              some { ended with state := .rejected, failureReason := message.failureReason } } := by
  unfold PairingManager.handleResult
  split
  · exact .inl rfl
  rename_i active hvalid
  obtain ⟨hactive, hsession, hendpoint, hrole⟩ := validateBoundMessage_eq_ok hvalid
  rw [h.expireIfNeeded]
  dsimp only
  split
  · rename_i manual haccepted hmanual
    obtain rfl := Option.some.inj ((snapshot_of_manual hmanual).symm.trans h.snapshot)
    exact .inr ⟨active, hactive, hsession, hendpoint, hrole, haccepted, by rw [hmanual]; rfl, rfl⟩
  · rw [h.any_eq_false rfl]
    exact .inl rfl

theorem cancel (h : manager.Finished ended) {active : ActiveSession}
    (hactive : manager.active = some active) :
    (manager.cancel active.wireSessionId io).2 =
      { manager with
        manualSnapshot := manager.manualSnapshot.map fun _ =>
          { ended with state := .rejected, failureReason := .cancelled }
        sent := manager.sent ++ delivered
          (.result { pairingSessionId := active.wireSessionId, failureReason := .cancelled })
          active.endpoint io } := by
  have hsame : (manager.stateMachine.cancel active.wireSessionId (io.now .finish)).machine =
      manager.stateMachine :=
    (manager.stateMachine.acts_reject active.wireSessionId .cancelled
      (io.now .finish)).keeps.eq_of_ended h.machine
  unfold PairingManager.cancel
  split
  · rename_i hnone
    exact absurd (hactive.symm.trans hnone) nofun
  rename_i bound hbound
  obtain rfl := Option.some.inj (hactive.symm.trans hbound)
  rw [if_neg (not_not_intro rfl), h.expireIfNeeded]
  dsimp only
  rw [sendMessage_of_active hactive]
  dsimp only
  split
  · rename_i manual hmanual
    obtain rfl := Option.some.inj ((snapshot_of_manual hmanual).symm.trans h.snapshot)
    rw [hmanual]
    rfl
  · rename_i hmanual
    split
    · unfold afterMachine
      rw [hsame, hmanual, ite_self]
      rfl
    · unfold afterMachine
      rw [hsame, hmanual, ite_self]
      rfl

theorem cancel_of_ne (sessionId : QUuid)
    (hother : ∀ active ∈ manager.active, active.wireSessionId ≠ sessionId) :
    (manager.cancel sessionId io).2 = manager := by
  unfold PairingManager.cancel
  split
  · rfl
  · rename_i active hactive
    rw [if_pos (hother active hactive)]

theorem handleResult_of_declines (h : manager.Finished ended) {message : PairingResultMessage}
    {active : ActiveSession} (hactive : manager.active = some active)
    (hsession : active.wireSessionId = message.pairingSessionId) (hrole : active.role = .incoming)
    (hdeclines : message.accepted = false) (hmanual : manager.manualSnapshot.isSome = true) :
    (manager.handleResult platform message active.endpoint io).2.manualSnapshot =
      some { ended with state := .rejected, failureReason := message.failureReason } := by
  have hvalid : manager.validateBoundMessage message.pairingSessionId active.endpoint .incoming =
      .ok active :=
    hsession ▸ hrole ▸ validateBoundMessage_of_active hactive
  obtain ⟨manual, hkept⟩ := Option.isSome_iff_exists.mp hmanual
  obtain rfl := Option.some.inj ((snapshot_of_manual hkept).symm.trans h.snapshot)
  unfold PairingManager.handleResult
  rw [hvalid]
  dsimp only
  rw [h.expireIfNeeded]
  dsimp only
  rw [hdeclines, hkept]

end Finished

def handle (platform : PairingPlatform) (source : PairingEndpoint) (io : PairingIo)
    (manager : PairingManager) : PairingMessage → PairingManager
  | .request request => (manager.handleRequest request source io).2
  | .codeSubmission submission => (manager.handleSubmission platform submission source io).2
  | .result result => (manager.handleResult platform result source io).2

structure Admits (request : PairingRequest) (io : PairingIo) (manager : PairingManager) : Prop where
  peer : request.sender.deviceId ≠ manager.localDevice.deviceId
  fingerprint : request.sender.certificateFingerprintSha256.length = kFingerprintBytes
  clock : (io.now .request).isValid = true
  unexpired : notAfter request.expiresAtUtc (io.now .request) = false
  bounded : before (addSecs (io.now .request) manager.options.validity) request.expiresAtUtc = false

namespace Finished

theorem hasNonTerminalSession (h : manager.Finished ended) :
    manager.hasNonTerminalSession = false := by
  unfold PairingManager.hasNonTerminalSession
  rw [h.snapshot, Option.any_some, h.terminal]
  rfl

theorem handleRequest (h : manager.Finished ended) (request : PairingRequest)
    (source : PairingEndpoint) :
    (¬ Admits request io manager ∧ (manager.handleRequest request source io).2 = manager) ∨
      (Admits request io manager ∧ ∃ opened,
        (manager.handleRequest request source io).2.snapshot = some opened ∧
        opened.state = .awaitingUserComparison) := by
  unfold PairingManager.handleRequest
  split
  · rename_i hpeer
    exact .inl ⟨fun hadmits => hpeer.elim hadmits.peer (absurd hadmits.fingerprint), rfl⟩
  rename_i hpeer
  rw [h.hasNonTerminalSession, if_neg nofun]
  split
  · rename_i hexpiry
    refine .inl ⟨fun hadmits => ?_, rfl⟩
    obtain hclock | hexpired | hlate := hexpiry
    · exact hclock hadmits.clock
    · exact absurd (hexpired.symm.trans hadmits.unexpired) nofun
    · exact absurd (hlate.symm.trans hadmits.bounded) nofun
  · rename_i hexpiry
    obtain ⟨hclock, hexpired, hlate⟩ : (io.now .request).isValid = true ∧
        notAfter request.expiresAtUtc (io.now .request) = false ∧
        before (addSecs (io.now .request) manager.options.validity) request.expiresAtUtc = false := by
      simpa [not_or] using hexpiry
    obtain ⟨hother, hlength⟩ := not_or.mp hpeer
    exact .inr ⟨⟨hother, not_not.mp hlength, hclock, hexpired, hlate⟩, _, rfl, rfl⟩

theorem receiveDatagram (h : manager.Finished ended) {source : PairingEndpoint}
    (husable : isUsableEndpoint platform source = true) (message : PairingMessage) :
    (manager.receiveDatagram platform (.ok message) source io).2 =
      manager.handle platform source io message := by
  unfold PairingManager.receiveDatagram
  rw [if_neg (not_not_intro husable), h.expireIfNeeded]
  cases message <;> rfl

end Finished

variable {source : PairingEndpoint}

theorem receiveDatagram_of_unusable (husable : isUsableEndpoint platform source = false)
    (decoded : PairingMessageDecodeResult) :
    (manager.receiveDatagram platform decoded source io).2 = manager := by
  unfold receiveDatagram
  rw [husable]
  rfl

theorem receiveDatagram_of_error (error : PairingMessageError × QString) :
    (manager.receiveDatagram platform (.error error) source io).2 = manager := by
  unfold receiveDatagram
  split <;> rfl

theorem revoke_session (deviceId : DeviceId) :
    (manager.revoke deviceId io).2.snapshot = manager.snapshot ∧
      (manager.revoke deviceId io).2.sent = manager.sent := by
  unfold revoke
  dsimp only
  split
  · exact ⟨rfl, rfl⟩
  · split <;> exact ⟨rfl, rfl⟩

def Contradicts (ended : PairingSnapshot) (sent : SentMessage) : Prop :=
  ∃ result, sent.message = .result result ∧
    (result.accepted ≠ decide (ended.state = .completed) ∨
      result.failureReason ≠ ended.failureReason)

def StaysFinished (ended : PairingSnapshot) (earlier later : PairingManager) : Prop :=
  later.snapshot = some ended ∧
    ∃ added, later.sent = earlier.sent ++ added ∧ ∀ sent ∈ added, ¬ Contradicts ended sent

def BeginsSession (platform : PairingPlatform) (ended : PairingSnapshot) (call : PairingCall)
    (manager : PairingManager) : Prop :=
  manager.step platform call ≠ manager ∧
    ((∃ peer fingerprint endpoint, call.event = .startPairing peer fingerprint endpoint) ∨
      ∃ request source, call.event = .receiveDatagram (.ok (.request request)) source ∧
        request.pairingSessionId ≠ ended.pairingSessionId)

inductive Disturbs (platform : PairingPlatform) (ended : PairingSnapshot) (call : PairingCall)
    (manager : PairingManager) : Prop
  | cancels {active : ActiveSession} (hevent : call.event = .cancel active.wireSessionId)
      (hactive : manager.active = some active)
      (h : manager.manualSnapshot.isSome = true ∧
          ¬ (ended.state = .rejected ∧ ended.failureReason = .cancelled) ∨
        call.io.sendFault = none ∧
          (ended.state = .completed ∨ ended.failureReason ≠ .cancelled))
  | declines {message : PairingResultMessage} {active : ActiveSession}
      (hevent : call.event = .receiveDatagram (.ok (.result message)) active.endpoint)
      (husable : isUsableEndpoint platform active.endpoint = true)
      (hactive : manager.active = some active)
      (hsession : active.wireSessionId = message.pairingSessionId)
      (hrole : active.role = .incoming) (hdeclines : message.accepted = false)
      (hmanual : manager.manualSnapshot.isSome = true)
      (hother : ¬ (ended.state = .rejected ∧ ended.failureReason = message.failureReason))
  | reopens {request : PairingRequest} {source : PairingEndpoint}
      (hevent : call.event = .receiveDatagram (.ok (.request request)) source)
      (husable : isUsableEndpoint platform source = true)
      (hsession : request.pairingSessionId = ended.pairingSessionId)
      (hadmits : Admits request call.io manager)

theorem staysFinished_of_eq {later : PairingManager} (h : manager.Finished ended)
    (hsame : later = manager) : StaysFinished ended manager later := by
  subst hsame
  exact ⟨h.snapshot, [], (List.append_nil _).symm, nofun⟩

theorem eq_of_rejected {reason : PairingFailureReason}
    (h : ended.state = .rejected ∧ ended.failureReason = reason) :
    { ended with state := .rejected, failureReason := reason } = ended := by
  obtain ⟨hstate, rfl⟩ := h
  rw [← hstate]

variable {call : PairingCall}

theorem Finished.step_receive (h : manager.Finished ended) {message : PairingMessage}
    (hevent : call.event = .receiveDatagram (.ok message) source)
    (husable : isUsableEndpoint platform source = true) :
    manager.step platform call = manager.handle platform source call.io message := by
  unfold step
  rw [hevent]
  exact h.receiveDatagram husable message

theorem Disturbs.not_staysFinished (h : manager.Finished ended)
    (hdisturbs : Disturbs platform ended call manager) :
    ¬ StaysFinished ended manager (manager.step platform call) := by
  rintro ⟨hsnapshot, added, hadded, hagrees⟩
  cases hdisturbs with
  | cancels hevent hactive hcase =>
    rename_i active
    have hstep : manager.step platform call = (manager.cancel active.wireSessionId call.io).2 := by
      unfold step
      rw [hevent]
    rw [hstep, h.cancel hactive] at hsnapshot hadded
    obtain ⟨hmanual, hother⟩ | ⟨hsends, hother⟩ := hcase
    · obtain ⟨manual, hkept⟩ := Option.isSome_iff_exists.mp hmanual
      refine hother ?_
      have hrejected : some { ended with state := .rejected, failureReason := .cancelled } =
          some ended := by
        rw [hkept] at hsnapshot
        exact hsnapshot
      have hsame := Option.some.inj hrejected
      exact ⟨(congrArg PairingSnapshot.state hsame).symm,
        (congrArg PairingSnapshot.failureReason hsame).symm⟩
    · have hsent := List.append_cancel_left hadded
      unfold delivered at hsent
      rw [if_pos hsends] at hsent
      refine hagrees _ (hsent ▸ List.mem_singleton_self _) ⟨_, rfl, ?_⟩
      obtain hcompleted | hreason := hother
      · refine .inl ?_
        rw [hcompleted]
        nofun
      · exact .inr (Ne.symm hreason)
  | declines hevent husable hactive hsession hrole hdeclines hmanual hother =>
    rename_i message active
    have hstep := h.step_receive hevent husable
    unfold handle at hstep
    dsimp only at hstep
    rw [hstep, snapshot_of_manual
      (h.handleResult_of_declines hactive hsession hrole hdeclines hmanual)] at hsnapshot
    have hsame := Option.some.inj hsnapshot
    exact hother ⟨(congrArg PairingSnapshot.state hsame).symm,
      (congrArg PairingSnapshot.failureReason hsame).symm⟩
  | reopens hevent husable hsession hadmits =>
    rename_i request source
    have hstep := h.step_receive hevent husable
    unfold handle at hstep
    dsimp only at hstep
    rw [hstep] at hsnapshot
    obtain ⟨hrefused, -⟩ | ⟨-, opened, hopened, hstate⟩ := 
        @Finished.handleRequest manager call.io ended h request source
    · exact hrefused hadmits
    · obtain rfl := Option.some.inj (hopened.symm.trans hsnapshot)
      have hended := h.terminal
      rw [hstate] at hended
      cases hended

theorem staysFinished_receive (h : manager.Finished ended) {message : PairingMessage}
    (hevent : call.event = .receiveDatagram (.ok message) source)
    (husable : isUsableEndpoint platform source = true)
    (hbegins : ¬ BeginsSession platform ended call manager)
    (hdisturbs : ¬ Disturbs platform ended call manager) :
    StaysFinished ended manager (manager.step platform call) := by
  have hstep := h.step_receive hevent husable
  unfold handle at hstep
  cases message with
  | request request =>
    dsimp only at hstep
    obtain ⟨-, hsame⟩ | ⟨hadmits, opened, hopened, hstate⟩ :=
      @Finished.handleRequest manager call.io ended h request source
    · exact staysFinished_of_eq h (hstep.trans hsame)
    · by_cases hsession : request.pairingSessionId = ended.pairingSessionId
      · exact absurd (.reopens hevent husable hsession hadmits) hdisturbs
      · refine absurd ⟨?_, .inr ⟨request, source, hevent, hsession⟩⟩ hbegins
        intro hsame
        rw [← hstep, hsame, h.snapshot] at hopened
        obtain rfl := Option.some.inj hopened
        have hended := h.terminal
        rw [hstate] at hended
        cases hended
  | codeSubmission submission =>
    exact staysFinished_of_eq h (hstep.trans (h.handleSubmission submission source))
  | result message =>
    obtain hsame | ⟨active, hactive, hsession, rfl, hrole, hdeclines, hmanual, hrejected⟩ :=
      @Finished.handleResult platform manager call.io ended h message source
    · exact staysFinished_of_eq h (hstep.trans hsame)
    · have hreason : ended.state = .rejected ∧ ended.failureReason = message.failureReason :=
        not_not.mp fun hother => hdisturbs
          (.declines hevent husable hactive hsession hrole hdeclines hmanual hother)
      rw [hstep]
      dsimp only
      rw [hrejected]
      refine ⟨snapshot_of_manual (congrArg some (eq_of_rejected hreason)), [],
        (List.append_nil _).symm, nofun⟩

theorem staysFinished_cancel (h : manager.Finished ended) {sessionId : QUuid}
    (hevent : call.event = .cancel sessionId) (hdisturbs : ¬ Disturbs platform ended call manager) :
    StaysFinished ended manager (manager.step platform call) := by
  have hstep : manager.step platform call = (manager.cancel sessionId call.io).2 := by
    unfold step
    rw [hevent]
  by_cases hother : ∀ active ∈ manager.active, active.wireSessionId ≠ sessionId
  · exact staysFinished_of_eq h (hstep.trans (Finished.cancel_of_ne sessionId hother))
  obtain ⟨active, hactive, rfl⟩ : ∃ active, manager.active = some active ∧
      active.wireSessionId = sessionId := by
    simpa using hother
  have hundisturbed := fun hcase => hdisturbs (.cancels hevent hactive hcase)
  obtain ⟨hkept, hagrees⟩ := not_or.mp hundisturbed
  rw [hstep, h.cancel hactive]
  constructor
  · cases hmanual : manager.manualSnapshot with
    | some manual =>
      have hrejected : ended.state = .rejected ∧ ended.failureReason = .cancelled :=
        not_not.mp fun hother => hkept ⟨by rw [hmanual]; rfl, hother⟩
      exact snapshot_of_manual (congrArg some (eq_of_rejected hrejected))
    | none => exact (snapshot_of_manual_none hmanual).symm.trans h.snapshot
  · refine ⟨_, rfl, fun sent hsent => ?_⟩
    by_cases hsends : call.io.sendFault = none
    · obtain ⟨hstate, hreason⟩ := not_or.mp (not_and.mp hagrees hsends)
      rw [mem_delivered hsent]
      rintro ⟨result, hresult, hwrong⟩
      obtain rfl := PairingMessage.result.inj hresult
      obtain haccepted | hreasons := hwrong
      · exact haccepted (decide_eq_false hstate).symm
      · exact hreasons (not_not.mp hreason).symm
    · unfold delivered at hsent
      rw [if_neg hsends] at hsent
      exact absurd hsent List.not_mem_nil

/-- **One call.** -/
theorem staysFinished_iff (h : manager.Finished ended)
    (hbegins : ¬ BeginsSession platform ended call manager) :
    StaysFinished ended manager (manager.step platform call) ↔
      ¬ Disturbs platform ended call manager := by
  refine ⟨fun hstays hdisturbs => hdisturbs.not_staysFinished h hstays, fun hdisturbs => ?_⟩
  cases hevent : call.event with
  | startPairing peer fingerprint endpoint =>
    exact staysFinished_of_eq h
      (not_not.mp fun hnew => hbegins ⟨hnew, .inl ⟨peer, fingerprint, endpoint, hevent⟩⟩)
  | receiveDatagram decoded source =>
    cases husable : isUsableEndpoint platform source with
    | false =>
      refine staysFinished_of_eq h ?_
      unfold step
      rw [hevent]
      exact receiveDatagram_of_unusable husable decoded
    | true =>
      cases decoded with
      | error error =>
        refine staysFinished_of_eq h ?_
        unfold step
        rw [hevent]
        exact receiveDatagram_of_error error
      | ok message => exact staysFinished_receive h hevent husable hbegins hdisturbs
  | confirmMatchingSas sessionId =>
    refine staysFinished_of_eq h ?_
    unfold step
    rw [hevent]
    exact h.confirmMatchingSas sessionId
  | submitDisplayedSas sessionId sixDigits =>
    refine staysFinished_of_eq h ?_
    unfold step
    rw [hevent]
    exact h.submitDisplayedSas sessionId sixDigits
  | cancel sessionId => exact staysFinished_cancel h hevent hdisturbs
  | revoke deviceId =>
    obtain ⟨hsnapshot, hsent⟩ := @revoke_session manager call.io deviceId
    unfold step
    rw [hevent]
    exact ⟨hsnapshot.trans h.snapshot, [], hsent.trans (List.append_nil _).symm, nofun⟩
  | expireIfNeeded =>
    refine staysFinished_of_eq h ?_
    unfold step
    rw [hevent]
    exact congrArg Prod.snd (h.expireIfNeeded _)

/-- The snapshot that a run finds terminal stays, and nothing contradicts it. -/
def Absorbing (platform : PairingPlatform) (ended : PairingSnapshot) :
    List PairingCall → PairingManager → Prop :=
  Throughout (step platform) fun call manager =>
    StaysFinished ended manager (manager.step platform call)

/-- Until a new session begins, a terminal snapshot is final exactly when no call disturbs it. -/
theorem terminal_absorbing_iff {first : PairingManager} (hfresh : first.Fresh)
    (calls later : List PairingCall) (ended : PairingSnapshot)
    (hsnapshot : (first.run platform calls).snapshot = some ended)
    (hterminal : ended.state.isTerminal = true)
    (hsame : Throughout (step platform)
      (fun call manager => ¬ BeginsSession platform ended call manager) later
      (first.run platform calls)) :
    Absorbing platform ended later (first.run platform calls) ↔
      Throughout (step platform) (fun call manager => ¬ Disturbs platform ended call manager) later
        (first.run platform calls) := by
  have hfinished : (first.run platform calls).Finished ended :=
    ⟨hfresh.consistent.run calls, hsnapshot, hterminal⟩
  generalize first.run platform calls = manager at hfinished hsame
  clear hsnapshot
  induction later generalizing manager with
  | nil => exact Iff.rfl
  | cons call rest ih =>
    obtain ⟨hbegins, hrest⟩ := hsame
    have hstep := staysFinished_iff hfinished hbegins
    refine (and_congr_right fun hstays => ?_).trans (and_congr_left' hstep)
    exact ih _ ⟨hfinished.consistent.step call, hstays.1, hterminal⟩ hrest

section Sample

def samplePlatform : PairingPlatform where
  text := QtText.ascii
  hostAddress := some
  isUsableAddress _ := true

def sampleInitiator : DeviceInfo where
  deviceId := ⟨1, one_nonNull⟩
  displayName := QString.literal "desk"
  platform := QString.literal "linux"
  certificateFingerprintSha256 := List.replicate 32 7

def sampleResponder : DeviceInfo where
  deviceId := ⟨2, two_nonNull⟩
  displayName := QString.literal "lap"
  platform := QString.literal "linux"
  certificateFingerprintSha256 := List.replicate 32 9

def initiatorEndpoint : PairingEndpoint := ⟨QString.literal "10.0.0.1", 24801⟩

def responderEndpoint : PairingEndpoint := ⟨QString.literal "10.0.0.2", 24801⟩

/-- All readings of the clock give this time. -/
def ioAt (msecs : Int) : PairingIo where
  now _ := ⟨some msecs⟩
  uuid := 5
  generatedSas := 123456

/-- The request that the asking side sends at the time zero. -/
def sampleRequest : PairingMessage := .request ⟨5, sampleInitiator, ⟨some 300000⟩⟩

def expiredCalls : List PairingCall :=
  [⟨.receiveDatagram (.ok sampleRequest) initiatorEndpoint, ioAt 1000⟩,
    ⟨.expireIfNeeded, ioAt 400000⟩]

def askedManager : PairingManager := { localDevice := sampleResponder }

def expiredSnapshot : PairingSnapshot where
  pairingSessionId := 5
  peer := snapshotFromDeviceInfo sampleInitiator initiatorEndpoint
  state := .expired
  expiresAtUtc := ⟨some 300000⟩
  attemptsRemaining := 3
  failureReason := .expired

theorem terminal_absorbing_sample :
    Absorbing samplePlatform expiredSnapshot
      [⟨.submitDisplayedSas 5 (QString.literal "123456"), ioAt 400000⟩]
      (askedManager.run samplePlatform expiredCalls) := by
  refine (@terminal_absorbing_iff samplePlatform askedManager ⟨rfl, rfl, rfl, rfl⟩ expiredCalls
    [⟨.submitDisplayedSas 5 (QString.literal "123456"), ioAt 400000⟩] expiredSnapshot
    (by decide +kernel) rfl ⟨?_, trivial⟩).mpr ⟨?_, trivial⟩
  · rintro ⟨-, ⟨peer, fingerprint, endpoint, hevent⟩ | ⟨request, source, hevent, -⟩⟩
    · cases hevent
    · cases hevent
  · intro hdisturbs
    cases hdisturbs with
    | cancels hevent => cases hevent
    | declines hevent => cases hevent
    | reopens hevent => cases hevent

/-- The user cancels the session that has expired; the snapshot then says rejected. -/
theorem terminal_not_absorbing :
    ¬ ∀ (platform : PairingPlatform) (first : PairingManager) (calls later : List PairingCall)
        (ended : PairingSnapshot), first.Fresh →
        (first.run platform calls).snapshot = some ended → ended.state.isTerminal = true →
        Throughout (step platform)
          (fun call manager => ¬ BeginsSession platform ended call manager) later
          (first.run platform calls) →
        Absorbing platform ended later (first.run platform calls) := by
  intro h
  have hbegins : ¬ BeginsSession samplePlatform expiredSnapshot ⟨.cancel 5, ioAt 400000⟩
      (askedManager.run samplePlatform expiredCalls) := by
    rintro ⟨-, ⟨peer, fingerprint, endpoint, hevent⟩ | ⟨request, source, hevent, -⟩⟩
    · cases hevent
    · cases hevent
  have hkept := h samplePlatform askedManager expiredCalls [⟨.cancel 5, ioAt 400000⟩]
    expiredSnapshot ⟨rfl, rfl, rfl, rfl⟩ (by decide +kernel) rfl ⟨hbegins, trivial⟩
  have hrejected : (((askedManager.run samplePlatform expiredCalls).step samplePlatform
      ⟨.cancel 5, ioAt 400000⟩).snapshot.map PairingSnapshot.state) = some .rejected := by
    decide +kernel
  rw [hkept.1.1] at hrejected
  cases hrejected

end Sample

end PairingManager

end DeskflowPlus.Pairing
