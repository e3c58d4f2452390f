import DeskflowPlus.Pairing.PairingTermination

/-!
# What a cancellation does on the other side

The cancellation is a declining result. The asked side takes one and its session ends. The asking
side takes no results, whoever sends them: there the session goes on until it expires, and what is
confirmed later is still committed.
-/

namespace DeskflowPlus.Pairing

open Transfer Trust

namespace PairingManager

variable {platform : PairingPlatform} {manager : PairingManager} {io : PairingIo}
  {ended : PairingSnapshot}

def OpensSession (platform : PairingPlatform) (call : PairingCall) (manager : PairingManager) :
    Prop :=
  manager.step platform call ≠ manager ∧
    ((∃ peer fingerprint endpoint, call.event = .startPairing peer fingerprint endpoint) ∨
      ∃ request source, call.event = .receiveDatagram (.ok (.request request)) source)

theorem Finished.advanced {later : PairingManager} (h : manager.Finished ended)
    (hadvanced : Advanced manager later) :
    ∃ next, later.Finished next ∧ next.pairingSessionId = ended.pairingSessionId := by
  have hconsistent := h.consistent.advanced hadvanced
  obtain ⟨hnone, hlater, hkeeps⟩ | ⟨before, after, hbefore, hafter, hid, -, hends, -⟩ :=
    hadvanced.session
  · refine ⟨ended, ⟨hconsistent, ?_, h.terminal⟩, rfl⟩
    rw [snapshot_of_manual_none hlater, hkeeps.eq_of_ended h.machine,
      ← snapshot_of_manual_none hnone]
    exact h.snapshot
  · obtain rfl := Option.some.inj ((snapshot_of_manual hbefore).symm.trans h.snapshot)
    refine ⟨after, ⟨hconsistent, snapshot_of_manual hafter, ?_⟩, hid⟩
    obtain rfl | hended := hends
    · exact h.terminal
    · exact hended

theorem Finished.step {call : PairingCall} (h : manager.Finished ended)
    (hopens : ¬ OpensSession platform call manager) :
    (∃ next, (manager.step platform call).Finished next ∧
        next.pairingSessionId = ended.pairingSessionId) ∧
      ∀ deviceId fingerprint, (manager.step platform call).store.Pins deviceId fingerprint →
        manager.store.Pins deviceId fingerprint := by
  by_cases hsame : manager.step platform call = manager
  · rw [hsame]
    exact ⟨⟨ended, h, rfl⟩, fun _ _ => id⟩
  have hevents := fun hevent => hopens ⟨hsame, hevent⟩
  obtain ⟨hstart, hrequest⟩ := not_or.mp hevents
  have hmachine {running : PairingSnapshot}
      (hsnapshot : manager.stateMachine.snapshot = some running)
      (hrunning : running.state.isTerminal = false) : False :=
    absurd (h.machine running hsnapshot) (by rw [hrunning]; nofun)
  cases step_effect h.consistent call with
  | advances hadvanced =>
    refine ⟨h.advanced hadvanced, fun _ _ hpins => ?_⟩
    rwa [hadvanced.store] at hpins
  | revokes hevent hrevoked =>
    rw [hrevoked]
    exact ⟨⟨ended, ⟨h.consistent.congr rfl rfl rfl, h.snapshot, h.terminal⟩, rfl⟩,
      fun _ _ => DeviceStore.pins_of_revoke⟩
  | starts hevent => exact absurd ⟨_, _, _, hevent⟩ hstart
  | requests hevent => exact absurd ⟨_, _, hevent⟩ hrequest
  | submits hevent hsubmits =>
    obtain ⟨manual, hmanual, hawaiting⟩ := hsubmits.awaited
    obtain rfl := Option.some.inj ((snapshot_of_manual hmanual).symm.trans h.snapshot)
    exact absurd h.terminal (by rw [hawaiting]; nofun)
  | confirms hevent hactive hrole hsnapshot hrunning =>
    exact (hmachine hsnapshot hrunning).elim
  | accepts hevent hactive hrole hsnapshot hstate =>
    exact (hmachine hsnapshot (by rw [hstate]; rfl)).elim
  | commits hevent hrole hsession haccepted hcommits =>
    obtain ⟨snapshot, hsnapshot, hstate, -⟩ := hcommits.snapshot
    exact (hmachine hsnapshot (by rw [hstate]; rfl)).elim

theorem Finished.run {later : List PairingCall} (h : manager.Finished ended)
    (hopens : Throughout (PairingManager.step platform)
      (fun call manager => ¬ OpensSession platform call manager) later manager)
    (deviceId : DeviceId) (fingerprint : QByteArray)
    (hpins : (manager.run platform later).store.Pins deviceId fingerprint) :
    manager.store.Pins deviceId fingerprint := by
  have hkeep (current : PairingManager) (call : PairingCall)
      (hcurrent : (∃ next, current.Finished next) ∧
        (current.store.Pins deviceId fingerprint → manager.store.Pins deviceId fingerprint))
      (hcall : ¬ OpensSession platform call current) :
      (∃ next, (current.step platform call).Finished next) ∧
        ((current.step platform call).store.Pins deviceId fingerprint →
          manager.store.Pins deviceId fingerprint) := by
    obtain ⟨⟨next, hnext⟩, hback⟩ := hcurrent
    obtain ⟨⟨after, hafter, -⟩, hstep⟩ := hnext.step hcall
    exact ⟨⟨after, hafter⟩, fun hlater => hback (hstep deviceId fingerprint hlater)⟩
  exact (hopens.invariant hkeep ⟨⟨ended, h⟩, id⟩).2 hpins

/-- What a side that cancels tells the other. -/
def cancellation (sessionId : QUuid) : PairingResultMessage where
  pairingSessionId := sessionId
  failureReason := .cancelled

def Closed (platform : PairingPlatform) (sessionId : QUuid) (manager : PairingManager) : Prop :=
  (∃ ended, manager.snapshot = some ended ∧ ended.pairingSessionId = sessionId ∧
      ended.state.isTerminal = true ∧
      (ended.state = .rejected ∨ ended.failureReason = .cancelled ∨ ended.state = .expired)) ∧
    ∀ later, Throughout (PairingManager.step platform)
        (fun call manager => ¬ OpensSession platform call manager) later manager →
      ∀ deviceId fingerprint, (manager.run platform later).store.Pins deviceId fingerprint →
        manager.store.Pins deviceId fingerprint

theorem Finished.closed (h : manager.Finished ended)
    (hends : ended.state = .rejected ∨ ended.failureReason = .cancelled ∨
      ended.state = .expired) : Closed platform ended.pairingSessionId manager :=
  ⟨⟨ended, h.snapshot, rfl, h.terminal, hends⟩, fun _ hopens => h.run hopens⟩

section Delivery

variable {active : ActiveSession} {running : PairingSnapshot}

/-- The clock has ended the session. -/
theorem Finished.of_expire (h : manager.Consistent) {now : QDateTime}
    (hsnapshot : (manager.expireIfNeeded now).2.snapshot =
      some { running with state := .expired, failureReason := .expired }) :
    Finished (manager.expireIfNeeded now).2
      { running with state := .expired, failureReason := .expired } :=
  ⟨h.advanced (advanced_expireIfNeeded now manager), hsnapshot, rfl⟩

theorem failState_cancelled (h : manager.Consistent) (hmanual : manager.manualSnapshot = none)
    (hmachine : manager.stateMachine.snapshot = some running)
    (hrunning : running.state.isTerminal = false) (error : PairingOperationError)
    (diagnostic : QString) :
    Closed platform running.pairingSessionId
      (manager.failState error diagnostic .cancelled io).2 := by
  have hconsistent : (manager.failState error diagnostic .cancelled io).2.Consistent :=
    h.advanced (.of_fail hmanual _ _ _)
  unfold failState at hconsistent ⊢
  rw [(snapshot_of_manual_none hmanual).trans hmachine, hmachine] at hconsistent ⊢
  dsimp only at hconsistent ⊢
  obtain ⟨hpublished, hends⟩ := @PairingStateMachine.finish_of_running manager.stateMachine running
    running.pairingSessionId .failed "pairing failure transition is invalid" .cancelled nofun
    hmachine rfl (h.named running hmachine) hrunning (io.now .finish)
  have hnone : (manager.afterMachine (manager.stateMachine.fail running.pairingSessionId .cancelled
      (io.now .finish))).manualSnapshot = none := if_pos hpublished
  obtain hfailed | hexpired := hends
  · have hfinished := Finished.mk hconsistent ((snapshot_of_manual_none hnone).trans
      (congrArg PairingStateMachine.snapshot hfailed)) rfl
    exact hfinished.closed (.inr (.inl rfl))
  · have hfinished := Finished.mk hconsistent ((snapshot_of_manual_none hnone).trans
      (congrArg PairingStateMachine.snapshot hexpired)) rfl
    exact hfinished.closed (.inr (.inr rfl))

theorem handleResult_cancellation (h : manager.Consistent) (hactive : manager.active = some active)
    (hrole : active.role = .incoming) (hsnapshot : manager.snapshot = some running)
    (hrunning : running.state.isTerminal = false) :
    Closed platform active.wireSessionId
      (manager.handleResult platform (cancellation active.wireSessionId) active.endpoint io).2 := by
  have hid : running.pairingSessionId = active.wireSessionId := by
    obtain ⟨bound, hbound, hid, -⟩ := h.bound active hactive
    obtain rfl := Option.some.inj (hsnapshot.symm.trans hbound)
    exact hid
  have hvalid := validateBoundMessage_of_active hactive
  rw [hrole] at hvalid
  unfold handleResult cancellation
  dsimp only
  rw [hvalid]
  dsimp only
  obtain ⟨hsame, -⟩ | ⟨hexpired, -, bound, hbound, -, -, hafter⟩ :=
    expireIfNeeded_cases (io.now .expiry) manager
  case inr =>
    obtain rfl := Option.some.inj (hsnapshot.symm.trans hbound)
    have hclosed : Closed platform active.wireSessionId (manager.expireIfNeeded (io.now .expiry)).2 :=
      hid ▸ (Finished.of_expire h hafter).closed (.inr (.inr rfl))
    split
    · rename_i hexpiry
      rw [hexpiry] at hclosed
      exact hclosed
    · rename_i hexpiry
      rw [hexpiry] at hexpired
      cases hexpired
  rw [hsame]
  dsimp only
  split
  · rename_i manual _ hmanual
    obtain rfl := Option.some.inj ((snapshot_of_manual hmanual).symm.trans hsnapshot)
    rw [← hid]
    have hrejected : Finished
        { manager with
          manualSnapshot := some { manual with state := .rejected, failureReason := .cancelled } }
        { manual with state := .rejected, failureReason := .cancelled } :=
      ⟨h.advanced (.of_manual hmanual rfl _), rfl, rfl⟩
    exact hrejected.closed (.inl rfl)
  rename_i hpending
  have hmanual : manager.manualSnapshot = none := by
    cases hkept : manager.manualSnapshot with
    | none => rfl
    | some manual => exact (hpending manual rfl hkept).elim
  have hmachine := (snapshot_of_manual_none hmanual).symm.trans hsnapshot
  have hstate : running.state = .confirming :=
    (h.incoming active hactive hrole hmanual running hmachine).resolve_right
      (by rw [hrunning]; nofun)
  rw [if_neg (by rw [hmachine, Option.any_some, decide_eq_true hstate]; exact not_not_intro rfl),
    if_pos nofun]
  rw [← hid]
  exact failState_cancelled h hmanual hmachine hrunning _ _

theorem handleResult_outgoing (hactive : manager.active = some active)
    (hrole : active.role = .outgoing) (message : PairingResultMessage)
    (source : PairingEndpoint) :
    (manager.handleResult platform message source io).2 = manager := by
  unfold handleResult
  split
  · rfl
  · rename_i bound hvalid
    obtain ⟨hbound, -, -, hincoming⟩ := validateBoundMessage_eq_ok hvalid
    obtain rfl := Option.some.inj (hactive.symm.trans hbound)
    exact absurd (hrole.symm.trans hincoming) nofun

theorem expireIfNeeded_sent (now : QDateTime) (manager : PairingManager) :
    (manager.expireIfNeeded now).2.sent = manager.sent := by
  unfold expireIfNeeded
  split
  · split <;> rfl
  · rfl

theorem cancel_sent (hactive : manager.active = some active) :
    (manager.cancel active.wireSessionId io).2.sent = manager.sent ∨
      (manager.cancel active.wireSessionId io).2.sent =
        manager.sent ++ [⟨.result (cancellation active.wireSessionId), active.endpoint⟩] := by
  have hdelivered (current : PairingManager) (hcurrent : current.active = some active)
      (hsent : current.sent = manager.sent) :
      (current.sendMessage (.result (cancellation active.wireSessionId)) io).2.sent =
          manager.sent ∨
        (current.sendMessage (.result (cancellation active.wireSessionId)) io).2.sent =
          manager.sent ++ [⟨.result (cancellation active.wireSessionId), active.endpoint⟩] := by
    rw [sendMessage_of_active hcurrent]
    unfold delivered
    dsimp only
    rw [hsent]
    split
    · exact .inr rfl
    · exact .inl (List.append_nil _)
  unfold cancel
  split
  · exact .inl rfl
  rename_i bound hbound
  obtain rfl := Option.some.inj (hactive.symm.trans hbound)
  rw [if_neg (not_not_intro rfl)]
  have hsent := expireIfNeeded_sent (io.now .expiry) manager
  have hkept := (advanced_expireIfNeeded (io.now .expiry) manager).active.trans hactive
  split
  · rename_i hexpiry
    rw [hexpiry] at hsent
    exact .inl hsent
  · rename_i current hexpiry
    rw [hexpiry] at hsent hkept
    dsimp only
    split
    · exact hdelivered current hkept hsent
    · split <;> exact hdelivered current hkept hsent

/-- One side's cancellation arrives on the other, whose session is running. That session is closed
exactly if the canceller is the asking side, or the session has just expired. -/
theorem cancel_closes_other_side_iff {sender firstOther : PairingManager}
    (hfreshOther : firstOther.Fresh) (callsOther : List PairingCall)
    {canceller other : ActiveSession} {running : PairingSnapshot} {sent : SentMessage}
    (ioCancel ioDeliver : PairingIo)
    (hcanceller : sender.active = some canceller)
    (hother : (firstOther.run platform callsOther).active = some other)
    (hsession : canceller.wireSessionId = other.wireSessionId)
    (hroles : canceller.role ≠ other.role)
    (hsnapshot : (firstOther.run platform callsOther).snapshot = some running)
    (hrunning : running.state.isTerminal = false)
    (hsent : (sender.step platform ⟨.cancel canceller.wireSessionId, ioCancel⟩).sent =
      sender.sent ++ [sent]) :
    Closed platform other.wireSessionId ((firstOther.run platform callsOther).step platform
        ⟨.receiveDatagram (.ok sent.message) other.endpoint, ioDeliver⟩) ↔
      canceller.role = .outgoing ∨
        before (ioDeliver.now .datagram) running.expiresAtUtc = false := by
  have hconsistent : (firstOther.run platform callsOther).Consistent :=
    hfreshOther.consistent.run callsOther
  have husable : isUsableEndpoint platform other.endpoint = true :=
    hfreshOther.endpointUsable_run callsOther other hother
  generalize firstOther.run platform callsOther = receiver at hother hsnapshot hconsistent ⊢
  have hmessage : sent.message = .result (cancellation other.wireSessionId) := by
    rw [← hsession]
    obtain hnone | hone := @cancel_sent _ ioCancel _ hcanceller
    · have hlength := congrArg List.length (hsent.symm.trans hnone)
      rw [List.length_append] at hlength
      exact absurd hlength (Nat.succ_ne_self _)
    · have hlast := List.append_cancel_left (hsent.symm.trans hone)
      exact congrArg SentMessage.message (List.singleton_inj.mp hlast)
  rw [hmessage]
  obtain ⟨bound, hbound, hid, -⟩ := hconsistent.bound other hother
  obtain rfl := Option.some.inj (hsnapshot.symm.trans hbound)
  have hstep : receiver.step platform
      ⟨.receiveDatagram (.ok (.result (cancellation other.wireSessionId))) other.endpoint,
        ioDeliver⟩ =
      ((receiver.expireIfNeeded (ioDeliver.now .datagram)).2.handleResult platform
        (cancellation other.wireSessionId) other.endpoint ioDeliver).2 := by
    unfold step receiveDatagram
    dsimp only
    rw [if_neg (not_not_intro husable)]
  rw [hstep]
  obtain ⟨hsame, hruns⟩ | ⟨-, hadvanced, current, hcurrent, -, hpast, hafter⟩ :=
    expireIfNeeded_cases (ioDeliver.now .datagram) receiver
  · have hbefore : before (ioDeliver.now .datagram) running.expiresAtUtc = true :=
      (hruns running hsnapshot).resolve_left (by rw [hrunning]; nofun)
    rw [hsame, hbefore, or_iff_left nofun]
    cases hrole : other.role with
    | incoming =>
      have houtgoing : canceller.role = .outgoing := by
        cases hcase : canceller.role with
        | outgoing => rfl
        | incoming => exact absurd (hcase.trans hrole.symm) hroles
      exact ⟨fun _ => houtgoing, fun _ =>
        handleResult_cancellation hconsistent hother hrole hsnapshot hrunning⟩
    | outgoing =>
      have hincoming : canceller.role ≠ .outgoing := fun hcase => hroles (hcase.trans hrole.symm)
      rw [handleResult_outgoing hother hrole]
      refine ⟨fun hclosed => ?_, fun hcase => absurd hcase hincoming⟩
      obtain ⟨⟨ended, hended, -, hterminal, -⟩, -⟩ := hclosed
      obtain rfl := Option.some.inj (hsnapshot.symm.trans hended)
      exact absurd hterminal (by rw [hrunning]; nofun)
  · obtain rfl := Option.some.inj (hsnapshot.symm.trans hcurrent)
    refine ⟨fun _ => .inr hpast, fun _ => ?_⟩
    have hfinished := Finished.of_expire hconsistent hafter
    rw [← hid]
    obtain hsame | ⟨-, -, -, -, -, -, hkept, hrejected⟩ :=
      @Finished.handleResult platform _ ioDeliver _ hfinished
        (cancellation running.pairingSessionId) other.endpoint
    · rw [hsame]
      exact hfinished.closed (.inr (.inr rfl))
    · obtain ⟨manual, hmanual⟩ := Option.isSome_iff_exists.mp hkept
      obtain rfl := Option.some.inj ((snapshot_of_manual hmanual).symm.trans hfinished.snapshot)
      rw [hrejected]
      have hended := Finished.mk (hfinished.consistent.advanced (@Advanced.of_manual _ _ hmanual
        .rejected rfl (cancellation running.pairingSessionId).failureReason))
        (snapshot_of_manual rfl) rfl
      exact hended.closed (.inl rfl)

end Delivery

section Sample

def askingManager : PairingManager := { localDevice := sampleInitiator }

def sampleStart : PairingCall where
  event := .startPairing { id := sampleResponder.deviceId, platform := QString.literal "linux" }
    sampleResponder.certificateFingerprintSha256 responderEndpoint
  io := ioAt 0

def sampleDelivery : PairingCall where
  event := .receiveDatagram (.ok sampleRequest) initiatorEndpoint
  io := ioAt 1000

def askingSession : ActiveSession where
  role := .outgoing
  wireSessionId := 5
  peerId := sampleResponder.deviceId
  peerFingerprintSha256 := sampleResponder.certificateFingerprintSha256
  endpoint := responderEndpoint

def askedSession : ActiveSession where
  role := .incoming
  wireSessionId := 5
  peerId := sampleInitiator.deviceId
  peerFingerprintSha256 := sampleInitiator.certificateFingerprintSha256
  endpoint := initiatorEndpoint

def askedSnapshot : PairingSnapshot where
  pairingSessionId := 5
  peer := snapshotFromDeviceInfo sampleInitiator initiatorEndpoint
  state := .awaitingUserComparison
  expiresAtUtc := ⟨some 300000⟩
  attemptsRemaining := 3

theorem cancel_closes_other_side_asking :
    Closed samplePlatform 5 ((askedManager.run samplePlatform [sampleDelivery]).step samplePlatform
      ⟨.receiveDatagram (.ok (.result (cancellation 5))) initiatorEndpoint, ioAt 2000⟩) :=
  (@cancel_closes_other_side_iff samplePlatform (askingManager.run samplePlatform [sampleStart])
    askedManager ⟨rfl, rfl, rfl, rfl⟩ [sampleDelivery] askingSession askedSession askedSnapshot
    ⟨.result (cancellation 5), responderEndpoint⟩ (ioAt 1500) (ioAt 2000) (by decide +kernel)
    (by decide +kernel) rfl nofun (by decide +kernel) rfl (by decide +kernel)).mpr (.inl rfl)

/-- The asked side cancels, and the asking side goes on waiting. -/
theorem cancel_leaves_asking_side :
    ¬ ∀ (platform : PairingPlatform) (first firstOther : PairingManager)
        (calls callsOther : List PairingCall) (canceller other : ActiveSession)
        (running : PairingSnapshot) (sent : SentMessage) (ioCancel ioDeliver : PairingIo),
        first.Fresh → firstOther.Fresh → (first.run platform calls).active = some canceller →
        (firstOther.run platform callsOther).active = some other →
        canceller.wireSessionId = other.wireSessionId → canceller.role ≠ other.role →
        (firstOther.run platform callsOther).snapshot = some running →
        running.state.isTerminal = false →
        ((first.run platform calls).step platform
          ⟨.cancel canceller.wireSessionId, ioCancel⟩).sent =
            (first.run platform calls).sent ++ [sent] →
        Closed platform other.wireSessionId ((firstOther.run platform callsOther).step platform
          ⟨.receiveDatagram (.ok sent.message) other.endpoint, ioDeliver⟩) := by
  intro h
  obtain ⟨running, hrunning, hstate⟩ : ∃ running,
      (askingManager.run samplePlatform [sampleStart]).snapshot = some running ∧
        running.state = .awaitingUserComparison :=
    ⟨_, rfl, by decide +kernel⟩
  have hclosed := h samplePlatform askedManager askingManager [sampleDelivery] [sampleStart]
    askedSession askingSession running ⟨.result (cancellation 5), initiatorEndpoint⟩ (ioAt 1500)
    (ioAt 2000) ⟨rfl, rfl, rfl, rfl⟩ ⟨rfl, rfl, rfl, rfl⟩ (by decide +kernel) (by decide +kernel)
    rfl nofun hrunning (by rw [hstate]; rfl) (by decide +kernel)
  obtain ⟨⟨ended, hended, -, hterminal, -⟩, -⟩ := hclosed
  have hwaiting : ((askingManager.run samplePlatform [sampleStart]).step samplePlatform
      ⟨.receiveDatagram (.ok (.result (cancellation 5))) responderEndpoint,
        ioAt 2000⟩).snapshot.map PairingSnapshot.state = some .awaitingUserComparison := by
    decide +kernel
  have hstates := (congrArg (Option.map PairingSnapshot.state) hended).symm.trans hwaiting
  rw [Option.some.inj hstates] at hterminal
  cases hterminal

end Sample

end PairingManager

end DeskflowPlus.Pairing
