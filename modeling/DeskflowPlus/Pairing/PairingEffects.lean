import DeskflowPlus.Pairing.PairingSteps

/-!
# What one event of a pairing manager can do

A manager binds a session to an identifier, an endpoint and a peer, and keeps the binding until the
next session. Of the events, two begin a session, one moves it from the snapshot kept by hand into
the machine, two set one of the confirmations, and a commit can only follow both on the asking side
or an accepted result on the asked side.
-/

namespace DeskflowPlus.Pairing

open Transfer Trust

namespace PairingManager

/-- What holds of a manager between its operations. -/
structure Consistent (manager : PairingManager) : Prop where
  named : ∀ snapshot ∈ manager.stateMachine.snapshot, snapshot.pairingSessionId ≠ 0
  manual : manager.manualSnapshot.isSome = true → manager.stateMachine.Ended
  bound : ∀ active ∈ manager.active, ∃ snapshot, manager.snapshot = some snapshot ∧
    snapshot.pairingSessionId = active.wireSessionId ∧ snapshot.peer.id = active.peerId
  fingerprint : ∀ active ∈ manager.active, manager.manualSnapshot = none →
    manager.stateMachine.peerFingerprintSha256 = active.peerFingerprintSha256
  outgoing : ∀ active ∈ manager.active, active.role = .outgoing → manager.manualSnapshot = none
  incoming : ∀ active ∈ manager.active, active.role = .incoming → manager.manualSnapshot = none →
    ∀ snapshot ∈ manager.stateMachine.snapshot,
      snapshot.state = .confirming ∨ snapshot.state.isTerminal = true

theorem Fresh.consistent {manager : PairingManager} (h : manager.Fresh) : manager.Consistent := by
  obtain ⟨hsnapshot, hactive, hmanual, -⟩ := h
  constructor
  · rw [hsnapshot]
    nofun
  · rw [hmanual]
    nofun
  all_goals
    rw [hactive]
    nofun

variable {platform : PairingPlatform} {manager : PairingManager} {io : PairingIo}
  {active : ActiveSession}

theorem snapshot_of_manual_none (h : manager.manualSnapshot = none) :
    manager.snapshot = manager.stateMachine.snapshot := by
  unfold snapshot
  rw [h, Option.none_or]

theorem snapshot_of_manual {manual : PairingSnapshot} (h : manager.manualSnapshot = some manual) :
    manager.snapshot = some manual := by
  unfold snapshot
  rw [h, Option.some_or]

def delivered (message : PairingMessage) (endpoint : PairingEndpoint) (io : PairingIo) :
    List SentMessage :=
  if io.sendFault = none then [⟨message, endpoint⟩] else []

theorem mem_delivered {message : PairingMessage} {endpoint : PairingEndpoint}
    {sent : SentMessage} (h : sent ∈ delivered message endpoint io) :
    sent = ⟨message, endpoint⟩ := by
  unfold delivered at h
  split_ifs at h
  · exact List.mem_singleton.mp h
  · exact absurd h List.not_mem_nil

theorem sendMessage_of_active (h : manager.active = some active) (message : PairingMessage) :
    (manager.sendMessage message io).2 =
      { manager with sent := manager.sent ++ delivered message active.endpoint io } := by
  obtain ⟨localDevice, stateMachine, bound, manualSnapshot, store, files, sent⟩ := manager
  obtain rfl : bound = some active := h
  unfold sendMessage delivered
  cases io.sendFault with
  | none => rfl
  | some fault =>
    rw [if_neg nofun, List.append_nil]
    cases fault <;> rfl

def Declines (sent : SentMessage) : Prop :=
  ∃ result, sent.message = .result result ∧ result.accepted = false

/-- The same session goes on: no confirmation, no trust, nothing accepted. -/
structure Advanced (earlier later : PairingManager) : Prop where
  localDevice : later.localDevice = earlier.localDevice
  active : later.active = earlier.active
  store : later.store = earlier.store
  session : (earlier.manualSnapshot = none ∧ later.manualSnapshot = none ∧
      earlier.stateMachine.Keeps later.stateMachine) ∨
    ∃ before after, earlier.manualSnapshot = some before ∧ later.manualSnapshot = some after ∧
      after.pairingSessionId = before.pairingSessionId ∧ after.peer = before.peer ∧
      (after = before ∨ after.state.isTerminal = true) ∧
      later.stateMachine = earlier.stateMachine
  sent : ∀ message ∈ later.sent, message ∈ earlier.sent ∨ Declines message

namespace Advanced

theorem refl (manager : PairingManager) : Advanced manager manager where
  localDevice := rfl
  active := rfl
  store := rfl
  session := by
    cases hmanual : manager.manualSnapshot with
    | none => exact .inl ⟨rfl, rfl, .refl _⟩
    | some manual => exact .inr ⟨manual, manual, rfl, rfl, rfl, rfl, .inl rfl, rfl⟩
  sent _ h := .inl h

theorem trans {first middle last : PairingManager} (hfirst : Advanced first middle)
    (hlast : Advanced middle last) : Advanced first last where
  localDevice := hlast.localDevice.trans hfirst.localDevice
  active := hlast.active.trans hfirst.active
  store := hlast.store.trans hfirst.store
  session := by
    obtain ⟨hnone, hmiddle, hkeeps⟩ |
        ⟨before, between, hbefore, hmiddle, hid, hpeer, hends, hsame⟩ := hfirst.session
    · obtain ⟨-, hafter, hlater⟩ | ⟨other, -, hother, -⟩ := hlast.session
      · exact .inl ⟨hnone, hafter, hkeeps.trans hlater⟩
      · exact absurd (hmiddle.symm.trans hother) nofun
    · obtain ⟨hnone, -⟩ | ⟨other, after, hother, hafter, hid', hpeer', hends', hsame'⟩ :=
        hlast.session
      · exact absurd (hmiddle.symm.trans hnone) nofun
      · obtain rfl := Option.some.inj (hmiddle.symm.trans hother)
        refine .inr ⟨before, after, hbefore, hafter, hid'.trans hid, hpeer'.trans hpeer, ?_,
          hsame'.trans hsame⟩
        obtain rfl | hended := hends'
        · exact hends
        · exact .inr hended
  sent message h := by
    obtain hmiddle | hdeclines := hlast.sent message h
    · exact hfirst.sent message hmiddle
    · exact .inr hdeclines

theorem manual_none {later : PairingManager} (h : Advanced manager later)
    (hnone : manager.manualSnapshot = none) : later.manualSnapshot = none := by
  obtain ⟨-, hlater, -⟩ | ⟨before, -, hbefore, -⟩ := h.session
  · exact hlater
  · exact absurd (hnone.symm.trans hbefore) nofun

theorem of_acts (hmanual : manager.manualSnapshot = none) {step : MachineStep}
    (hacts : manager.stateMachine.Acts step) : Advanced manager (manager.afterMachine step) where
  localDevice := rfl
  active := rfl
  store := rfl
  session := by
    refine .inl ⟨hmanual, ?_, hacts.keeps⟩
    unfold afterMachine
    dsimp only
    rw [hmanual, ite_self]
  sent _ h := .inl h

theorem of_send {result : PairingResultMessage} (hresult : result.accepted = false) :
    Advanced manager (manager.sendMessage (.result result) io).2 := by
  cases hactive : manager.active with
  | none =>
    unfold sendMessage
    rw [hactive]
    exact .refl manager
  | some active =>
    rw [sendMessage_of_active hactive]
    refine { refl manager with sent := fun message hmessage => ?_ }
    refine (List.mem_append.mp hmessage).imp id fun hnew => ?_
    rw [mem_delivered hnew]
    exact ⟨result, rfl, hresult⟩

theorem of_manual {manual : PairingSnapshot} (hmanual : manager.manualSnapshot = some manual)
    {state : PairingState} (hstate : state.isTerminal = true)
    (failureReason : PairingFailureReason) :
    Advanced manager
      { manager with manualSnapshot := some { manual with state, failureReason } } :=
  { refl manager with
    session := .inr ⟨manual, _, hmanual, rfl, rfl, rfl, .inr hstate, rfl⟩ }

theorem of_fail (hmanual : manager.manualSnapshot = none) (error : PairingOperationError)
    (diagnostic : QString) (reason : PairingFailureReason) :
    Advanced manager (manager.failState error diagnostic reason io).2 := by
  unfold failState
  split
  · exact of_acts hmanual (PairingStateMachine.acts_fail _ _ _ _)
  · exact .refl manager

end Advanced

/-- The clock ends a session that is running and past its expiry. -/
theorem expireIfNeeded_cases (now : QDateTime) (manager : PairingManager) :
    (manager.expireIfNeeded now = (false, manager) ∧ ∀ snapshot ∈ manager.snapshot,
      snapshot.state.isTerminal = true ∨ before now snapshot.expiresAtUtc = true) ∨
    ((manager.expireIfNeeded now).1 = true ∧ Advanced manager (manager.expireIfNeeded now).2 ∧
      ∃ snapshot, manager.snapshot = some snapshot ∧ snapshot.state.isTerminal = false ∧
        before now snapshot.expiresAtUtc = false ∧
        (manager.expireIfNeeded now).2.snapshot =
          some { snapshot with state := .expired, failureReason := .expired }) := by
  obtain ⟨localDevice, stateMachine, active, manual, store, files, sent⟩ := manager
  unfold expireIfNeeded
  cases manual with
  | some manual =>
    dsimp only
    by_cases hpast : ¬ manual.state.isTerminal = true ∧ notAfter manual.expiresAtUtc now = true
    · rw [if_pos hpast]
      refine .inr ⟨rfl, .of_manual rfl rfl _, manual, rfl, eq_false_of_ne_true hpast.1, ?_, rfl⟩
      unfold before
      rw [hpast.2]
      rfl
    · rw [if_neg hpast]
      refine .inl ⟨rfl, fun snapshot hsnapshot => ?_⟩
      obtain rfl : manual = snapshot := Option.some.inj hsnapshot
      unfold before
      by_cases hended : manual.state.isTerminal = true
      · exact .inl hended
      · rw [eq_false_of_ne_true fun hafter => hpast ⟨hended, hafter⟩]
        exact .inr rfl
  | none =>
    dsimp only
    obtain ⟨hsame, hruns⟩ | ⟨snapshot, hsnapshot, hrunning, hpast, hexpired⟩ :=
      PairingStateMachine.expireIfNeeded_cases now stateMachine
    · rw [hsame]
      exact .inl ⟨rfl, hruns⟩
    · have hkeeps := PairingStateMachine.keeps_expireIfNeeded now stateMachine
      rw [hexpired] at hkeeps ⊢
      refine .inr ⟨rfl, ?_, snapshot, hsnapshot, hrunning, hpast, rfl⟩
      exact { Advanced.refl _ with session := .inl ⟨rfl, rfl, hkeeps⟩ }

theorem expired_or_same (now : QDateTime) (manager : PairingManager) :
    (∃ expired, manager.expireIfNeeded now = (true, expired) ∧ Advanced manager expired) ∨
      (manager.expireIfNeeded now = (false, manager) ∧ ∀ snapshot ∈ manager.snapshot,
        snapshot.state.isTerminal = true ∨ before now snapshot.expiresAtUtc = true) := by
  obtain hsame | ⟨hexpired, hadvanced, -⟩ := expireIfNeeded_cases now manager
  · exact .inr hsame
  · exact .inl ⟨_, Prod.ext hexpired rfl, hadvanced⟩

theorem advanced_expireIfNeeded (now : QDateTime) (manager : PairingManager) :
    Advanced manager (manager.expireIfNeeded now).2 := by
  obtain ⟨hsame, -⟩ | ⟨-, hadvanced, -⟩ := expireIfNeeded_cases now manager
  · rw [hsame]
    exact .refl manager
  · exact hadvanced

theorem Consistent.advanced {later : PairingManager} (h : manager.Consistent)
    (hadvanced : Advanced manager later) : later.Consistent := by
  obtain ⟨hnone, hlater, hkeeps⟩ | ⟨before, after, hbefore, hafter, hid, hpeer, -, hsame⟩ :=
    hadvanced.session
  · have hbacked : ∀ snapshot ∈ later.stateMachine.snapshot,
        ∃ earlier ∈ manager.stateMachine.snapshot, Advances earlier snapshot := by
      intro snapshot hsnapshot
      cases hearlier : manager.stateMachine.snapshot with
      | none => exact absurd ((hkeeps.absent hearlier).symm.trans hsnapshot) nofun
      | some earlier =>
        obtain ⟨next, hnext, hadvances⟩ := hkeeps.present earlier hearlier
        obtain rfl := Option.some.inj (hnext.symm.trans hsnapshot)
        exact ⟨earlier, rfl, hadvances⟩
    constructor
    · intro snapshot hsnapshot
      obtain ⟨earlier, hearlier, hadvances⟩ := hbacked snapshot hsnapshot
      rw [hadvances.session]
      exact h.named earlier hearlier
    · rw [hlater]
      nofun
    · intro active hactive
      obtain ⟨snapshot, hsnapshot, hid, hpeer⟩ := h.bound active (hadvanced.active ▸ hactive)
      rw [snapshot_of_manual_none hnone] at hsnapshot
      obtain ⟨next, hnext, hadvances⟩ := hkeeps.present snapshot hsnapshot
      exact ⟨next, (snapshot_of_manual_none hlater).trans hnext, hadvances.session.trans hid,
        (congrArg DeviceSnapshot.id hadvances.peer).trans hpeer⟩
    · intro active hactive _
      exact hkeeps.fingerprint.trans (h.fingerprint active (hadvanced.active ▸ hactive) hnone)
    · exact fun _ _ _ => hlater
    · intro active hactive hrole _ snapshot hsnapshot
      obtain ⟨earlier, hearlier, hadvances⟩ := hbacked snapshot hsnapshot
      obtain hconfirming | hended :=
        h.incoming active (hadvanced.active ▸ hactive) hrole hnone earlier hearlier
      · exact hadvances.confirmed hconfirming
      · rw [hadvances.ended hended]
        exact .inr hended
  · have hpresent : later.manualSnapshot ≠ none := by
      rw [hafter]
      nofun
    constructor
    · rw [hsame]
      exact h.named
    · rw [hsame]
      exact fun _ => h.manual (by rw [hbefore]; rfl)
    · intro active hactive
      obtain ⟨snapshot, hsnapshot, hbound, hpeerId⟩ := h.bound active (hadvanced.active ▸ hactive)
      obtain rfl := Option.some.inj ((snapshot_of_manual hbefore).symm.trans hsnapshot)
      exact ⟨after, snapshot_of_manual hafter, hid.trans hbound,
        (congrArg DeviceSnapshot.id hpeer).trans hpeerId⟩
    · exact fun _ _ hnone => absurd hnone hpresent
    · intro active hactive hrole
      exact absurd (hbefore.symm.trans (h.outgoing active (hadvanced.active ▸ hactive) hrole)) nofun
    · exact fun _ _ _ hnone => absurd hnone hpresent

/-- A new session on the asking side. -/
structure Starts (peer : DeviceSnapshot) (peerFingerprintSha256 : QByteArray)
    (endpoint : PairingEndpoint) (io : PairingIo) (earlier later : PairingManager) : Prop where
  named : io.uuid ≠ 0
  localDevice : later.localDevice = earlier.localDevice
  active : later.active = some
    { role := .outgoing, wireSessionId := io.uuid, peerId := peer.id, peerFingerprintSha256,
      endpoint }
  store : later.store = earlier.store
  manual : later.manualSnapshot = none
  fingerprint : later.stateMachine.peerFingerprintSha256 = peerFingerprintSha256
  snapshot : ∃ snapshot, later.stateMachine.snapshot = some snapshot ∧
    snapshot.pairingSessionId = io.uuid ∧ snapshot.peer.id = peer.id ∧
    snapshot.sixDigitSas = formatSas io.generatedSas.toNat ∧
    snapshot.expiresAtUtc = addSecs (io.now .start) earlier.options.validity
  sent : ∀ message ∈ later.sent, message ∈ earlier.sent ∨ Declines message ∨
    ∃ request, message.message = .request request

/-- A new session on the asked side. -/
structure Requests (request : PairingRequest) (source : PairingEndpoint)
    (earlier later : PairingManager) : Prop where
  localDevice : later.localDevice = earlier.localDevice
  active : later.active = some
    { role := .incoming
      wireSessionId := request.pairingSessionId
      peerId := request.sender.deviceId
      peerFingerprintSha256 := request.sender.certificateFingerprintSha256
      endpoint := source }
  store : later.store = earlier.store
  machine : later.stateMachine.Ended ∧
    ∀ snapshot ∈ later.stateMachine.snapshot, snapshot.pairingSessionId ≠ 0
  manual : ∃ manual, later.manualSnapshot = some manual ∧
    manual.pairingSessionId = request.pairingSessionId ∧
    manual.peer.id = request.sender.deviceId ∧ manual.state = .awaitingUserComparison
  sent : ∀ message ∈ later.sent, message ∈ earlier.sent ∨ Declines message

structure Submits (sessionId : QUuid) (sixDigits : QString) (active : ActiveSession)
    (earlier later : PairingManager) : Prop where
  role : active.role = .incoming
  named : active.wireSessionId = sessionId ∧ sessionId ≠ 0
  localDevice : later.localDevice = earlier.localDevice
  bound : earlier.active = some active
  awaited : ∃ manual, earlier.manualSnapshot = some manual ∧ manual.state = .awaitingUserComparison
  kept : later.active = some active
  store : later.store = earlier.store
  manual : later.manualSnapshot = none
  fingerprint : later.stateMachine.peerFingerprintSha256 = active.peerFingerprintSha256
  snapshot : ∃ snapshot, later.stateMachine.snapshot = some snapshot ∧
    snapshot.pairingSessionId = sessionId ∧ snapshot.peer.id = active.peerId ∧
    (snapshot.state = .confirming ∨ snapshot.state.isTerminal = true)
  sent : ∀ message ∈ later.sent, message ∈ earlier.sent ∨ Declines message ∨
    message = ⟨.codeSubmission ⟨sessionId, earlier.localDevice, sixDigits⟩, active.endpoint⟩

structure Commits (platform : PairingPlatform) (io : PairingIo) (active : ActiveSession)
    (earlier later : PairingManager) : Prop where
  localDevice : later.localDevice = earlier.localDevice
  bound : earlier.active = some active
  kept : later.active = some active
  manual : later.manualSnapshot = none
  snapshot : ∃ snapshot, earlier.stateMachine.snapshot = some snapshot ∧
    snapshot.state = .confirming ∧
    before (io.now .completion) snapshot.expiresAtUtc = true ∧
    later.stateMachine =
      { earlier.stateMachine with snapshot := some { snapshot with state := .completed } } ∧
    ∃ device : StoredDevice, device.deviceId = snapshot.peer.id ∧
      device.fingerprintSha256 = earlier.stateMachine.peerFingerprintSha256 ∧
      device.revoked = false ∧
      earlier.store.upsert platform.text platform.hostAddress device = .ok later.store
  sent : ∀ message ∈ later.sent, message ∈ earlier.sent ∨
    active.role = .outgoing ∧ message.endpoint = active.endpoint ∧
      ∃ result, message.message = .result result

theorem Consistent.ended (h : manager.Consistent) (hno : manager.hasNonTerminalSession = false) :
    manager.stateMachine.Ended := by
  cases hmanual : manager.manualSnapshot with
  | some manual => exact h.manual (by rw [hmanual]; rfl)
  | none =>
    intro snapshot hsnapshot
    unfold hasNonTerminalSession at hno
    rw [snapshot_of_manual_none hmanual, Option.mem_def.mp hsnapshot] at hno
    exact (Bool.not_eq_false' _).mp hno

theorem afterMachine_of_unchanged {step : MachineStep}
    (hmachine : step.machine = manager.stateMachine) (hpublished : step.published = false) :
    manager.afterMachine step = manager := by
  unfold afterMachine
  rw [hmachine, hpublished]
  rfl

theorem Starts.advanced {peer : DeviceSnapshot} {fingerprint : QByteArray}
    {endpoint : PairingEndpoint} {middle later : PairingManager}
    (h : Starts peer fingerprint endpoint io manager middle) (hadvanced : Advanced middle later) :
    Starts peer fingerprint endpoint io manager later := by
  obtain ⟨snapshot, hsnapshot, hid, hpeer, hsas, hexpiry⟩ := h.snapshot
  obtain ⟨-, hmanual, hkeeps⟩ | ⟨manual, -, hmanual, -⟩ := hadvanced.session
  · obtain ⟨next, hnext, hadvances⟩ := hkeeps.present snapshot hsnapshot
    exact
      { named := h.named
        localDevice := hadvanced.localDevice.trans h.localDevice
        active := hadvanced.active.trans h.active
        store := hadvanced.store.trans h.store
        manual := hmanual
        fingerprint := hkeeps.fingerprint.trans h.fingerprint
        snapshot := ⟨next, hnext, hadvances.session.trans hid,
          (congrArg DeviceSnapshot.id hadvances.peer).trans hpeer, hadvances.sas.trans hsas,
          hadvances.expiry.trans hexpiry⟩
        sent := fun message hmessage => (hadvanced.sent message hmessage).elim
          (h.sent message) fun hdeclines => .inr (.inl hdeclines) }
  · exact absurd (h.manual.symm.trans hmanual) nofun

theorem startPairing_cases (h : manager.Consistent) (peer : DeviceSnapshot)
    (fingerprint : QByteArray) (endpoint : PairingEndpoint) :
    (manager.startPairing platform peer fingerprint endpoint io).2 = manager ∨
      isUsableEndpoint platform endpoint = true ∧
        Starts peer fingerprint endpoint io manager
          (manager.startPairing platform peer fingerprint endpoint io).2 := by
  unfold startPairing
  split
  · exact .inl rfl
  split
  · exact .inl rfl
  split
  · exact .inl rfl
  rename_i husable
  split
  · exact .inl rfl
  rename_i hno
  extract_lets known begun after
  have hpeer : known.id = peer.id := by
    unfold known
    split <;> rfl
  obtain ⟨hfailed, hmachine, hpublished⟩ |
      ⟨hok, hpublished, hnamed, -, hfingerprint, snapshot, hsnapshot, hid, hknown, hexpiry, -, hsas⟩
    := @PairingStateMachine.beginSession_cases manager.stateMachine io.uuid known fingerprint
      (addSecs (io.now .start) manager.stateMachine.options.validity) (io.now .beginExpiry)
      (io.now .beginSession) none io.generatedSas (h.ended (eq_false_of_ne_true hno))
  · left
    have hfailed : begun.result.ok = false := hfailed
    rw [hfailed]
    exact afterMachine_of_unchanged hmachine hpublished
  refine .inr ⟨not_not.mp husable, ?_⟩
  have hok : begun.result.ok = true := hok
  have hsnapshot : begun.machine.snapshot = some snapshot := hsnapshot
  rw [hok, hsnapshot]
  dsimp only
  have hbase (request : PairingRequest) (active : ActiveSession)
      (hactive : active = { role := .outgoing
                            wireSessionId := snapshot.pairingSessionId
                            peerId := snapshot.peer.id
                            peerFingerprintSha256 := fingerprint
                            endpoint }) :
      Starts peer fingerprint endpoint io manager
        (sendMessage (.request request) io { after with active := some active }).2 := by
    have hmanual : after.manualSnapshot = none := if_pos hpublished
    rw [hid, hknown, hpeer] at hactive
    rw [sendMessage_of_active rfl]
    exact
      { named := hnamed
        localDevice := rfl
        active := congrArg some hactive
        store := rfl
        manual := hmanual
        fingerprint := hfingerprint
        snapshot := ⟨snapshot, hsnapshot, hid, (congrArg DeviceSnapshot.id hknown).trans hpeer,
          hsas, hexpiry⟩
        sent := fun message hmessage => (List.mem_append.mp hmessage).imp id fun hnew =>
          .inr ⟨request, congrArg SentMessage.message (mem_delivered hnew)⟩ }
  have hready := hbase ⟨snapshot.pairingSessionId, after.localDevice, snapshot.expiresAtUtc⟩ _ rfl
  split
  · exact hready.advanced (.of_fail hready.manual _ _ _)
  have hreadied := Advanced.of_acts hready.manual
    (PairingStateMachine.acts_markTransportReady snapshot.pairingSessionId
      (io.now .transportReady) _)
  split
  · exact hready.advanced hreadied
  · have hmanual := (hready.advanced hreadied).manual
    exact (hready.advanced hreadied).advanced (.of_acts hmanual
      (PairingStateMachine.acts_markTranscriptExchanged _ _ _))

theorem handleRequest_cases (h : manager.Consistent) (request : PairingRequest)
    (source : PairingEndpoint) :
    (manager.handleRequest request source io).2 = manager ∨
      manager.hasNonTerminalSession = false ∧
        Requests request source manager (manager.handleRequest request source io).2 := by
  unfold handleRequest
  split
  · exact .inl rfl
  split
  · split <;> exact .inl rfl
  rename_i hno
  split
  · exact .inl rfl
  · have hno := eq_false_of_ne_true hno
    exact .inr ⟨hno,
      { localDevice := rfl
        active := rfl
        store := rfl
        machine := ⟨h.ended hno, h.named⟩
        manual := ⟨_, rfl, rfl, rfl, rfl⟩
        sent := fun _ hmessage => .inl hmessage }⟩

/-- The outcomes of `validateBoundMessage` and `validateLocal`. -/
theorem validateBoundMessage_eq_ok {sessionId : QUuid} {source : PairingEndpoint} {role : Role}
    (h : manager.validateBoundMessage sessionId source role = .ok active) :
    manager.active = some active ∧ active.wireSessionId = sessionId ∧ active.endpoint = source ∧
      active.role = role := by
  unfold validateBoundMessage at h
  split at h
  · cases h
  rename_i current hcurrent
  split_ifs at h with hsession hendpoint hrole
  cases h
  exact ⟨hcurrent, not_not.mp hsession, not_not.mp hendpoint, not_not.mp hrole⟩

theorem validateBoundMessage_of_active (h : manager.active = some active) :
    manager.validateBoundMessage active.wireSessionId active.endpoint active.role = .ok active := by
  unfold validateBoundMessage
  rw [h]
  dsimp only
  rw [if_neg (not_not_intro rfl), if_neg (not_not_intro rfl), if_neg (not_not_intro rfl)]

theorem validateLocal_eq_ok {sessionId : QUuid} {role : Role}
    (h : manager.validateLocal sessionId role = .ok active) :
    manager.active = some active ∧ active.wireSessionId = sessionId ∧ active.role = role := by
  obtain ⟨hactive, hsession, -, hrole⟩ := validateBoundMessage_eq_ok h
  exact ⟨hactive, hsession, hrole⟩

theorem advanced_cancel (sessionId : QUuid) :
    Advanced manager (manager.cancel sessionId io).2 := by
  unfold cancel
  split
  · exact .refl manager
  split
  · exact .refl manager
  have hexpired := advanced_expireIfNeeded (io.now .expiry) manager
  split
  · rename_i expired hexpiry
    rw [hexpiry] at hexpired
    exact hexpired
  · rename_i current hexpiry
    rw [hexpiry] at hexpired
    dsimp only
    have hsent : Advanced manager (current.sendMessage
        (.result { pairingSessionId := sessionId, failureReason := .cancelled }) io).2 :=
      hexpired.trans (.of_send rfl)
    split
    · rename_i manual hmanual
      exact hsent.trans (.of_manual hmanual rfl _)
    · rename_i hmanual
      have hcancelled := Advanced.of_acts hmanual
        (PairingStateMachine.acts_reject sessionId .cancelled (io.now .finish) _)
      split <;> exact hsent.trans hcancelled

theorem revoke_cases (deviceId : DeviceId) :
    Advanced manager (manager.revoke deviceId io).2 ∨
      ∃ files, (manager.revoke deviceId io).2 =
        { manager with store := (manager.store.revoke deviceId).2, files } := by
  unfold revoke
  dsimp only
  split
  · exact .inl (.refl manager)
  split
  · exact .inl { Advanced.refl manager with }
  · exact .inr ⟨_, rfl⟩

theorem commitTrust_cases (hmanual : manager.manualSnapshot = none)
    (hactive : manager.active = some active) (sessionId : QUuid) :
    ((manager.commitTrust platform sessionId io).1.ok = false ∧
        Advanced manager (manager.commitTrust platform sessionId io).2) ∨
      ((manager.commitTrust platform sessionId io).1.ok = true ∧
        Commits platform io active manager (manager.commitTrust platform sessionId io).2) := by
  unfold commitTrust
  dsimp only
  obtain ⟨hfailed, hstore, hacts⟩ |
      ⟨hok, hpublished, snapshot, hsnapshot, -, hstate, hbefore, hmachine, hupsert⟩ :=
    @PairingTrustCommitter.commit_cases platform manager.stateMachine manager.store manager.files
      sessionId {} io.saveFaults io.rollbackFaults (io.now .finish) (io.now .completion)
  · exact .inl ⟨hfailed, { Advanced.of_acts hmanual hacts with store := hstore }⟩
  · refine .inr ⟨hok, ?_⟩
    exact
      { localDevice := rfl
        bound := hactive
        kept := hactive
        manual := if_pos hpublished
        snapshot := ⟨snapshot, hsnapshot, hstate, hbefore, hmachine, _, rfl, rfl, rfl, hupsert⟩
        sent := fun _ hmessage => .inl hmessage }

theorem Commits.send {middle : PairingManager} (h : Commits platform io active manager middle)
    (hrole : active.role = .outgoing) (result : PairingResultMessage) :
    Commits platform io active manager (middle.sendMessage (.result result) io).2 := by
  rw [sendMessage_of_active h.kept]
  refine { h with sent := fun other hother => ?_ }
  obtain hbefore | hnew := List.mem_append.mp hother
  · exact h.sent other hbefore
  · rw [mem_delivered hnew]
    exact .inr ⟨hrole, rfl, result, rfl⟩

theorem finalizeOutgoing_cases (hmanual : manager.manualSnapshot = none)
    (hactive : manager.active = some active) (hrole : active.role = .outgoing) :
    Advanced manager (manager.finalizeOutgoing platform io).2 ∨
      (active.localConfirmed = true ∧ active.remoteCodeMatched = true ∧
        Commits platform io active manager (manager.finalizeOutgoing platform io).2) := by
  unfold finalizeOutgoing
  split
  case h_2 => exact .inl (.refl manager)
  rename_i current bound hcurrent hbound
  obtain rfl : active = bound := Option.some.inj (hactive.symm.trans hbound)
  split
  · exact .inl (.refl manager)
  rename_i hready
  obtain ⟨-, hconfirmed, hmatched⟩ : current.state = .confirming ∧ active.localConfirmed = true ∧
      active.remoteCodeMatched = true := by
    simpa [not_or] using hready
  dsimp only
  obtain ⟨hfailed, hadvanced⟩ | ⟨hok, hcommits⟩ :=
    @commitTrust_cases platform manager io active hmanual hactive current.pairingSessionId
  · rw [hfailed]
    exact .inl (hadvanced.trans (.of_send rfl))
  · rw [hok]
    exact .inr ⟨hconfirmed, hmatched, hcommits.send hrole _⟩

theorem confirmMatchingSas_cases (h : manager.Consistent) (sessionId : QUuid) :
    Advanced manager (manager.confirmMatchingSas platform sessionId io).2 ∨
      ∃ active snapshot, manager.active = some active ∧ active.role = .outgoing ∧
        active.wireSessionId = sessionId ∧ manager.stateMachine.snapshot = some snapshot ∧
        snapshot.state.isTerminal = false ∧ before (io.now .expiry) snapshot.expiresAtUtc = true ∧
        (let confirmed := { active with localConfirmed := true }
         let middle := { manager with active := some confirmed }
         Advanced middle (manager.confirmMatchingSas platform sessionId io).2 ∨
          (active.remoteCodeMatched = true ∧
            Commits platform io confirmed middle
              (manager.confirmMatchingSas platform sessionId io).2)) := by
  unfold confirmMatchingSas
  split
  · exact .inl (.refl manager)
  rename_i active hvalid
  obtain ⟨hactive, hsession, hrole⟩ := validateLocal_eq_ok hvalid
  have hmanual := h.outgoing active hactive hrole
  split
  · exact .inl (.refl manager)
  obtain ⟨expired, hexpired, hadvanced⟩ | ⟨hsame, hruns⟩ := expired_or_same (io.now .expiry) manager
  · rw [hexpired]
    exact .inl hadvanced
  rw [hsame]
  dsimp only
  split
  · exact .inl (.refl manager)
  rename_i snapshot hsnapshot
  split
  · exact .inl (.refl manager)
  rename_i hstate
  split
  · exact .inl (.refl manager)
  have hrunning : snapshot.state.isTerminal = false := by
    obtain hawaiting | hconfirming : snapshot.state = .awaitingUserComparison ∨
        snapshot.state = .confirming := by
      rwa [not_and_or, not_not, not_not] at hstate
    · rw [hawaiting]
      rfl
    · rw [hconfirming]
      rfl
  have hbefore : before (io.now .expiry) snapshot.expiresAtUtc = true :=
    (hruns snapshot ((snapshot_of_manual_none hmanual).trans hsnapshot)).resolve_left
      (by rw [hrunning]; nofun)
  refine .inr ⟨active, snapshot, hactive, hrole, hsession, hsnapshot, hrunning, hbefore, ?_⟩
  split
  · obtain hadvanced | ⟨-, hmatched, hcommits⟩ :=
      @finalizeOutgoing_cases platform
        { manager with active := some { active with localConfirmed := true } } io
        { active with localConfirmed := true } hmanual rfl hrole
    · exact .inl hadvanced
    · exact .inr ⟨hmatched, hcommits⟩
  · exact .inl (.refl _)

structure Matches (submission : PairingCodeSubmission) (source : PairingEndpoint) (io : PairingIo)
    (active : ActiveSession) (snapshot : PairingSnapshot) : Prop where
  session : submission.pairingSessionId = active.wireSessionId
  source : source = active.endpoint
  deviceId : submission.sender.deviceId = active.peerId
  fingerprint : submission.sender.certificateFingerprintSha256 = active.peerFingerprintSha256
  sas : submission.sixDigitSas = snapshot.sixDigitSas
  before : before (io.now .comparison) snapshot.expiresAtUtc = true

/-- The asking side takes a code only from its peer, and only its own, before the expiry. -/
theorem handleSubmission_cases (h : manager.Consistent) (submission : PairingCodeSubmission)
    (source : PairingEndpoint) :
    Advanced manager (manager.handleSubmission platform submission source io).2 ∨
      ∃ active snapshot, manager.active = some active ∧ active.role = .outgoing ∧
        manager.stateMachine.snapshot = some snapshot ∧
        snapshot.state = .awaitingUserComparison ∧
        Matches submission source io active snapshot ∧
        (let matched := { active with remoteCodeMatched := true }
         let middle :=
          { manager with
            active := some matched
            stateMachine :=
              { manager.stateMachine with snapshot := some { snapshot with state := .confirming } } }
         Advanced middle (manager.handleSubmission platform submission source io).2 ∨
          (active.localConfirmed = true ∧
            Commits platform io matched middle
              (manager.handleSubmission platform submission source io).2)) := by
  unfold handleSubmission
  split
  · exact .inl (.refl manager)
  rename_i active hvalid
  obtain ⟨hactive, hsession, hendpoint, hrole⟩ := validateBoundMessage_eq_ok hvalid
  have hmanual := h.outgoing active hactive hrole
  split
  · exact .inl (.refl manager)
  rename_i hpeer
  obtain ⟨hpeerId, hfingerprint⟩ := not_or.mp hpeer
  obtain ⟨expired, hexpired, hadvanced⟩ | ⟨hsame, hruns⟩ := expired_or_same (io.now .expiry) manager
  · rw [hexpired]
    exact .inl hadvanced
  rw [hsame]
  dsimp only
  split
  · exact .inl (.refl manager)
  rename_i hawaiting
  obtain ⟨snapshot, hsnapshot, hstate⟩ : ∃ snapshot, manager.stateMachine.snapshot = some snapshot ∧
      snapshot.state = .awaitingUserComparison := by
    simpa [Option.any_eq_true] using hawaiting
  obtain ⟨hacts, hok⟩ := PairingStateMachine.submitDisplayedSas_cases submission.pairingSessionId
    submission.sixDigitSas (io.now .comparison) manager.stateMachine
  have hcompared := Advanced.of_acts hmanual hacts
  split
  · left
    split
    · split <;> exact hcompared.trans (.of_send rfl)
    · have hrejected := hcompared.trans (.of_acts (hcompared.manual_none hmanual)
        (PairingStateMachine.acts_reject submission.pairingSessionId .codeMismatch
          (io.now .finish) _))
      split <;> exact hrejected.trans (.of_send rfl)
  · rename_i hmatched
    obtain ⟨current, hcurrent, -, hsas, hbefore, hmachine, hpublished⟩ := hok (not_not.mp hmatched)
    obtain rfl := Option.some.inj (hsnapshot.symm.trans hcurrent)
    refine .inr ⟨active, snapshot, hactive, hrole, hsnapshot, hstate, ⟨hsession.symm,
      hendpoint.symm, not_not.mp hpeerId, not_not.mp hfingerprint, hsas, hbefore⟩, ?_⟩
    have hafter : manager.afterMachine (manager.stateMachine.submitDisplayedSas
        submission.pairingSessionId submission.sixDigitSas (io.now .comparison)) =
        { manager with
          stateMachine :=
            { manager.stateMachine with
              snapshot := some { snapshot with state := .confirming } } } := by
      unfold afterMachine
      rw [hmachine, hpublished, if_pos rfl, hmanual]
    rw [hafter]
    split
    · rename_i hconfirmed
      obtain hadvanced | ⟨-, -, hcommits⟩ :=
        @finalizeOutgoing_cases platform
          { manager with
            active := some { active with remoteCodeMatched := true }
            stateMachine :=
              { manager.stateMachine with
                snapshot := some { snapshot with state := .confirming } } } io
          { active with remoteCodeMatched := true } hmanual rfl hrole
      · exact .inl hadvanced
      · exact .inr ⟨hconfirmed, hcommits⟩
    · exact .inl (.refl _)

theorem handleResult_cases (h : manager.Consistent) (message : PairingResultMessage)
    (source : PairingEndpoint) :
    Advanced manager (manager.handleResult platform message source io).2 ∨
      ∃ active, active.role = .incoming ∧ active.wireSessionId = message.pairingSessionId ∧
        active.endpoint = source ∧ message.accepted = true ∧ manager.manualSnapshot = none ∧
        Commits platform io active manager (manager.handleResult platform message source io).2 := by
  unfold handleResult
  split
  · exact .inl (.refl manager)
  rename_i active hvalid
  obtain ⟨hactive, hsession, hendpoint, hrole⟩ := validateBoundMessage_eq_ok hvalid
  obtain ⟨expired, hexpired, hadvanced⟩ | ⟨hsame, -⟩ := expired_or_same (io.now .expiry) manager
  · rw [hexpired]
    exact .inl hadvanced
  rw [hsame]
  dsimp only
  split
  · rename_i manual _ hmanual
    exact .inl (.of_manual hmanual rfl _)
  split
  · exact .inl (.refl manager)
  rename_i hconfirming
  obtain ⟨snapshot, hsnapshot, hstate⟩ : ∃ snapshot, manager.stateMachine.snapshot = some snapshot ∧
      snapshot.state = .confirming := by
    simpa [Option.any_eq_true] using hconfirming
  -- A snapshot kept by hand stands only where no session of the machine runs.
  have hmanual : manager.manualSnapshot = none := by
    cases hkept : manager.manualSnapshot with
    | none => rfl
    | some manual =>
      have hended := h.manual (by rw [hkept]; rfl) snapshot hsnapshot
      rw [hstate] at hended
      cases hended
  split
  · exact .inl (.of_fail hmanual _ _ _)
  rename_i haccepted
  obtain ⟨-, hadvanced⟩ | ⟨-, hcommits⟩ :=
    @commitTrust_cases platform manager io active hmanual hactive message.pairingSessionId
  · exact .inl hadvanced
  · exact .inr ⟨active, hrole, hsession, hendpoint, not_not.mp haccepted, hmanual, hcommits⟩

structure Moved (sixDigits : QString) (active : ActiveSession) (allowed : PairingState → Prop)
    (earlier later : PairingManager) : Prop where
  localDevice : later.localDevice = earlier.localDevice
  kept : later.active = some active
  store : later.store = earlier.store
  sent : later.sent = earlier.sent
  manual : later.manualSnapshot = none
  fingerprint : later.stateMachine.peerFingerprintSha256 = active.peerFingerprintSha256
  snapshot : ∃ snapshot, later.stateMachine.snapshot = some snapshot ∧
    snapshot.pairingSessionId = active.wireSessionId ∧ snapshot.peer.id = active.peerId ∧
    snapshot.sixDigitSas = sixDigits ∧ allowed snapshot.state

section Moved

variable {sixDigits : QString} {allowed next : PairingState → Prop} {middle : PairingManager}

theorem Moved.act (h : Moved sixDigits active allowed manager middle) {step : MachineStep}
    {before after : PairingSnapshot} (hbefore : middle.stateMachine.snapshot = some before)
    (hpublished : step.published = true)
    (hmachine : step.machine = { middle.stateMachine with snapshot := some after })
    (hadvances : Advances before after) (hnext : next after.state) :
    Moved sixDigits active next manager (middle.afterMachine step) where
  localDevice := h.localDevice
  kept := h.kept
  store := h.store
  sent := h.sent
  manual := if_pos hpublished
  fingerprint := (congrArg PairingStateMachine.peerFingerprintSha256 hmachine).trans h.fingerprint
  snapshot := by
    obtain ⟨snapshot, hsnapshot, hid, hpeer, hsas, -⟩ := h.snapshot
    obtain rfl := Option.some.inj (hbefore.symm.trans hsnapshot)
    exact ⟨after, congrArg PairingStateMachine.snapshot hmachine, hadvances.session.trans hid,
      (congrArg DeviceSnapshot.id hadvances.peer).trans hpeer, hadvances.sas.trans hsas, hnext⟩

theorem Moved.submits (h : Moved sixDigits active allowed manager middle)
    (hallowed : ∀ state, allowed state → state = .confirming ∨ state.isTerminal = true)
    (hactive : manager.active = some active) (hrole : active.role = .incoming)
    (hnamed : active.wireSessionId ≠ 0)
    (hawaited : ∃ manual, manager.manualSnapshot = some manual ∧
      manual.state = .awaitingUserComparison) :
    Submits active.wireSessionId sixDigits active manager middle where
  role := hrole
  named := ⟨rfl, hnamed⟩
  localDevice := h.localDevice
  bound := hactive
  awaited := hawaited
  kept := h.kept
  store := h.store
  manual := h.manual
  fingerprint := h.fingerprint
  snapshot := by
    obtain ⟨snapshot, hsnapshot, hid, hpeer, -, hstate⟩ := h.snapshot
    exact ⟨snapshot, hsnapshot, hid, hpeer, hallowed snapshot.state hstate⟩
  sent message hmessage := .inl (h.sent ▸ hmessage)

theorem Submits.advanced {sessionId : QUuid} {later : PairingManager}
    (h : Submits sessionId sixDigits active manager middle) (hadvanced : Advanced middle later) :
    Submits sessionId sixDigits active manager later := by
  obtain ⟨snapshot, hsnapshot, hid, hpeer, hstate⟩ := h.snapshot
  obtain ⟨-, hmanual, hkeeps⟩ | ⟨manual, -, hmanual, -⟩ := hadvanced.session
  · obtain ⟨next, hnext, hadvances⟩ := hkeeps.present snapshot hsnapshot
    exact
      { h with
        localDevice := hadvanced.localDevice.trans h.localDevice
        kept := hadvanced.active.trans h.kept
        store := hadvanced.store.trans h.store
        manual := hmanual
        fingerprint := hkeeps.fingerprint.trans h.fingerprint
        snapshot := ⟨next, hnext, hadvances.session.trans hid,
          (congrArg DeviceSnapshot.id hadvances.peer).trans hpeer, hstate.elim hadvances.confirmed
            fun hended => .inr (by rw [hadvances.ended hended]; exact hended)⟩
        sent := fun message hmessage => (hadvanced.sent message hmessage).elim
          (h.sent message) fun hdeclines => .inr (.inl hdeclines) }
  · exact absurd (h.manual.symm.trans hmanual) nofun

end Moved

theorem beginBound_cases (h : manager.Consistent) {manual : PairingSnapshot}
    (hmanual : manager.manualSnapshot = some manual)
    (hawaiting : manual.state = .awaitingUserComparison) (hactive : manager.active = some active)
    (hrole : active.role = .incoming) {sixDigits : QString}
    (hdigits : isSixDigits sixDigits = true) :
    let result := manager.beginBound active.wireSessionId sixDigits manual active io
    result.2 = manager ∨
      Submits active.wireSessionId sixDigits active manager result.2 := by
  intro result
  have hresult : result = manager.beginBound active.wireSessionId sixDigits manual active io := rfl
  clear_value result
  subst hresult
  obtain ⟨kept, hkept, hmanualId, hmanualPeer⟩ := h.bound active hactive
  obtain rfl := Option.some.inj ((snapshot_of_manual hmanual).symm.trans hkept)
  unfold beginBound
  extract_lets begun begunManager ready readied exchanged exchangedManager submitted
    submittedManager
  obtain ⟨hfailed, hmachine, hpublished⟩ |
      ⟨hok, hpublished, hnamed, -, hfingerprint, snapshot, hsnapshot, hid, hpeer, -, hstate, hsas⟩
    := @PairingStateMachine.beginSession_cases manager.stateMachine active.wireSessionId
      manual.peer active.peerFingerprintSha256 manual.expiresAtUtc (io.now .beginExpiry)
      (io.now .beginSession) (some sixDigits) io.generatedSas (h.manual (by rw [hmanual]; rfl))
  · left
    have hfailed : begun.result.ok = false := hfailed
    rw [hfailed]
    exact afterMachine_of_unchanged hmachine hpublished
  right
  have hok : begun.result.ok = true := hok
  rw [if_neg (not_not_intro hok)]
  have hbegun : Moved sixDigits active (· = .requesting) manager begunManager :=
    { localDevice := rfl
      kept := hactive
      store := rfl
      sent := rfl
      manual := if_pos hpublished
      fingerprint := hfingerprint
      snapshot := ⟨snapshot, hsnapshot, hid, (congrArg DeviceSnapshot.id hpeer).trans hmanualPeer,
        hsas, hstate⟩ }
  have hrunning : snapshot.state.isTerminal = false := by rw [hstate]; rfl
  -- Each of the three actions is refused only by the expiry, which ends the session.
  have hexpired {required : PairingState} {middle : PairingManager} {step : MachineStep}
      {current : PairingSnapshot} (hmoved : Moved sixDigits active (· = required) manager middle)
      (hcurrent : middle.stateMachine.snapshot = some current)
      (hcurrentRuns : current.state.isTerminal = false) (hpublished : step.published = true)
      (hmachine : step.machine = middle.stateMachine.moveTo .expired .expired current) :
      Submits active.wireSessionId sixDigits active manager (middle.afterMachine step) := by
    have hended : Moved sixDigits active (·.isTerminal = true) manager
        (middle.afterMachine step) :=
      hmoved.act hcurrent hpublished hmachine (.of_running hcurrentRuns fun _ => rfl) rfl
    exact hended.submits (fun _ => .inr) hactive hrole hnamed ⟨manual, hmanual, hawaiting⟩
  obtain ⟨hreadyPublished, ⟨hready, hreadyMachine⟩ | ⟨hready, hreadyMachine⟩⟩ :=
    @PairingStateMachine.transition_of_running begunManager.stateMachine snapshot
      active.wireSessionId .requesting .exchangingTranscript hsnapshot hid hnamed hstate rfl
      (io.now .transportReady)
  case inr =>
    have hready : ready.result.ok = false := hready
    rw [hready]
    exact hexpired hbegun hsnapshot hrunning hreadyPublished hreadyMachine
  have hready : ready.result.ok = true := hready
  rw [if_neg (not_not_intro hready)]
  have hreadied : Moved sixDigits active (· = .exchangingTranscript) manager readied :=
    hbegun.act hsnapshot hreadyPublished hreadyMachine
      (.of_running hrunning fun hconfirming => absurd (hstate.symm.trans hconfirming) nofun) rfl
  obtain ⟨readySnapshot, hreadySnapshot, hreadyId, -, hreadySas, hreadyState⟩ := hreadied.snapshot
  have hreadyRuns : readySnapshot.state.isTerminal = false := by rw [hreadyState]; rfl
  obtain ⟨hexchangedPublished, ⟨hexchanged, hexchangedMachine⟩ |
      ⟨hexchanged, hexchangedMachine⟩⟩ :=
    @PairingStateMachine.transition_of_running readied.stateMachine readySnapshot
      active.wireSessionId .exchangingTranscript .awaitingUserComparison hreadySnapshot hreadyId
      hnamed hreadyState rfl (io.now .transcriptExchanged)
  case inr =>
    have hexchanged : exchanged.result.ok = false := hexchanged
    rw [hexchanged]
    exact hexpired hreadied hreadySnapshot hreadyRuns hexchangedPublished hexchangedMachine
  have hexchanged : exchanged.result.ok = true := hexchanged
  rw [if_neg (not_not_intro hexchanged)]
  have hawaits : Moved sixDigits active (· = .awaitingUserComparison) manager exchangedManager :=
    hreadied.act hreadySnapshot hexchangedPublished hexchangedMachine (.of_running hreadyRuns
      fun hconfirming => absurd (hreadyState.symm.trans hconfirming) nofun) rfl
  obtain ⟨current, hcurrent, hcurrentId, -, hcurrentSas, hcurrentState⟩ := hawaits.snapshot
  have hcurrentRuns : current.state.isTerminal = false := by rw [hcurrentState]; rfl
  obtain ⟨hsubmittedPublished, ⟨hsubmitted, hsubmittedMachine⟩ |
      ⟨hsubmitted, hsubmittedMachine⟩⟩ :=
    PairingStateMachine.submitDisplayedSas_of_running hcurrent hcurrentId hnamed hcurrentState
      hdigits hcurrentSas.symm (io.now .comparison)
  case inr =>
    have hsubmitted : submitted.result.ok = false := hsubmitted
    rw [hsubmitted]
    exact hexpired hawaits hcurrent hcurrentRuns hsubmittedPublished hsubmittedMachine
  have hsubmitted : submitted.result.ok = true := hsubmitted
  rw [if_neg (not_not_intro hsubmitted)]
  have hconfirming : Moved sixDigits active (· = .confirming) manager submittedManager :=
    hawaits.act hcurrent hsubmittedPublished hsubmittedMachine (.of_running hcurrentRuns
      fun hconfirming => absurd (hcurrentState.symm.trans hconfirming) nofun) rfl
  have hsubmits := hconfirming.submits (fun _ => .inl) hactive hrole hnamed
    ⟨manual, hmanual, hawaiting⟩
  have hsends : Submits active.wireSessionId sixDigits active manager
      (submittedManager.sendMessage
        (.codeSubmission ⟨active.wireSessionId, submittedManager.localDevice, sixDigits⟩) io).2 := by
    rw [sendMessage_of_active hsubmits.kept]
    refine { hsubmits with sent := fun message hmessage => ?_ }
    obtain hold | hnew := List.mem_append.mp hmessage
    · exact hsubmits.sent message hold
    · exact .inr (.inr (mem_delivered hnew))
  dsimp only
  split
  · exact hsends.advanced (.of_fail hsends.manual _ _ _)
  · exact hsends

theorem submitDisplayedSas_cases (h : manager.Consistent) (sessionId : QUuid)
    (sixDigits : QString) :
    Advanced manager (manager.submitDisplayedSas sessionId sixDigits io).2 ∨
      ∃ active, Submits sessionId sixDigits active manager
        (manager.submitDisplayedSas sessionId sixDigits io).2 := by
  unfold submitDisplayedSas
  split
  · exact .inl (.refl manager)
  rename_i active hvalid
  obtain ⟨hactive, rfl, hrole⟩ := validateLocal_eq_ok hvalid
  split
  · exact .inl (.refl manager)
  obtain ⟨expired, hexpired, hadvanced⟩ | ⟨hsame, -⟩ := expired_or_same (io.now .expiry) manager
  · rw [hexpired]
    exact .inl hadvanced
  rw [hsame]
  dsimp only
  split
  · exact .inl (.refl manager)
  rename_i manual hmanual
  split
  · exact .inl (.refl manager)
  rename_i hawaiting
  split
  · exact .inl (.refl manager)
  rename_i hdigits
  obtain hunchanged | hsubmits :=
    beginBound_cases h hmanual (not_not.mp hawaiting) hactive hrole (not_not.mp hdigits)
  · rw [hunchanged]
    exact .inl (.refl manager)
  · exact .inr ⟨active, hsubmits⟩

end PairingManager

end DeskflowPlus.Pairing
