import DeskflowPlus.Pairing.PairingEffects

/-!
# Every run of a pairing manager is consistent

The effects of the operations, event by event. Each of them keeps the manager consistent, so every
run does.
-/

namespace DeskflowPlus.Pairing

open Transfer Trust

namespace PairingManager

variable {platform : PairingPlatform} {manager : PairingManager} {io : PairingIo}
  {active : ActiveSession}

inductive Effect (platform : PairingPlatform) (call : PairingCall)
    (earlier later : PairingManager) : Prop
  | advances (h : Advanced earlier later)
  | revokes {deviceId : DeviceId} {files : StoreFiles} (hevent : call.event = .revoke deviceId)
      (h : later = { earlier with store := (earlier.store.revoke deviceId).2, files })
  | starts {peer : DeviceSnapshot} {peerFingerprintSha256 : QByteArray}
      {endpoint : PairingEndpoint}
      (hevent : call.event = .startPairing peer peerFingerprintSha256 endpoint)
      (husable : isUsableEndpoint platform endpoint = true)
      (h : Starts peer peerFingerprintSha256 endpoint call.io earlier later)
  | requests {request : PairingRequest} {source : PairingEndpoint}
      (hevent : call.event = .receiveDatagram (.ok (.request request)) source)
      (husable : isUsableEndpoint platform source = true)
      (h : Requests request source earlier later)
  | submits {sessionId : QUuid} {sixDigits : QString} {active : ActiveSession}
      (hevent : call.event = .submitDisplayedSas sessionId sixDigits)
      (h : Submits sessionId sixDigits active earlier later)
  | confirms {active : ActiveSession} {snapshot : PairingSnapshot}
      (hevent : call.event = .confirmMatchingSas active.wireSessionId)
      (hactive : earlier.active = some active) (hrole : active.role = .outgoing)
      (hsnapshot : earlier.stateMachine.snapshot = some snapshot)
      (hrunning : snapshot.state.isTerminal = false)
      (hbefore : before (call.io.now .expiry) snapshot.expiresAtUtc = true)
      (h : let confirmed := { active with localConfirmed := true }
        let middle := { earlier with active := some confirmed }
        Advanced middle later ∨ active.remoteCodeMatched = true ∧
          Commits platform call.io confirmed middle later)
  | accepts {submission : PairingCodeSubmission} {source : PairingEndpoint}
      {active : ActiveSession} {snapshot : PairingSnapshot}
      (hevent : call.event = .receiveDatagram (.ok (.codeSubmission submission)) source)
      (hactive : earlier.active = some active) (hrole : active.role = .outgoing)
      (hsnapshot : earlier.stateMachine.snapshot = some snapshot)
      (hstate : snapshot.state = .awaitingUserComparison)
      (hmatches : Matches submission source call.io active snapshot)
      (h : let matched := { active with remoteCodeMatched := true }
        let middle :=
          { earlier with
            active := some matched
            stateMachine :=
              { earlier.stateMachine with
                snapshot := some { snapshot with state := .confirming } } }
        Advanced middle later ∨ active.localConfirmed = true ∧
          Commits platform call.io matched middle later)
  | commits {message : PairingResultMessage} {active : ActiveSession}
      (hevent : call.event = .receiveDatagram (.ok (.result message)) active.endpoint)
      (hrole : active.role = .incoming)
      (hsession : active.wireSessionId = message.pairingSessionId)
      (haccepted : message.accepted = true)
      (h : Commits platform call.io active earlier later)

theorem Consistent.not_running (h : manager.Consistent) {ended running : PairingSnapshot}
    (hsnapshot : manager.snapshot = some ended) (hended : ended.state.isTerminal = true)
    (hmachine : manager.stateMachine.snapshot = some running) :
    running.state.isTerminal = true := by
  cases hmanual : manager.manualSnapshot with
  | some manual => exact h.manual (by rw [hmanual]; rfl) running hmachine
  | none =>
    rw [snapshot_of_manual_none hmanual, hmachine] at hsnapshot
    rw [Option.some.inj hsnapshot]
    exact hended

variable {call : PairingCall}

theorem receiveDatagram_effect (h : manager.Consistent) {decoded : PairingMessageDecodeResult}
    {source : PairingEndpoint} (hevent : call.event = .receiveDatagram decoded source) :
    Effect platform call manager (manager.receiveDatagram platform decoded source call.io).2 := by
  unfold receiveDatagram
  split
  · exact .advances (.refl manager)
  rename_i husable
  split
  · exact .advances (.refl manager)
  rename_i message
  extract_lets current
  have hcurrent : Advanced manager current := advanced_expireIfNeeded _ manager
  have hconsistent : current.Consistent := h.advanced hcurrent
  -- The first reading of the clock leaves the manager alone, or nothing runs any more.
  have hrunning : current = manager ∨ ∀ snapshot ∈ current.stateMachine.snapshot,
      snapshot.state.isTerminal = true := by
    obtain ⟨hsame, -⟩ | ⟨-, -, snapshot, -, -, -, hexpired⟩ :=
      expireIfNeeded_cases (call.io.now .datagram) manager
    · exact .inl (congrArg Prod.snd hsame)
    · exact .inr fun running hmachine => hconsistent.not_running hexpired rfl hmachine
  clear_value current
  cases message with
  | request request =>
    obtain hsame | ⟨-, hrequests⟩ :=
      @handleRequest_cases current call.io hconsistent request source
    · refine .advances ?_
      dsimp only
      rw [hsame]
      exact hcurrent
    · refine .requests hevent (not_not.mp husable) ?_
      exact { hrequests with
        localDevice := hrequests.localDevice.trans hcurrent.localDevice
        store := hrequests.store.trans hcurrent.store
        sent := fun message hmessage => (hrequests.sent message hmessage).elim
          (hcurrent.sent message) .inr }
  | codeSubmission submission =>
    obtain hadvanced | ⟨active, snapshot, hactive, hrole, hsnapshot, hstate, hmatches, heffect⟩ :=
      @handleSubmission_cases platform current call.io hconsistent submission source
    · exact .advances (hcurrent.trans hadvanced)
    · obtain hsame | hended := hrunning
      · subst hsame
        exact .accepts hevent hactive hrole hsnapshot hstate hmatches heffect
      · have hterminal := hended snapshot hsnapshot
        rw [hstate] at hterminal
        cases hterminal
  | result message =>
    obtain hadvanced | ⟨active, hrole, hsession, rfl, haccepted, -, hcommits⟩ :=
      @handleResult_cases platform current call.io hconsistent message source
    · exact .advances (hcurrent.trans hadvanced)
    · obtain hsame | hended := hrunning
      · subst hsame
        exact .commits hevent hrole hsession haccepted hcommits
      · obtain ⟨snapshot, hsnapshot, hstate, -⟩ := hcommits.snapshot
        have hterminal := hended snapshot hsnapshot
        rw [hstate] at hterminal
        cases hterminal

theorem step_effect (h : manager.Consistent) (call : PairingCall) :
    Effect platform call manager (manager.step platform call) := by
  unfold step
  split
  · rename_i peer fingerprint endpoint hevent
    obtain hsame | ⟨husable, hstarts⟩ :=
      @startPairing_cases platform manager call.io h peer fingerprint endpoint
    · rw [hsame]
      exact .advances (.refl manager)
    · exact .starts hevent husable hstarts
  · rename_i decoded source hevent
    exact receiveDatagram_effect h hevent
  · rename_i sessionId hevent
    obtain hadvanced |
        ⟨active, snapshot, hactive, hrole, rfl, hsnapshot, hrunning, hbefore, heffect⟩ :=
      @confirmMatchingSas_cases platform manager call.io h sessionId
    · exact .advances hadvanced
    · exact .confirms hevent hactive hrole hsnapshot hrunning hbefore heffect
  · rename_i sessionId sixDigits hevent
    obtain hadvanced | ⟨active, hsubmits⟩ :=
      @submitDisplayedSas_cases manager call.io h sessionId sixDigits
    · exact .advances hadvanced
    · exact .submits hevent hsubmits
  · exact .advances (advanced_cancel _)
  · rename_i deviceId hevent
    obtain hadvanced | ⟨files, hrevoked⟩ := @revoke_cases manager call.io deviceId
    · exact .advances hadvanced
    · exact .revokes hevent hrevoked
  · exact .advances (advanced_expireIfNeeded _ manager)

variable {later : PairingManager}

theorem Consistent.congr (h : manager.Consistent)
    (hmachine : later.stateMachine = manager.stateMachine)
    (hmanual : later.manualSnapshot = manager.manualSnapshot)
    (hactive : later.active = manager.active) : later.Consistent := by
  have hsnapshot : later.snapshot = manager.snapshot := by
    unfold snapshot
    rw [hmanual, hmachine]
  constructor
  · rw [hmachine]
    exact h.named
  · rw [hmanual, hmachine]
    exact h.manual
  · rw [hactive, hsnapshot]
    exact h.bound
  · rw [hactive, hmanual, hmachine]
    exact h.fingerprint
  · rw [hactive, hmanual]
    exact h.outgoing
  · rw [hactive, hmanual, hmachine]
    exact h.incoming

theorem Consistent.flag (h : manager.Consistent) (hactive : manager.active = some active)
    {flagged : ActiveSession} (hrole : flagged.role = active.role)
    (hsession : flagged.wireSessionId = active.wireSessionId)
    (hpeer : flagged.peerId = active.peerId)
    (hfingerprint : flagged.peerFingerprintSha256 = active.peerFingerprintSha256) :
    Consistent { manager with active := some flagged } where
  named := h.named
  manual := h.manual
  bound other hother := by
    obtain rfl := Option.some.inj hother
    rw [hsession, hpeer]
    exact h.bound active hactive
  fingerprint other hother hnone := by
    obtain rfl := Option.some.inj hother
    exact (h.fingerprint active hactive hnone).trans hfingerprint.symm
  outgoing other hother hout := by
    obtain rfl := Option.some.inj hother
    exact h.outgoing active hactive (hrole.symm.trans hout)
  incoming other hother hin := by
    obtain rfl := Option.some.inj hother
    exact h.incoming active hactive (hrole.symm.trans hin)

theorem Consistent.matched (h : manager.Consistent) (hactive : manager.active = some active)
    (hrole : active.role = .outgoing) {snapshot : PairingSnapshot}
    (hsnapshot : manager.stateMachine.snapshot = some snapshot)
    (hstate : snapshot.state = .awaitingUserComparison) :
    Consistent
      { manager with
        active := some { active with remoteCodeMatched := true }
        stateMachine :=
          { manager.stateMachine with
            snapshot := some { snapshot with state := .confirming } } } := by
  have hrunning : snapshot.state.isTerminal = false := by rw [hstate]; rfl
  have hconfirming : Consistent
      { manager with
        stateMachine :=
          { manager.stateMachine with
            snapshot := some { snapshot with state := .confirming } } } := by
    refine h.advanced { Advanced.refl manager with session := .inl ?_ }
    have hmanual := h.outgoing active hactive hrole
    exact ⟨hmanual, hmanual, .of_snapshot hsnapshot (.of_running hrunning fun hconfirming =>
      absurd (hstate.symm.trans hconfirming) nofun)⟩
  exact @Consistent.flag _ active hconfirming hactive { active with remoteCodeMatched := true } rfl
    rfl rfl rfl

theorem Commits.manual_none (h : manager.Consistent)
    (hcommits : Commits platform io active manager later) : manager.manualSnapshot = none := by
  obtain ⟨snapshot, hsnapshot, hstate, -⟩ := hcommits.snapshot
  cases hmanual : manager.manualSnapshot with
  | none => rfl
  | some manual =>
    have hended := h.manual (by rw [hmanual]; rfl) snapshot hsnapshot
    rw [hstate] at hended
    cases hended

theorem Consistent.commits (h : manager.Consistent)
    (hcommits : Commits platform io active manager later) : later.Consistent := by
  obtain ⟨snapshot, hsnapshot, hstate, -, hmachine, -⟩ := hcommits.snapshot
  have hkeeps : Advanced manager { later with
      store := manager.store
      sent := manager.sent } :=
    { localDevice := hcommits.localDevice
      active := hcommits.kept.trans hcommits.bound.symm
      store := rfl
      session := by
        refine .inl ⟨hcommits.manual_none h, hcommits.manual, ?_⟩
        rw [hmachine]
        exact .of_snapshot hsnapshot (.of_running (by rw [hstate]; rfl) fun _ => rfl)
      sent := fun _ hmessage => .inl hmessage }
  exact (h.advanced hkeeps).congr rfl rfl rfl

theorem Consistent.effect (h : manager.Consistent) (heffect : Effect platform call manager later) :
    later.Consistent := by
  cases heffect with
  | advances hadvanced => exact h.advanced hadvanced
  | revokes hevent hrevoked =>
    rw [hrevoked]
    exact h.congr rfl rfl rfl
  | starts hevent husable hstarts =>
    obtain ⟨snapshot, hsnapshot, hid, hpeer, -⟩ := hstarts.snapshot
    have hactive := hstarts.active
    constructor
    · intro other hother
      obtain rfl := Option.some.inj (hsnapshot.symm.trans hother)
      exact hid ▸ hstarts.named
    · rw [hstarts.manual]
      nofun
    · intro other hother
      obtain rfl := Option.some.inj (hactive.symm.trans hother)
      exact ⟨snapshot, (snapshot_of_manual_none hstarts.manual).trans hsnapshot, hid, hpeer⟩
    · intro other hother _
      obtain rfl := Option.some.inj (hactive.symm.trans hother)
      exact hstarts.fingerprint
    · exact fun _ _ _ => hstarts.manual
    · intro other hother hrole
      obtain rfl := Option.some.inj (hactive.symm.trans hother)
      cases hrole
  | requests hevent husable hrequests =>
    obtain ⟨manual, hmanual, hid, hpeer, -⟩ := hrequests.manual
    have hactive := hrequests.active
    have hpresent : later.manualSnapshot ≠ none := by
      rw [hmanual]
      nofun
    constructor
    · exact hrequests.machine.2
    · exact fun _ => hrequests.machine.1
    · intro other hother
      obtain rfl := Option.some.inj (hactive.symm.trans hother)
      exact ⟨manual, snapshot_of_manual hmanual, hid, hpeer⟩
    · exact fun _ _ hnone => absurd hnone hpresent
    · intro other hother hrole
      obtain rfl := Option.some.inj (hactive.symm.trans hother)
      cases hrole
    · exact fun _ _ _ hnone => absurd hnone hpresent
  | submits hevent hsubmits =>
    rename_i sessionId sixDigits active
    obtain ⟨snapshot, hsnapshot, hid, hpeer, hstate⟩ := hsubmits.snapshot
    constructor
    · intro other hother
      obtain rfl := Option.some.inj (hsnapshot.symm.trans hother)
      exact hid ▸ hsubmits.named.2
    · rw [hsubmits.manual]
      nofun
    · intro other hother
      obtain rfl := Option.some.inj (hsubmits.kept.symm.trans hother)
      exact ⟨snapshot, (snapshot_of_manual_none hsubmits.manual).trans hsnapshot,
        hid.trans hsubmits.named.1.symm, hpeer⟩
    · intro other hother _
      obtain rfl := Option.some.inj (hsubmits.kept.symm.trans hother)
      exact hsubmits.fingerprint
    · exact fun _ _ _ => hsubmits.manual
    · intro other hother _ _ current hcurrent
      obtain rfl := Option.some.inj (hsnapshot.symm.trans hcurrent)
      exact hstate
  | confirms hevent hactive hrole hsnapshot hrunning hbefore hmiddle =>
    rename_i active snapshot
    have hflagged : Consistent
        { manager with active := some { active with localConfirmed := true } } :=
      h.flag hactive rfl rfl rfl rfl
    exact hmiddle.elim hflagged.advanced fun hcommits => hflagged.commits hcommits.2
  | accepts hevent hactive hrole hsnapshot hstate hmatches hmiddle =>
    rename_i submission source active snapshot
    have hflagged := h.matched hactive hrole hsnapshot hstate
    exact hmiddle.elim hflagged.advanced fun hcommits => hflagged.commits hcommits.2
  | commits hevent hrole hsession haccepted hcommits => exact h.commits hcommits

theorem Consistent.step (h : manager.Consistent) (call : PairingCall) :
    (manager.step platform call).Consistent :=
  h.effect (step_effect h call)

theorem Consistent.run (h : manager.Consistent) (calls : List PairingCall) :
    (manager.run platform calls).Consistent := by
  induction calls generalizing manager with
  | nil => exact h
  | cons call rest ih => exact ih (h.step call)

/-- The endpoint of a session is one that datagrams are taken from. -/
def EndpointUsable (platform : PairingPlatform) (manager : PairingManager) : Prop :=
  ∀ active ∈ manager.active, isUsableEndpoint platform active.endpoint = true

theorem EndpointUsable.effect (h : manager.EndpointUsable platform)
    (heffect : Effect platform call manager later) :
    later.EndpointUsable platform := by
  have hof {bound : ActiveSession} (hlater : later.active = some bound)
      (husable : isUsableEndpoint platform bound.endpoint = true) : later.EndpointUsable platform := by
    intro other hother
    obtain rfl := Option.some.inj (hlater.symm.trans hother)
    exact husable
  cases heffect with
  | advances hadvanced => exact fun other hother => h other (hadvanced.active ▸ hother)
  | revokes hevent hrevoked =>
    rw [hrevoked]
    exact h
  | starts hevent husable hstarts => exact hof hstarts.active husable
  | requests hevent husable hrequests => exact hof hrequests.active husable
  | submits hevent hsubmits => exact hof hsubmits.kept (h _ hsubmits.bound)
  | confirms hevent hactive hrole hsnapshot hrunning hbefore hmiddle =>
    have husable := h _ hactive
    obtain hadvanced | ⟨-, hcommits⟩ := hmiddle
    · exact hof hadvanced.active husable
    · exact hof hcommits.kept husable
  | accepts hevent hactive hrole hsnapshot hstate hmatches hmiddle =>
    have husable := h _ hactive
    obtain hadvanced | ⟨-, hcommits⟩ := hmiddle
    · exact hof hadvanced.active husable
    · exact hof hcommits.kept husable
  | commits hevent hrole hsession haccepted hcommits =>
    exact hof hcommits.kept (h _ hcommits.bound)

theorem Fresh.endpointUsable_run (hfresh : manager.Fresh) (calls : List PairingCall) :
    (manager.run platform calls).EndpointUsable platform := by
  have hstart : manager.EndpointUsable platform := by
    intro active hactive
    rw [hfresh.2.1] at hactive
    cases hactive
  have hconsistent := hfresh.consistent
  clear hfresh
  induction calls generalizing manager with
  | nil => exact hstart
  | cons call rest ih =>
    exact ih (hstart.effect (step_effect hconsistent call)) (hconsistent.step call)

end PairingManager

end DeskflowPlus.Pairing
