import DeskflowPlus.Pairing.PairingCancellation

/-!
# Whom a pairing makes trusted

On the asking side both confirmations stand behind every commit: the history of calls since the
session was started holds the user's confirmation and the peer's code, each before the expiry. The
asked side commits on the accepted result alone. Its datagrams carry no signature, so what that is
worth depends on who can send under the asking side's address: with no one else there, the asking
side has committed first.
-/

namespace DeskflowPlus.Pairing

open Transfer Trust

namespace PairingManager

variable {platform : PairingPlatform} {manager later : PairingManager} {io : PairingIo}
  {active : ActiveSession} {call : PairingCall} {deviceId : DeviceId} {fingerprint : QByteArray}

theorem Commits.pins (h : manager.Consistent) (hcommits : Commits platform io active manager later) :
    later.store.Pins active.peerId active.peerFingerprintSha256 ∧
      ∀ deviceId fingerprint, later.store.Pins deviceId fingerprint →
        manager.store.Pins deviceId fingerprint ∨
          deviceId = active.peerId ∧ fingerprint = active.peerFingerprintSha256 := by
  obtain ⟨snapshot, hsnapshot, -, -, -, device, hid, hfingerprint, hvalid, hupsert⟩ :=
    hcommits.snapshot
  have hmanual := hcommits.manual_none h
  have hpeer : device.deviceId = active.peerId := by
    obtain ⟨bound, hbound, -, hpeer⟩ := h.bound active hcommits.bound
    obtain rfl := Option.some.inj
      (((snapshot_of_manual_none hmanual).trans hsnapshot).symm.trans hbound)
    exact hid.trans hpeer
  have hcertificate : device.fingerprintSha256 = active.peerFingerprintSha256 :=
    hfingerprint.trans (h.fingerprint active hcommits.bound hmanual)
  rw [← hpeer, ← hcertificate]
  exact ⟨DeviceStore.pins_upsert hupsert hvalid, fun _ _ => DeviceStore.pins_of_upsert hupsert⟩

def Confirmed (active : ActiveSession) (snapshot : PairingSnapshot) (call : PairingCall) : Prop :=
  call.event = .confirmMatchingSas active.wireSessionId ∧
    before (call.io.now .expiry) snapshot.expiresAtUtc = true

def CodeReceived (active : ActiveSession) (snapshot : PairingSnapshot) (call : PairingCall) : Prop :=
  ∃ submission, call.event = .receiveDatagram (.ok (.codeSubmission submission)) active.endpoint ∧
    Matches submission active.endpoint call.io active snapshot

structure StartedBy (platform : PairingPlatform) (active : ActiveSession)
    (snapshot : PairingSnapshot) (manager : PairingManager) (call : PairingCall) : Prop where
  event : ∃ peer, peer.id = active.peerId ∧
    call.event = .startPairing peer active.peerFingerprintSha256 active.endpoint
  session : active.wireSessionId = call.io.uuid
  sas : snapshot.sixDigitSas = formatSas call.io.generatedSas.toNat
  started : ∃ first, (manager.step platform call).stateMachine.snapshot = some first ∧
    first.pairingSessionId = active.wireSessionId ∧ first.sixDigitSas = snapshot.sixDigitSas ∧
    first.expiresAtUtc = snapshot.expiresAtUtc

def History (platform : PairingPlatform) (first : PairingManager) (calls : List PairingCall)
    (active : ActiveSession) (snapshot : PairingSnapshot) : Prop :=
  ∃ before start after, calls = before ++ start :: after ∧
    StartedBy platform active snapshot (first.run platform before) start ∧
    (active.localConfirmed = true → ∃ call ∈ after, Confirmed active snapshot call) ∧
    (active.remoteCodeMatched = true → ∃ call ∈ after, CodeReceived active snapshot call)

/-- The binding and the terms of a session, without its marks. -/
structure SameSession (active : ActiveSession) (snapshot : PairingSnapshot)
    (laterActive : ActiveSession) (laterSnapshot : PairingSnapshot) : Prop where
  session : laterActive.wireSessionId = active.wireSessionId
  peerId : laterActive.peerId = active.peerId
  fingerprint : laterActive.peerFingerprintSha256 = active.peerFingerprintSha256
  endpoint : laterActive.endpoint = active.endpoint
  sas : laterSnapshot.sixDigitSas = snapshot.sixDigitSas
  expiry : laterSnapshot.expiresAtUtc = snapshot.expiresAtUtc

section History

variable {first : PairingManager} {calls : List PairingCall}
  {snapshot laterSnapshot : PairingSnapshot} {laterActive : ActiveSession}

theorem SameSession.confirmed (h : SameSession active snapshot laterActive laterSnapshot)
    (hconfirmed : Confirmed active snapshot call) : Confirmed laterActive laterSnapshot call := by
  unfold Confirmed
  rw [h.session, h.expiry]
  exact hconfirmed

theorem SameSession.codeReceived (h : SameSession active snapshot laterActive laterSnapshot)
    (hreceived : CodeReceived active snapshot call) :
    CodeReceived laterActive laterSnapshot call := by
  obtain ⟨submission, hevent, hmatches⟩ := hreceived
  refine ⟨submission, h.endpoint ▸ hevent, ?_⟩
  exact
    { session := hmatches.session.trans h.session.symm
      source := rfl
      deviceId := hmatches.deviceId.trans h.peerId.symm
      fingerprint := hmatches.fingerprint.trans h.fingerprint.symm
      sas := hmatches.sas.trans h.sas.symm
      before := h.expiry ▸ hmatches.before }

theorem SameSession.startedBy (h : SameSession active snapshot laterActive laterSnapshot)
    (hstarted : StartedBy platform active snapshot manager call) :
    StartedBy platform laterActive laterSnapshot manager call := by
  obtain ⟨⟨peer, hpeer, hevent⟩, hsession, hsas, started, hsnapshot, hid, hcode, hexpiry⟩ := hstarted
  refine ⟨⟨peer, hpeer.trans h.peerId.symm, ?_⟩, h.session.trans hsession, h.sas.trans hsas,
    started, hsnapshot, hid.trans h.session.symm, hcode.trans h.sas.symm,
    hexpiry.trans h.expiry.symm⟩
  rw [h.fingerprint, h.endpoint]
  exact hevent

theorem History.extend (h : History platform first calls active snapshot)
    (hsame : SameSession active snapshot laterActive laterSnapshot)
    (hconfirmed : laterActive.localConfirmed = true →
      active.localConfirmed = true ∨ Confirmed active snapshot call)
    (hreceived : laterActive.remoteCodeMatched = true →
      active.remoteCodeMatched = true ∨ CodeReceived active snapshot call) :
    History platform first (calls ++ [call]) laterActive laterSnapshot := by
  obtain ⟨before, start, after, rfl, hstarted, hlocal, hremote⟩ := h
  refine ⟨before, start, after ++ [call], by rw [List.append_assoc, List.cons_append],
    hsame.startedBy hstarted, fun hflag => ?_, fun hflag => ?_⟩
  · obtain hold | hnew := hconfirmed hflag
    · obtain ⟨earlier, hearlier, hcall⟩ := hlocal hold
      exact ⟨earlier, List.mem_append_left _ hearlier, hsame.confirmed hcall⟩
    · exact ⟨call, List.mem_append_right _ (List.mem_singleton_self call), hsame.confirmed hnew⟩
  · obtain hold | hnew := hreceived hflag
    · obtain ⟨earlier, hearlier, hcall⟩ := hremote hold
      exact ⟨earlier, List.mem_append_left _ hearlier, hsame.codeReceived hcall⟩
    · exact ⟨call, List.mem_append_right _ (List.mem_singleton_self call),
        hsame.codeReceived hnew⟩

theorem Advanced.advances (h : Advanced manager later) (hmanual : manager.manualSnapshot = none)
    (hsnapshot : manager.stateMachine.snapshot = some snapshot)
    (hlater : later.stateMachine.snapshot = some laterSnapshot) :
    Advances snapshot laterSnapshot := by
  obtain ⟨-, -, hkeeps⟩ | ⟨manual, -, hkept, -⟩ := h.session
  · obtain ⟨next, hnext, hadvances⟩ := hkeeps.present snapshot hsnapshot
    obtain rfl := Option.some.inj (hnext.symm.trans hlater)
    exact hadvances
  · exact absurd (hmanual.symm.trans hkept) nofun

theorem Commits.advances (h : Commits platform io active manager later)
    (hsnapshot : manager.stateMachine.snapshot = some snapshot)
    (hlater : later.stateMachine.snapshot = some laterSnapshot) :
    Advances snapshot laterSnapshot := by
  obtain ⟨current, hcurrent, hstate, -, hmachine, -⟩ := h.snapshot
  obtain rfl := Option.some.inj (hcurrent.symm.trans hsnapshot)
  rw [hmachine] at hlater
  obtain rfl := Option.some.inj hlater
  exact .of_running (by rw [hstate]; rfl) fun _ => rfl

theorem SameSession.of_advances (hadvances : Advances snapshot laterSnapshot)
    (hsession : laterActive.wireSessionId = active.wireSessionId)
    (hpeer : laterActive.peerId = active.peerId)
    (hfingerprint : laterActive.peerFingerprintSha256 = active.peerFingerprintSha256)
    (hendpoint : laterActive.endpoint = active.endpoint) :
    SameSession active snapshot laterActive laterSnapshot :=
  ⟨hsession, hpeer, hfingerprint, hendpoint, hadvances.sas, hadvances.expiry⟩

/-- What is known of a session on the asking side after these calls. -/
def Traced (platform : PairingPlatform) (first : PairingManager) (calls : List PairingCall)
    (manager : PairingManager) : Prop :=
  ∀ active snapshot, manager.active = some active → active.role = .outgoing →
    manager.stateMachine.snapshot = some snapshot → History platform first calls active snapshot

theorem Consistent.machine_snapshot (h : manager.Consistent) (hactive : manager.active = some active)
    (hrole : active.role = .outgoing) : ∃ snapshot, manager.stateMachine.snapshot = some snapshot := by
  obtain ⟨snapshot, hsnapshot, -⟩ := h.bound active hactive
  rw [snapshot_of_manual_none (h.outgoing active hactive hrole)] at hsnapshot
  exact ⟨snapshot, hsnapshot⟩

theorem Traced.effect (h : Traced platform first calls manager) (hconsistent : manager.Consistent)
    (hmanager : manager = first.run platform calls)
    (heffect : Effect platform call manager later) (hlater : later = manager.step platform call) :
    Traced platform first (calls ++ [call]) later := by
  intro laterActive laterSnapshot hlaterActive hlaterRole hlaterSnapshot
  cases heffect with
  | advances hadvanced =>
    rw [hadvanced.active] at hlaterActive
    obtain ⟨snapshot, hsnapshot⟩ := hconsistent.machine_snapshot hlaterActive hlaterRole
    have hadvances := hadvanced.advances
      (hconsistent.outgoing laterActive hlaterActive hlaterRole) hsnapshot hlaterSnapshot
    exact (h laterActive snapshot hlaterActive hlaterRole hsnapshot).extend
      (.of_advances hadvances rfl rfl rfl rfl) .inl .inl
  | revokes hevent hrevoked =>
    subst hrevoked
    exact (h laterActive laterSnapshot hlaterActive hlaterRole hlaterSnapshot).extend
      (.of_advances (.refl laterSnapshot) rfl rfl rfl rfl) .inl .inl
  | starts hevent husable hstarts =>
    obtain ⟨snapshot, hsnapshot, hid, hpeer, hsas, -⟩ := hstarts.snapshot
    obtain rfl := Option.some.inj (hstarts.active.symm.trans hlaterActive)
    obtain rfl := Option.some.inj (hsnapshot.symm.trans hlaterSnapshot)
    refine ⟨calls, call, [], rfl, ?_, nofun, nofun⟩
    rw [← hmanager]
    exact ⟨⟨_, rfl, hevent⟩, rfl, hsas, snapshot, hlater ▸ hsnapshot, hid, rfl, rfl⟩
  | requests hevent husable hrequests =>
    obtain rfl := Option.some.inj (hrequests.active.symm.trans hlaterActive)
    cases hlaterRole
  | submits hevent hsubmits =>
    obtain rfl := Option.some.inj (hsubmits.kept.symm.trans hlaterActive)
    exact absurd (hsubmits.role.symm.trans hlaterRole) nofun
  | confirms hevent hactive hrole hsnapshot hrunning hbefore hmiddle =>
    rename_i active snapshot
    have hhistory := h active snapshot hactive hrole hsnapshot
    have hconfirmed : Confirmed active snapshot call := ⟨hevent, hbefore⟩
    have hmanual := hconsistent.outgoing active hactive hrole
    obtain hadvanced | ⟨-, hcommits⟩ := hmiddle
    · obtain rfl := Option.some.inj (hadvanced.active.symm.trans hlaterActive)
      exact hhistory.extend
        (.of_advances (hadvanced.advances hmanual hsnapshot hlaterSnapshot) rfl rfl rfl rfl)
        (fun _ => .inr hconfirmed) .inl
    · obtain rfl := Option.some.inj (hcommits.kept.symm.trans hlaterActive)
      exact hhistory.extend
        (.of_advances (hcommits.advances hsnapshot hlaterSnapshot) rfl rfl rfl rfl)
        (fun _ => .inr hconfirmed) .inl
  | accepts hevent hactive hrole hsnapshot hstate hmatches hmiddle =>
    rename_i submission source active snapshot
    have hhistory := h active snapshot hactive hrole hsnapshot
    obtain rfl := hmatches.source
    have hreceived : CodeReceived active snapshot call := ⟨submission, hevent, hmatches⟩
    have hmanual := hconsistent.outgoing active hactive hrole
    have hconfirming : Advances snapshot { snapshot with state := .confirming } :=
      .of_running (by rw [hstate]; rfl) fun hcase => absurd (hstate.symm.trans hcase) nofun
    obtain hadvanced | ⟨-, hcommits⟩ := hmiddle
    · obtain rfl := Option.some.inj (hadvanced.active.symm.trans hlaterActive)
      have hadvances := hconfirming.trans (hadvanced.advances hmanual rfl hlaterSnapshot)
      exact hhistory.extend (.of_advances hadvances rfl rfl rfl rfl) .inl
        fun _ => .inr hreceived
    · obtain rfl := Option.some.inj (hcommits.kept.symm.trans hlaterActive)
      have hadvances := hconfirming.trans (hcommits.advances rfl hlaterSnapshot)
      exact hhistory.extend (.of_advances hadvances rfl rfl rfl rfl) .inl
        fun _ => .inr hreceived
  | commits hevent hrole hsession haccepted hcommits =>
    obtain rfl := Option.some.inj (hcommits.kept.symm.trans hlaterActive)
    exact absurd (hrole.symm.trans hlaterRole) nofun

theorem run_concat (calls : List PairingCall) (call : PairingCall) (first : PairingManager) :
    first.run platform (calls ++ [call]) = (first.run platform calls).step platform call :=
  List.foldl_concat _ _ _ _

theorem Fresh.traced (hfresh : first.Fresh) (calls : List PairingCall) :
    Traced platform first calls (first.run platform calls) := by
  induction calls using List.reverseRecOn with
  | nil =>
    intro active snapshot hactive
    exact absurd (hfresh.2.1.symm.trans hactive) nofun
  | append_singleton calls call ih =>
    have hconsistent : (first.run platform calls).Consistent := hfresh.consistent.run calls
    rw [run_concat]
    exact ih.effect hconsistent rfl (step_effect hconsistent call) rfl

/-- A certificate that a call makes trusted while the manager asks: it is the peer's, and the user's
confirmation and the peer's code stand in the history of the session, which had not expired. -/
def Justified (platform : PairingPlatform) (first : PairingManager) (calls : List PairingCall)
    (active : ActiveSession) (call : PairingCall) (deviceId : DeviceId)
    (fingerprint : QByteArray) : Prop :=
  deviceId = active.peerId ∧ fingerprint = active.peerFingerprintSha256 ∧
    ∃ snapshot prior start since, calls ++ [call] = prior ++ start :: since ∧
      StartedBy platform active snapshot (first.run platform prior) start ∧
      (∃ earlier ∈ since, Confirmed active snapshot earlier) ∧
      (∃ earlier ∈ since, CodeReceived active snapshot earlier) ∧
      before (call.io.now .completion) snapshot.expiresAtUtc = true

theorem Commits.justified {middle : PairingManager} {marked : ActiveSession}
    (h : Commits platform call.io marked middle later) (hmiddle : middle.Consistent)
    (htraced : Traced platform first (calls ++ [call]) later) (hrole : marked.role = .outgoing)
    (hconfirmed : marked.localConfirmed = true) (hmatched : marked.remoteCodeMatched = true)
    (hsession : active.wireSessionId = marked.wireSessionId) (hpeer : active.peerId = marked.peerId)
    (hfingerprint : active.peerFingerprintSha256 = marked.peerFingerprintSha256)
    (hendpoint : active.endpoint = marked.endpoint)
    (hnew : ¬ middle.store.Pins deviceId fingerprint)
    (hpins : later.store.Pins deviceId fingerprint) :
    Justified platform first calls active call deviceId fingerprint := by
  obtain ⟨hid, hcertificate⟩ := ((h.pins hmiddle).2 deviceId fingerprint hpins).resolve_left hnew
  obtain ⟨snapshot, hsnapshot, -, hbefore, hmachine, -⟩ := h.snapshot
  have hlater : later.stateMachine.snapshot = some { snapshot with state := .completed } := by
    rw [hmachine]
  obtain ⟨prior, start, since, hcalls, hstarted, hlocal, hremote⟩ :=
    htraced marked _ h.kept hrole hlater
  have hsame : SameSession marked { snapshot with state := .completed } active
      { snapshot with state := .completed } :=
    ⟨hsession, hpeer, hfingerprint, hendpoint, rfl, rfl⟩
  obtain ⟨confirmation, hconfirmation, hconfirms⟩ := hlocal hconfirmed
  obtain ⟨reception, hreception, hreceives⟩ := hremote hmatched
  exact ⟨hid.trans hpeer.symm, hcertificate.trans hfingerprint.symm, _, prior, start, since, hcalls,
    hsame.startedBy hstarted, ⟨confirmation, hconfirmation, hsame.confirmed hconfirms⟩,
    ⟨reception, hreception, hsame.codeReceived hreceives⟩, hbefore⟩

theorem justified_of_gain (hfresh : first.Fresh) (calls : List PairingCall)
    (hactive : (first.run platform calls).active = some active) (hrole : active.role = .outgoing)
    (hnew : ¬ (first.run platform calls).store.Pins deviceId fingerprint)
    (hpins : ((first.run platform calls).step platform call).store.Pins deviceId fingerprint) :
    Justified platform first calls active call deviceId fingerprint := by
  have htraced : Traced platform first (calls ++ [call]) _ := hfresh.traced (calls ++ [call])
  rw [run_concat] at htraced
  have hconsistent : (first.run platform calls).Consistent := hfresh.consistent.run calls
  generalize first.run platform calls = manager at hactive hnew hpins hconsistent htraced
  have hstore (hsame : (manager.step platform call).store = manager.store) : False :=
    hnew (hsame ▸ hpins)
  cases step_effect hconsistent call with
  | advances hadvanced => exact (hstore hadvanced.store).elim
  | revokes hevent hrevoked =>
    rw [hrevoked] at hpins
    exact absurd (DeviceStore.pins_of_revoke hpins) hnew
  | starts hevent husable hstarts => exact (hstore hstarts.store).elim
  | requests hevent husable hrequests => exact (hstore hrequests.store).elim
  | submits hevent hsubmits => exact (hstore hsubmits.store).elim
  | confirms hevent hbound hout hsnapshot hrunning hbefore hmiddle =>
    obtain rfl := Option.some.inj (hbound.symm.trans hactive)
    obtain hadvanced | ⟨hmatched, hcommits⟩ := hmiddle
    · exact (hstore hadvanced.store).elim
    · exact hcommits.justified (hconsistent.flag hactive rfl rfl rfl rfl) htraced hrole rfl hmatched
        rfl rfl rfl rfl hnew hpins
  | accepts hevent hbound hout hsnapshot hstate hmatches hmiddle =>
    obtain rfl := Option.some.inj (hbound.symm.trans hactive)
    obtain hadvanced | ⟨hconfirmed, hcommits⟩ := hmiddle
    · exact (hstore hadvanced.store).elim
    · exact hcommits.justified (hconsistent.matched hactive hrole hsnapshot hstate) htraced hrole
        hconfirmed rfl rfl rfl rfl rfl hnew hpins
  | commits hevent hincoming hsession haccepted hcommits =>
    obtain rfl := Option.some.inj (hcommits.bound.symm.trans hactive)
    exact absurd (hincoming.symm.trans hrole) nofun

end History

end PairingManager

end DeskflowPlus.Pairing
