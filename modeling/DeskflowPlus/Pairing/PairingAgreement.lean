import DeskflowPlus.Pairing.PairingTrustSafety

/-!
# Two managers that pair with each other

Datagrams may be lost, repeated and reordered, and anyone may send them under other addresses. As
long as no one sends under the address of one of the two, an accepted result that reaches the asked
side is the asking side's own, and by then the asking side trusts the asked one.
-/

namespace DeskflowPlus.Pairing

open Transfer Trust

structure PairingPair where
  initiator : PairingManager
  responder : PairingManager

inductive Side where
  | initiator
  | responder
  deriving DecidableEq

structure PairCall where
  side : Side
  call : PairingCall

namespace PairingPair

variable (platform : PairingPlatform)

def step (pair : PairingPair) (call : PairCall) : PairingPair :=
  match call.side with
  | .initiator => { pair with initiator := pair.initiator.step platform call.call }
  | .responder => { pair with responder := pair.responder.step platform call.call }

def run (calls : List PairCall) (pair : PairingPair) : PairingPair :=
  calls.foldl (step platform) pair

def SentByOther (initiatorEndpoint responderEndpoint : PairingEndpoint) (pair : PairingPair)
    (message : PairingMessage) (source : PairingEndpoint) : Side → Prop
  | .initiator => source = responderEndpoint → ⟨message, initiatorEndpoint⟩ ∈ pair.responder.sent
  | .responder => source = initiatorEndpoint → ⟨message, responderEndpoint⟩ ∈ pair.initiator.sent

/-- No one else sends under the addresses of the two. -/
def Genuine (initiatorEndpoint responderEndpoint : PairingEndpoint) (call : PairCall)
    (pair : PairingPair) : Prop :=
  ∀ message source, call.call.event = .receiveDatagram (.ok message) source →
    SentByOther initiatorEndpoint responderEndpoint pair message source call.side

section

variable (initiatorEndpoint responderEndpoint : PairingEndpoint) (pair : PairingPair)

instance (message : PairingMessage) (source : PairingEndpoint) : (side : Side) →
    Decidable (SentByOther initiatorEndpoint responderEndpoint pair message source side)
  | .initiator => inferInstanceAs (Decidable (_ → _))
  | .responder => inferInstanceAs (Decidable (_ → _))

instance (call : PairCall) : Decidable (Genuine initiatorEndpoint responderEndpoint call pair) :=
  match hevent : call.call.event with
  | .receiveDatagram (.ok message) source =>
    decidable_of_iff (SentByOther initiatorEndpoint responderEndpoint pair message source call.side)
      ⟨fun h other origin heq => by
        obtain ⟨hmessage, rfl⟩ := PairingEvent.receiveDatagram.inj (hevent.symm.trans heq)
        obtain rfl := Except.ok.inj hmessage
        exact h, fun h => h message source hevent⟩
  | .receiveDatagram (.error _) _ => .isTrue fun _ _ heq => nomatch hevent.symm.trans heq
  | .startPairing _ _ _ | .confirmMatchingSas _ | .submitDisplayedSas _ _ | .cancel _ | .revoke _
  | .expireIfNeeded => .isTrue fun _ _ heq => nomatch hevent.symm.trans heq

end

def Withdraws (responder : DeviceInfo) (call : PairCall) (pair : PairingPair) : Prop :=
  pair.initiator.store.Pins responder.deviceId responder.certificateFingerprintSha256 ∧
    call.side = .initiator ∧ (call.call.event = .revoke responder.deviceId ∨
      ∃ other, other ≠ responder.certificateFingerprintSha256 ∧
        (pair.step platform call).initiator.store.Pins responder.deviceId other)

end PairingPair

namespace PairingManager

variable {platform : PairingPlatform} {manager later : PairingManager} {call : PairingCall}
  {active : ActiveSession}

theorem Effect.localDevice (h : Effect platform call manager later) :
    later.localDevice = manager.localDevice := by
  cases h with
  | advances hadvanced => exact hadvanced.localDevice
  | revokes hevent hrevoked => rw [hrevoked]
  | starts hevent husable hstarts => exact hstarts.localDevice
  | requests hevent husable hrequests => exact hrequests.localDevice
  | submits hevent hsubmits => exact hsubmits.localDevice
  | confirms hevent hactive hrole hsnapshot hrunning hbefore hmiddle =>
    exact hmiddle.elim Advanced.localDevice fun hcommits => hcommits.2.localDevice
  | accepts hevent hactive hrole hsnapshot hstate hmatches hmiddle =>
    exact hmiddle.elim Advanced.localDevice fun hcommits => hcommits.2.localDevice
  | commits hevent hrole hsession haccepted hcommits => exact hcommits.localDevice

theorem Effect.submissions (h : Effect platform call manager later) {sent : SentMessage}
    (hsent : sent ∈ later.sent) {submission : PairingCodeSubmission}
    (hmessage : sent.message = .codeSubmission submission) :
    sent ∈ manager.sent ∨ submission.sender = manager.localDevice := by
  have hdeclines (hcase : Declines sent) : False := by
    obtain ⟨result, hresult, -⟩ := hcase
    exact absurd (hmessage.symm.trans hresult) nofun
  have hadvances {middle : PairingManager} (hadvanced : Advanced middle later)
      (hsame : middle.sent = manager.sent) : sent ∈ manager.sent :=
    hsame ▸ (hadvanced.sent sent hsent).resolve_right hdeclines
  have hcommitted {middle : PairingManager} {io : PairingIo} {marked : ActiveSession}
      (hcommits : Commits platform io marked middle later) (hsame : middle.sent = manager.sent) :
      sent ∈ manager.sent := by
    obtain hold | ⟨-, -, result, hresult⟩ := hcommits.sent sent hsent
    · exact hsame ▸ hold
    · exact absurd (hmessage.symm.trans hresult) nofun
  cases h with
  | advances hadvanced => exact .inl (hadvances hadvanced rfl)
  | revokes hevent hrevoked =>
    rw [hrevoked] at hsent
    exact .inl hsent
  | starts hevent husable hstarts =>
    obtain hold | hcase | ⟨request, hrequest⟩ := hstarts.sent sent hsent
    · exact .inl hold
    · exact (hdeclines hcase).elim
    · exact absurd (hmessage.symm.trans hrequest) nofun
  | requests hevent husable hrequests =>
    exact .inl ((hrequests.sent sent hsent).resolve_right hdeclines)
  | submits hevent hsubmits =>
    obtain hold | hcase | rfl := hsubmits.sent sent hsent
    · exact .inl hold
    · exact (hdeclines hcase).elim
    · obtain rfl := PairingMessage.codeSubmission.inj hmessage
      exact .inr rfl
  | confirms hevent hactive hrole hsnapshot hrunning hbefore hmiddle =>
    obtain hadvanced | ⟨-, hcommits⟩ := hmiddle
    · exact .inl (hadvances hadvanced rfl)
    · exact .inl (hcommitted hcommits rfl)
  | accepts hevent hactive hrole hsnapshot hstate hmatches hmiddle =>
    obtain hadvanced | ⟨-, hcommits⟩ := hmiddle
    · exact .inl (hadvances hadvanced rfl)
    · exact .inl (hcommitted hcommits rfl)
  | commits hevent hrole hsession haccepted hcommits => exact .inl (hcommitted hcommits rfl)

theorem Effect.pins (h : Effect platform call manager later) {deviceId : DeviceId}
    {fingerprint : QByteArray} (hpins : manager.store.Pins deviceId fingerprint) :
    later.store.Pins deviceId fingerprint ∨ call.event = .revoke deviceId ∨
      ∃ other, other ≠ fingerprint ∧ later.store.Pins deviceId other := by
  have hsame (hstore : later.store = manager.store) : later.store.Pins deviceId fingerprint :=
    hstore ▸ hpins
  have hcommitted {middle : PairingManager} {io : PairingIo} {marked : ActiveSession}
      (hcommits : Commits platform io marked middle later) (hstore : middle.store = manager.store) :
      later.store.Pins deviceId fingerprint ∨ call.event = .revoke deviceId ∨
        ∃ other, other ≠ fingerprint ∧ later.store.Pins deviceId other := by
    obtain ⟨-, -, -, -, -, device, -, -, hvalid, hupsert⟩ := hcommits.snapshot
    rw [hstore] at hupsert
    exact (DeviceStore.pins_or_replaced hupsert hvalid hpins).imp id .inr
  cases h with
  | advances hadvanced => exact .inl (hsame hadvanced.store)
  | revokes hevent hrevoked =>
    rename_i revoked files
    by_cases hdevice : revoked = deviceId
    · exact .inr (.inl (hdevice ▸ hevent))
    · rw [hrevoked]
      exact .inl (DeviceStore.pins_revoke_of_ne hdevice hpins)
  | starts hevent husable hstarts => exact .inl (hsame hstarts.store)
  | requests hevent husable hrequests => exact .inl (hsame hrequests.store)
  | submits hevent hsubmits => exact .inl (hsame hsubmits.store)
  | confirms hevent hactive hrole hsnapshot hrunning hbefore hmiddle =>
    obtain hadvanced | ⟨-, hcommits⟩ := hmiddle
    · exact .inl (hsame hadvanced.store)
    · exact hcommitted hcommits rfl
  | accepts hevent hactive hrole hsnapshot hstate hmatches hmiddle =>
    obtain hadvanced | ⟨-, hcommits⟩ := hmiddle
    · exact .inl (hsame hadvanced.store)
    · exact hcommitted hcommits rfl
  | commits hevent hrole hsession haccepted hcommits => exact hcommitted hcommits rfl

theorem Effect.matched (h : Effect platform call manager later) (hactive : later.active = some active)
    (hrole : active.role = .outgoing) (hmatched : active.remoteCodeMatched = true) :
    (∃ bound, manager.active = some bound ∧ bound.role = .outgoing ∧
        bound.remoteCodeMatched = true ∧ bound.endpoint = active.endpoint ∧
        bound.peerId = active.peerId ∧
        bound.peerFingerprintSha256 = active.peerFingerprintSha256) ∨
      ∃ submission, call.event =
          .receiveDatagram (.ok (.codeSubmission submission)) active.endpoint ∧
        submission.sender.deviceId = active.peerId ∧
        submission.sender.certificateFingerprintSha256 = active.peerFingerprintSha256 := by
  have hkept (hbefore : manager.active = some active) :
      ∃ bound, manager.active = some bound ∧ bound.role = .outgoing ∧
        bound.remoteCodeMatched = true ∧ bound.endpoint = active.endpoint ∧
        bound.peerId = active.peerId ∧
        bound.peerFingerprintSha256 = active.peerFingerprintSha256 :=
    ⟨active, hbefore, hrole, hmatched, rfl, rfl, rfl⟩
  cases h with
  | advances hadvanced => exact .inl (hkept (hadvanced.active.symm.trans hactive))
  | revokes hevent hrevoked =>
    rw [hrevoked] at hactive
    exact .inl (hkept hactive)
  | starts hevent husable hstarts =>
    obtain rfl := Option.some.inj (hstarts.active.symm.trans hactive)
    cases hmatched
  | requests hevent husable hrequests =>
    obtain rfl := Option.some.inj (hrequests.active.symm.trans hactive)
    cases hrole
  | submits hevent hsubmits =>
    obtain rfl := Option.some.inj (hsubmits.kept.symm.trans hactive)
    exact .inl (hkept hsubmits.bound)
  | confirms hevent hbound hout hsnapshot hrunning hbefore hmiddle =>
    have hlater := hmiddle.elim Advanced.active fun hcommits => hcommits.2.kept
    obtain rfl := Option.some.inj (hlater.symm.trans hactive)
    exact .inl ⟨_, hbound, hout, hmatched, rfl, rfl, rfl⟩
  | accepts hevent hbound hout hsnapshot hstate hmatches hmiddle =>
    have hlater := hmiddle.elim Advanced.active fun hcommits => hcommits.2.kept
    obtain rfl := Option.some.inj (hlater.symm.trans hactive)
    obtain rfl := hmatches.source
    exact .inr ⟨_, hevent, hmatches.deviceId, hmatches.fingerprint⟩
  | commits hevent hincoming hsession haccepted hcommits =>
    obtain rfl := Option.some.inj (hcommits.kept.symm.trans hactive)
    exact absurd (hincoming.symm.trans hrole) nofun

theorem Effect.accepted (h : Effect platform call manager later) (hconsistent : manager.Consistent)
    {sent : SentMessage} (hsent : sent ∈ later.sent) {result : PairingResultMessage}
    (hmessage : sent.message = .result result) (haccepted : result.accepted = true) :
    sent ∈ manager.sent ∨ ∃ active, later.active = some active ∧ active.role = .outgoing ∧
      active.remoteCodeMatched = true ∧ sent.endpoint = active.endpoint ∧
      later.store.Pins active.peerId active.peerFingerprintSha256 := by
  have hdeclines (hcase : Declines sent) : False := by
    obtain ⟨declined, hdeclined, hnot⟩ := hcase
    obtain rfl := PairingMessage.result.inj (hmessage.symm.trans hdeclined)
    exact absurd (haccepted.symm.trans hnot) nofun
  have hcommitted {middle : PairingManager} {marked : ActiveSession}
      (hcommits : Commits platform call.io marked middle later) (hmiddle : middle.Consistent)
      (hsame : middle.sent = manager.sent) (hmatched : marked.remoteCodeMatched = true) :
      sent ∈ manager.sent ∨ ∃ active, later.active = some active ∧ active.role = .outgoing ∧
        active.remoteCodeMatched = true ∧ sent.endpoint = active.endpoint ∧
        later.store.Pins active.peerId active.peerFingerprintSha256 := by
    obtain hold | ⟨hrole, hendpoint, -⟩ := hcommits.sent sent hsent
    · exact .inl (hsame ▸ hold)
    · exact .inr ⟨marked, hcommits.kept, hrole, hmatched, hendpoint, (hcommits.pins hmiddle).1⟩
  cases h with
  | advances hadvanced => exact .inl ((hadvanced.sent sent hsent).resolve_right hdeclines)
  | revokes hevent hrevoked =>
    rw [hrevoked] at hsent
    exact .inl hsent
  | starts hevent husable hstarts =>
    obtain hold | hcase | ⟨request, hrequest⟩ := hstarts.sent sent hsent
    · exact .inl hold
    · exact (hdeclines hcase).elim
    · exact absurd (hmessage.symm.trans hrequest) nofun
  | requests hevent husable hrequests =>
    exact .inl ((hrequests.sent sent hsent).resolve_right hdeclines)
  | submits hevent hsubmits =>
    obtain hold | hcase | rfl := hsubmits.sent sent hsent
    · exact .inl hold
    · exact (hdeclines hcase).elim
    · cases hmessage
  | confirms hevent hactive hrole hsnapshot hrunning hbefore hmiddle =>
    obtain hadvanced | ⟨hmatched, hcommits⟩ := hmiddle
    · exact .inl ((hadvanced.sent sent hsent).resolve_right hdeclines)
    · exact hcommitted hcommits (hconsistent.flag hactive rfl rfl rfl rfl) rfl hmatched
  | accepts hevent hactive hrole hsnapshot hstate hmatches hmiddle =>
    obtain hadvanced | ⟨-, hcommits⟩ := hmiddle
    · exact .inl ((hadvanced.sent sent hsent).resolve_right hdeclines)
    · exact hcommitted hcommits (hconsistent.matched hactive hrole hsnapshot hstate) rfl rfl
  | commits hevent hincoming hsession haccepts hcommits =>
    obtain hold | ⟨hrole, -⟩ := hcommits.sent sent hsent
    · exact .inl hold
    · exact absurd (hincoming.symm.trans hrole) nofun

theorem Effect.asked_gain (h : Effect platform call manager later)
    (hactive : manager.active = some active) (hrole : active.role = .incoming)
    {deviceId : DeviceId} {fingerprint : QByteArray}
    (hnew : ¬ manager.store.Pins deviceId fingerprint)
    (hpins : later.store.Pins deviceId fingerprint) :
    ∃ result, call.event = .receiveDatagram (.ok (.result result)) active.endpoint ∧
      result.accepted = true := by
  have hstore (hsame : later.store = manager.store) : False := hnew (hsame ▸ hpins)
  cases h with
  | advances hadvanced => exact (hstore hadvanced.store).elim
  | revokes hevent hrevoked =>
    rw [hrevoked] at hpins
    exact absurd (DeviceStore.pins_of_revoke hpins) hnew
  | starts hevent husable hstarts => exact (hstore hstarts.store).elim
  | requests hevent husable hrequests => exact (hstore hrequests.store).elim
  | submits hevent hsubmits => exact (hstore hsubmits.store).elim
  | confirms hevent hbound hout =>
    obtain rfl := Option.some.inj (hbound.symm.trans hactive)
    exact absurd (hout.symm.trans hrole) nofun
  | accepts hevent hbound hout =>
    obtain rfl := Option.some.inj (hbound.symm.trans hactive)
    exact absurd (hout.symm.trans hrole) nofun
  | commits hevent hincoming hsession haccepted hcommits =>
    obtain rfl := Option.some.inj (hcommits.bound.symm.trans hactive)
    exact ⟨_, hevent, haccepted⟩

end PairingManager

namespace PairingPair

open PairingManager

variable {platform : PairingPlatform} {initiatorEndpoint responderEndpoint : PairingEndpoint}
  {responder : DeviceInfo} {pair : PairingPair}

structure Agreement (responderEndpoint : PairingEndpoint) (responder : DeviceInfo)
    (pair : PairingPair) : Prop where
  asking : pair.initiator.Consistent
  asked : pair.responder.Consistent
  localDevice : pair.responder.localDevice = responder
  submissions : ∀ sent ∈ pair.responder.sent, ∀ submission,
    sent.message = .codeSubmission submission → submission.sender = responder
  matched : ∀ active, pair.initiator.active = some active → active.role = .outgoing →
    active.remoteCodeMatched = true → active.endpoint = responderEndpoint →
    active.peerId = responder.deviceId ∧
      active.peerFingerprintSha256 = responder.certificateFingerprintSha256
  accepted : ∀ sent ∈ pair.initiator.sent, sent.endpoint = responderEndpoint → ∀ result,
    sent.message = .result result → result.accepted = true →
    pair.initiator.store.Pins responder.deviceId responder.certificateFingerprintSha256

theorem agreement_of_fresh (hinitiator : pair.initiator.Fresh) (hresponder : pair.responder.Fresh) :
    Agreement responderEndpoint pair.responder.localDevice pair where
  asking := hinitiator.consistent
  asked := hresponder.consistent
  localDevice := rfl
  submissions sent hsent := by
    rw [hresponder.2.2.2] at hsent
    exact absurd hsent List.not_mem_nil
  matched active hactive := absurd (hinitiator.2.1.symm.trans hactive) nofun
  accepted sent hsent := by
    rw [hinitiator.2.2.2] at hsent
    exact absurd hsent List.not_mem_nil

theorem Agreement.asked_step (h : Agreement responderEndpoint responder pair) (call : PairingCall) :
    Agreement responderEndpoint responder (pair.step platform ⟨.responder, call⟩) where
  asking := h.asking
  asked := h.asked.step call
  localDevice := (step_effect h.asked call).localDevice.trans h.localDevice
  submissions sent hsent submission hmessage := by
    obtain hold | hsender := (step_effect h.asked call).submissions hsent hmessage
    · exact h.submissions sent hold submission hmessage
    · exact hsender.trans h.localDevice
  matched := h.matched
  accepted := h.accepted

theorem Agreement.asking_step (h : Agreement responderEndpoint responder pair) (call : PairingCall)
    (hgenuine : Genuine initiatorEndpoint responderEndpoint ⟨.initiator, call⟩ pair)
    (hkept : ¬ Withdraws platform responder ⟨.initiator, call⟩ pair) :
    Agreement responderEndpoint responder (pair.step platform ⟨.initiator, call⟩) := by
  have heffect : Effect platform call pair.initiator (pair.initiator.step platform call) :=
    step_effect h.asking call
  have hmatched (active : ActiveSession)
      (hactive : (pair.initiator.step platform call).active = some active)
      (hrole : active.role = .outgoing) (hmark : active.remoteCodeMatched = true)
      (hendpoint : active.endpoint = responderEndpoint) :
      active.peerId = responder.deviceId ∧
        active.peerFingerprintSha256 = responder.certificateFingerprintSha256 := by
    obtain ⟨bound, hbound, hout, hbefore, hsame, hpeer, hfingerprint⟩ |
        ⟨submission, hevent, hpeer, hfingerprint⟩ := heffect.matched hactive hrole hmark
    · rw [← hpeer, ← hfingerprint]
      exact h.matched bound hbound hout hbefore (hsame.trans hendpoint)
    · have hsent := hgenuine _ _ hevent hendpoint
      rw [← hpeer, ← hfingerprint, h.submissions _ hsent submission rfl]
      exact ⟨rfl, rfl⟩
  refine ⟨h.asking.step call, h.asked, h.localDevice, h.submissions, hmatched, ?_⟩
  intro sent hsent hendpoint result hmessage haccepted
  obtain hold | ⟨active, hactive, hrole, hmark, hsame, hpins⟩ :=
    heffect.accepted h.asking hsent hmessage haccepted
  · have hpinned := h.accepted sent hold hendpoint result hmessage haccepted
    refine (heffect.pins hpinned).resolve_right fun hlost => hkept ⟨hpinned, rfl, ?_⟩
    exact hlost
  · obtain ⟨hpeer, hfingerprint⟩ := hmatched active hactive hrole hmark (hsame.symm.trans hendpoint)
    rw [← hpeer, ← hfingerprint]
    exact hpins

theorem Agreement.step (h : Agreement responderEndpoint responder pair) (call : PairCall)
    (hcall : Genuine initiatorEndpoint responderEndpoint call pair ∧
      ¬ Withdraws platform responder call pair) :
    Agreement responderEndpoint responder (pair.step platform call) := by
  obtain ⟨side, call⟩ := call
  cases side with
  | initiator => exact h.asking_step call hcall.1 hcall.2
  | responder => exact h.asked_step call

theorem Agreement.run (h : Agreement responderEndpoint responder pair) (calls : List PairCall)
    (hgenuine : Throughout (PairingPair.step platform)
      (Genuine initiatorEndpoint responderEndpoint) calls pair)
    (hkept : Throughout (PairingPair.step platform)
      (fun call pair => ¬ Withdraws platform responder call pair) calls pair) :
    Agreement responderEndpoint responder (pair.run platform calls) :=
  (throughout_and hgenuine hkept).invariant (fun _ call hpair hcall => hpair.step call hcall) h

theorem Agreement.asked_gain (h : Agreement responderEndpoint responder pair) {call : PairingCall}
    {active : ActiveSession} {deviceId : DeviceId} {fingerprint : QByteArray}
    (hgenuine : Genuine initiatorEndpoint responderEndpoint ⟨.responder, call⟩ pair)
    (hactive : pair.responder.active = some active) (hrole : active.role = .incoming)
    (hendpoint : active.endpoint = initiatorEndpoint)
    (hnew : ¬ pair.responder.store.Pins deviceId fingerprint)
    (hpins : (pair.responder.step platform call).store.Pins deviceId fingerprint) :
    pair.initiator.store.Pins responder.deviceId responder.certificateFingerprintSha256 := by
  obtain ⟨result, hevent, haccepted⟩ :=
    (step_effect h.asked call).asked_gain hactive hrole hnew hpins
  exact h.accepted _ (hgenuine _ _ hevent hendpoint) rfl result rfl haccepted

/-- The asking side trusts only whom both have confirmed. What the asked side comes to trust, the
asking side already does, where no one else sends under the addresses of the two. -/
theorem pairing_trust_safe (platform : PairingPlatform) :
    (∀ (first : PairingManager) (calls : List PairingCall) (call : PairingCall)
        (active : ActiveSession) (deviceId : DeviceId) (fingerprint : QByteArray), first.Fresh →
        (first.run platform calls).active = some active → active.role = .outgoing →
        ¬ (first.run platform calls).store.Pins deviceId fingerprint →
        ((first.run platform calls).step platform call).store.Pins deviceId fingerprint →
        Justified platform first calls active call deviceId fingerprint) ∧
      ∀ (initiatorEndpoint responderEndpoint : PairingEndpoint) (pair : PairingPair)
        (calls : List PairCall) (call : PairingCall) (active : ActiveSession)
        (deviceId : DeviceId) (fingerprint : QByteArray), pair.initiator.Fresh →
        pair.responder.Fresh →
        Throughout (PairingPair.step platform) (Genuine initiatorEndpoint responderEndpoint)
          (calls ++ [⟨.responder, call⟩]) pair →
        Throughout (PairingPair.step platform)
          (fun call current => ¬ Withdraws platform pair.responder.localDevice call current) calls
          pair →
        (pair.run platform calls).responder.active = some active → active.role = .incoming →
        active.endpoint = initiatorEndpoint →
        ¬ (pair.run platform calls).responder.store.Pins deviceId fingerprint →
        ((pair.run platform calls).responder.step platform call).store.Pins deviceId fingerprint →
        (pair.run platform calls).initiator.store.Pins pair.responder.localDevice.deviceId
          pair.responder.localDevice.certificateFingerprintSha256 := by
  constructor
  · intro first calls call active deviceId fingerprint hfresh hactive hrole hnew hpins
    exact justified_of_gain hfresh calls hactive hrole hnew hpins
  · intro initiatorEndpoint responderEndpoint pair calls call active deviceId fingerprint
      hinitiator hresponder hgenuine hkept hactive hrole hendpoint hnew hpins
    obtain ⟨hcalls, hcall⟩ := throughout_concat.mp hgenuine
    have hagreement := (agreement_of_fresh hinitiator hresponder).run calls hcalls hkept
    exact hagreement.asked_gain hcall hactive hrole hendpoint hnew hpins

end PairingPair

namespace PairingPair

open PairingManager

def samplePair : PairingPair := ⟨askingManager, askedManager⟩

def sampleSubmission : PairingMessage :=
  .codeSubmission ⟨5, sampleResponder, QString.literal "123456"⟩

/-- The code arrives on the asking side. -/
def submissionDelivery : PairingCall where
  event := .receiveDatagram (.ok sampleSubmission) responderEndpoint
  io := ioAt 4000

def resultDelivery : PairingCall where
  event := .receiveDatagram (.ok (.result { pairingSessionId := 5, accepted := true }))
    initiatorEndpoint
  io := ioAt 5000

/-- The asked side takes the request, and the code is typed in. -/
def askedCalls : List PairCall :=
  [⟨.initiator, sampleStart⟩, ⟨.responder, sampleDelivery⟩,
    ⟨.responder, ⟨.submitDisplayedSas 5 (QString.literal "123456"), ioAt 2000⟩⟩]

def confirmedCalls : List PairCall :=
  askedCalls ++ [⟨.initiator, ⟨.confirmMatchingSas 5, ioAt 3000⟩⟩, ⟨.initiator, submissionDelivery⟩]

theorem not_withdraws {platform : PairingPlatform} {responder : DeviceInfo} {call : PairCall}
    {pair : PairingPair} (h : call.side = .responder ∨ ¬ pair.initiator.store.Pins
      responder.deviceId responder.certificateFingerprintSha256) :
    ¬ Withdraws platform responder call pair := by
  rintro ⟨hpins, hside, -⟩
  obtain hother | hnot := h
  · exact absurd (hside.symm.trans hother) nofun
  · exact hnot hpins

theorem pairing_trust_safe_sample :
    Justified samplePlatform askingManager
        [sampleStart, ⟨.confirmMatchingSas 5, ioAt 3000⟩]
        { askingSession with localConfirmed := true } submissionDelivery sampleResponder.deviceId
        sampleResponder.certificateFingerprintSha256 ∧
      (samplePair.run samplePlatform confirmedCalls).initiator.store.Pins sampleResponder.deviceId
        sampleResponder.certificateFingerprintSha256 := by
  obtain ⟨hasking, hasked⟩ := pairing_trust_safe samplePlatform
  constructor
  · exact hasking askingManager [sampleStart, ⟨.confirmMatchingSas 5, ioAt 3000⟩]
      submissionDelivery { askingSession with localConfirmed := true } sampleResponder.deviceId
      sampleResponder.certificateFingerprintSha256 ⟨rfl, rfl, rfl, rfl⟩ (by decide +kernel) rfl
      (by decide +kernel) (by decide +kernel)
  · have hkept : Throughout (PairingPair.step samplePlatform)
        (fun call pair => call.side = .responder ∨ ¬ pair.initiator.store.Pins
          sampleResponder.deviceId sampleResponder.certificateFingerprintSha256) confirmedCalls
        samplePair := by
      decide +kernel
    exact hasked initiatorEndpoint responderEndpoint samplePair confirmedCalls resultDelivery
      askedSession sampleInitiator.deviceId sampleInitiator.certificateFingerprintSha256
      ⟨rfl, rfl, rfl, rfl⟩ ⟨rfl, rfl, rfl, rfl⟩ (by decide +kernel)
      (hkept.mono fun _ _ => not_withdraws) (by decide +kernel) rfl rfl (by decide +kernel)
      (by decide +kernel)

/-- An accepted result that the asking side never sent does as well as its own; and its own still
does when the asking side has revoked the peer in the meantime. -/
theorem asked_trusts_alone :
    (¬ ∀ (platform : PairingPlatform) (initiatorEndpoint : PairingEndpoint) (pair : PairingPair)
        (calls : List PairCall) (call : PairingCall) (active : ActiveSession)
        (deviceId : DeviceId) (fingerprint : QByteArray), pair.initiator.Fresh →
        pair.responder.Fresh → (pair.run platform calls).responder.active = some active →
        active.role = .incoming → active.endpoint = initiatorEndpoint →
        ¬ (pair.run platform calls).responder.store.Pins deviceId fingerprint →
        ((pair.run platform calls).responder.step platform call).store.Pins deviceId fingerprint →
        (pair.run platform calls).initiator.store.Pins pair.responder.localDevice.deviceId
          pair.responder.localDevice.certificateFingerprintSha256) ∧
      ¬ ∀ (platform : PairingPlatform) (initiatorEndpoint responderEndpoint : PairingEndpoint)
        (pair : PairingPair) (calls : List PairCall) (call : PairingCall) (active : ActiveSession)
        (deviceId : DeviceId) (fingerprint : QByteArray), pair.initiator.Fresh →
        pair.responder.Fresh →
        Throughout (PairingPair.step platform) (Genuine initiatorEndpoint responderEndpoint)
          (calls ++ [⟨.responder, call⟩]) pair →
        (pair.run platform calls).responder.active = some active → active.role = .incoming →
        active.endpoint = initiatorEndpoint →
        ¬ (pair.run platform calls).responder.store.Pins deviceId fingerprint →
        ((pair.run platform calls).responder.step platform call).store.Pins deviceId fingerprint →
        (pair.run platform calls).initiator.store.Pins pair.responder.localDevice.deviceId
          pair.responder.localDevice.certificateFingerprintSha256 := by
  constructor
  · intro h
    have htrusts := h samplePlatform initiatorEndpoint samplePair askedCalls resultDelivery
      askedSession sampleInitiator.deviceId sampleInitiator.certificateFingerprintSha256
      ⟨rfl, rfl, rfl, rfl⟩ ⟨rfl, rfl, rfl, rfl⟩ (by decide +kernel) rfl rfl (by decide +kernel)
      (by decide +kernel)
    exact absurd htrusts (by decide +kernel)
  · intro h
    have htrusts := h samplePlatform initiatorEndpoint responderEndpoint samplePair
      (confirmedCalls ++ [⟨.initiator, ⟨.revoke sampleResponder.deviceId, ioAt 4500⟩⟩])
      resultDelivery askedSession sampleInitiator.deviceId
      sampleInitiator.certificateFingerprintSha256 ⟨rfl, rfl, rfl, rfl⟩ ⟨rfl, rfl, rfl, rfl⟩
      (by decide +kernel) (by decide +kernel) rfl rfl (by decide +kernel) (by decide +kernel)
    exact absurd htrusts (by decide +kernel)

end PairingPair

end DeskflowPlus.Pairing
