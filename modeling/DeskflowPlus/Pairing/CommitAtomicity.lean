import DeskflowPlus.Pairing.PairingSteps

/-!
# A commit of trust is all or nothing

A commit succeeds where it takes the session from its confirmation to its completion, and then the
peer is trusted under the session's certificate. Where it does not, the store is the one before the
call, and the session is not completed unless it was completed before: a session is not committed
twice.
-/

namespace DeskflowPlus.Pairing

open Transfer Trust

namespace PairingStateMachine

variable {machine : PairingStateMachine} {sessionId : QUuid} {now : QDateTime}

def NotCompleted (machine : PairingStateMachine) : Prop :=
  ∀ snapshot ∈ machine.snapshot, snapshot.state ≠ .completed

theorem notCompleted_of_snapshot {snapshot : PairingSnapshot}
    (hsnapshot : machine.snapshot = some snapshot) (hstate : snapshot.state ≠ .completed) :
    machine.NotCompleted := by
  intro other hother
  rw [hsnapshot] at hother
  obtain rfl := Option.some.inj hother
  exact hstate

theorem NotCompleted.prepareAction (h : machine.NotCompleted) {step : MachineStep}
    (hstep : machine.prepareAction sessionId now = .inl step) : step.machine.NotCompleted := by
  unfold PairingStateMachine.prepareAction at hstep
  split at hstep
  · cases hstep
    exact h
  · split at hstep
    · cases hstep
      exact h
    · split at hstep
      · rename_i expired hexpired
        cases hstep
        obtain ⟨hkept, -⟩ | ⟨snapshot, -, -, -, hmoved⟩ := expireIfNeeded_cases now machine
        · rw [hkept] at hexpired
          cases hexpired
        · rw [hmoved] at hexpired
          cases hexpired
          exact notCompleted_of_snapshot rfl nofun
      · cases hstep

theorem NotCompleted.complete (h : machine.NotCompleted)
    (hfailed : (machine.complete sessionId now).result.ok = false) :
    (machine.complete sessionId now).machine.NotCompleted := by
  unfold PairingStateMachine.complete transition at hfailed ⊢
  split
  · rename_i step hstep
    exact h.prepareAction hstep
  · rename_i snapshot hprepared
    rw [hprepared] at hfailed
    dsimp only at hfailed
    split
    · exact h
    · rename_i hstate
      rw [if_neg hstate] at hfailed
      cases hfailed

theorem NotCompleted.fail (h : machine.NotCompleted) (reason : PairingFailureReason) :
    (machine.fail sessionId reason now).machine.NotCompleted := by
  unfold PairingStateMachine.fail finish
  split
  · rename_i step hstep
    exact h.prepareAction hstep
  · split
    · exact h
    · exact notCompleted_of_snapshot rfl nofun

end PairingStateMachine

namespace PairingTrustCommitter

variable {qt : QtText} {hostAddress : QString → Option QString} {machine : PairingStateMachine}
  {store : DeviceStore} {files : StoreFiles} {sessionId : QUuid}
  {selection : PairingTrustSelection} {saveFaults rollbackFaults : SaveFaults}
  {failNow completeNow : QDateTime}

theorem notCompleted_commitStaged {staged : DeviceStore} (h : machine.NotCompleted)
    (hfailed : (commitStaged sessionId saveFaults rollbackFaults failNow completeNow staged store
      files machine).result.ok = false) :
    (commitStaged sessionId saveFaults rollbackFaults failNow completeNow staged store files
      machine).machine.NotCompleted := by
  unfold commitStaged at hfailed ⊢
  dsimp only at hfailed ⊢
  split
  · exact h.fail .trustStoreWriteFailed
  · rename_i hsaved
    rw [if_neg hsaved] at hfailed
    split
    · rename_i hcompleted
      exact h.complete (Bool.eq_false_iff.mpr hcompleted)
    · rename_i hcompleted
      rw [if_neg hcompleted] at hfailed
      cases hfailed

theorem notCompleted_commit (h : machine.NotCompleted)
    (hfailed : (commit qt hostAddress sessionId selection saveFaults rollbackFaults failNow
      completeNow store files machine).result.ok = false) :
    (commit qt hostAddress sessionId selection saveFaults rollbackFaults failNow completeNow store
      files machine).machine.NotCompleted := by
  unfold commit at hfailed ⊢
  dsimp only at hfailed ⊢
  split
  case h_2 => exact h
  rename_i snapshot fingerprint hsnapshot hpending
  rw [hsnapshot, hpending] at hfailed
  dsimp only at hfailed
  split
  · exact h
  rename_i hready
  rw [if_neg hready] at hfailed
  split
  · exact h
  rename_i hpeer
  rw [if_neg hpeer] at hfailed
  split
  · exact h
  rename_i staged hstaged
  rw [hstaged] at hfailed
  exact notCompleted_commitStaged h hfailed

def EndsCompleted (machine : PairingStateMachine) : Prop :=
  ∃ snapshot, machine.snapshot = some snapshot ∧ snapshot.state = .completed

def HoldsPeer (machine : PairingStateMachine) (store : DeviceStore) : Prop :=
  ∃ snapshot device, machine.snapshot = some snapshot ∧
    store.find snapshot.peer.id = some device ∧ device.revoked = false ∧
    device.fingerprintSha256 = machine.peerFingerprintSha256 ∧
    store.Pins snapshot.peer.id machine.peerFingerprintSha256

def IsConfirming (sessionId : QUuid) (machine : PairingStateMachine) : Prop :=
  ∃ snapshot, machine.snapshot = some snapshot ∧ snapshot.pairingSessionId = sessionId ∧
    snapshot.state = .confirming

structure CommitsAtomically (platform : PairingPlatform) (sessionId : QUuid)
    (selection : PairingTrustSelection) (machine : PairingStateMachine) (store : DeviceStore)
    (step : CommitStep) : Prop where
  success : step.result.ok = true ↔
    IsConfirming sessionId machine ∧ EndsCompleted step.machine ∧ HoldsPeer step.machine step.store
  /-- The peer's record is the one that was asked for, and the others stay. -/
  record : step.result.ok = true → ∀ snapshot, machine.snapshot = some snapshot →
    ∃ device,
      validateAndNormalize platform.text platform.hostAddress
          (record platform.text selection store snapshot.peer machine.peerFingerprintSha256) =
        .ok device ∧
      ∀ deviceId, step.store.find deviceId =
        if deviceId = snapshot.peer.id then some device else store.find deviceId
  failure : step.result.ok = false → step.store = store

theorem find_upsert {next : DeviceStore} {device : StoredDevice}
    (h : store.upsert qt hostAddress device = .ok next) :
    ∃ normalized, validateAndNormalize qt hostAddress device = .ok normalized ∧
      ∀ deviceId, next.find deviceId =
        if deviceId = device.deviceId then some normalized else store.find deviceId := by
  unfold DeviceStore.upsert at h
  split at h
  · cases h
  rename_i normalized hnormalized
  cases h
  refine ⟨normalized, hnormalized, fun deviceId => ?_⟩
  have hid : normalized.deviceId = device.deviceId :=
    congrArg TrustedDevice.deviceId (toTrustedDevice_of_validateAndNormalize hnormalized).1
  unfold DeviceStore.find
  rw [List.find?_cons, hid]
  by_cases hdevice : deviceId = device.deviceId
  · rw [if_pos hdevice, decide_eq_true hdevice.symm]
  · rw [if_neg hdevice, decide_eq_false (Ne.symm hdevice), List.find?_filter]
    dsimp only
    congr 1
    funext other
    have hkept : other.deviceId = deviceId → other.deviceId ≠ device.deviceId :=
      fun hother heq => hdevice (hother.symm.trans heq)
    simpa using hkept

variable {platform : PairingPlatform}

theorem holdsPeer_of_upsert {snapshot : PairingSnapshot} {next : DeviceStore}
    (hstore : store.upsert platform.text platform.hostAddress
      (record platform.text selection store snapshot.peer machine.peerFingerprintSha256) =
        .ok next) :
    HoldsPeer { machine with snapshot := some { snapshot with state := .completed } } next := by
  obtain ⟨device, hdevice, hfind⟩ := find_upsert hstore
  have htrusted := (toTrustedDevice_of_validateAndNormalize hdevice).1
  refine ⟨_, device, rfl, ?_, congrArg TrustedDevice.revoked htrusted,
    congrArg TrustedDevice.fingerprintSha256 htrusted, DeviceStore.pins_upsert hstore rfl⟩
  rw [hfind]
  exact if_pos rfl

/-- **A commit is atomic.** -/
theorem commit_atomic (platform : PairingPlatform) (sessionId : QUuid)
    (selection : PairingTrustSelection) (saveFaults rollbackFaults : SaveFaults)
    (failNow completeNow : QDateTime) (store : DeviceStore) (files : StoreFiles)
    (machine : PairingStateMachine) :
    CommitsAtomically platform sessionId selection machine store
      (commit platform.text platform.hostAddress sessionId selection saveFaults rollbackFaults
        failNow completeNow store files machine) := by
  obtain ⟨hfailed, hstore, -⟩ | ⟨hok, -, snapshot, hsnapshot, hsession, hstate, -, hmachine, hstore⟩ :=
    @commit_cases platform machine store files sessionId selection saveFaults rollbackFaults failNow
      completeNow
  · refine ⟨iff_of_false (by rw [hfailed]; nofun) ?_, fun hok => ?_, fun _ => hstore⟩
    · rintro ⟨⟨snapshot, hsnapshot, -, hstate⟩, ⟨last, hlast, hcompleted⟩, -⟩
      have hbefore : machine.NotCompleted :=
        PairingStateMachine.notCompleted_of_snapshot hsnapshot (by rw [hstate]; nofun)
      exact notCompleted_commit hbefore hfailed last hlast hcompleted
    · rw [hfailed] at hok
      cases hok
  · refine ⟨iff_of_true hok ?_, fun _ other hother => ?_, fun hfailed => ?_⟩
    · rw [hmachine]
      exact ⟨⟨snapshot, hsnapshot, hsession, hstate⟩, ⟨_, rfl, rfl⟩, holdsPeer_of_upsert hstore⟩
    · obtain rfl := Option.some.inj (hsnapshot.symm.trans hother)
      exact find_upsert hstore
    · rw [hok] at hfailed
      cases hfailed

def asciiPlatform : PairingPlatform where
  text := QtText.ascii
  hostAddress := some
  isUsableAddress _ := true

def confirmingMachine : PairingStateMachine where
  snapshot := some
    { pairingSessionId := 7
      peer := { id := ⟨1, one_nonNull⟩, platform := QString.literal "macos" }
      state := .confirming
      expiresAtUtc := ⟨some 2⟩ }
  peerFingerprintSha256 := List.replicate 32 0x51

/-- A commit of the session before its expiry. -/
def commitAgain (machine : PairingStateMachine) (store : DeviceStore) : CommitStep :=
  commit asciiPlatform.text asciiPlatform.hostAddress 7 {} {} {} ⟨some 1⟩ ⟨some 1⟩ store {} machine

/-- The second commit of a session is refused, though the session is completed and its peer
trusted. -/
theorem commit_twice :
    (commitAgain confirmingMachine {}).result.ok = true ∧
      ¬ ∀ (platform : PairingPlatform) (sessionId : QUuid) (selection : PairingTrustSelection)
        (saveFaults rollbackFaults : SaveFaults) (failNow completeNow : QDateTime)
        (store : DeviceStore) (files : StoreFiles) (machine : PairingStateMachine),
        let step := commit platform.text platform.hostAddress sessionId selection saveFaults
          rollbackFaults failNow completeNow store files machine
        step.result.ok = true ↔ EndsCompleted step.machine ∧ HoldsPeer step.machine step.store := by
  have hfirst : (commitAgain confirmingMachine {}).result.ok = true := by decide
  refine ⟨hfirst, fun h => ?_⟩
  have hrefused : (commitAgain (commitAgain confirmingMachine {}).machine
      (commitAgain confirmingMachine {}).store).result.ok = false := by decide
  have hsucceeds := (h asciiPlatform 7 {} {} {} ⟨some 1⟩ ⟨some 1⟩
    (commitAgain confirmingMachine {}).store {} (commitAgain confirmingMachine {}).machine).mpr
      ⟨⟨_, rfl, rfl⟩, _, _, rfl, rfl, rfl, rfl, by decide⟩
  exact Bool.false_ne_true (hrefused.symm.trans hsucceeds)

end PairingTrustCommitter

end DeskflowPlus.Pairing
