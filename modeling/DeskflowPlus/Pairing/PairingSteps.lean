import DeskflowPlus.Pairing.PairingManager

/-!
# What one action of the pairing machine can do

An action changes a session only by letting it advance: its identifier, its peer, its code and its
expiry stay, a session that is confirmed ends or stays, and one that has ended is left alone. What
changes is published. A commit changes the store only for a session that is confirmed and still
runs.
-/

namespace DeskflowPlus.Pairing

open Transfer Trust

structure Advances (earlier later : PairingSnapshot) : Prop where
  session : later.pairingSessionId = earlier.pairingSessionId
  peer : later.peer = earlier.peer
  sas : later.sixDigitSas = earlier.sixDigitSas
  expiry : later.expiresAtUtc = earlier.expiresAtUtc
  ended : earlier.state.isTerminal = true → later = earlier
  confirmed : earlier.state = .confirming → later.state = .confirming ∨ later.state.isTerminal = true

namespace Advances

theorem refl (snapshot : PairingSnapshot) : Advances snapshot snapshot :=
  ⟨rfl, rfl, rfl, rfl, fun _ => rfl, .inl⟩

theorem trans {first middle last : PairingSnapshot} (hfirst : Advances first middle)
    (hlast : Advances middle last) : Advances first last where
  session := hlast.session.trans hfirst.session
  peer := hlast.peer.trans hfirst.peer
  sas := hlast.sas.trans hfirst.sas
  expiry := hlast.expiry.trans hfirst.expiry
  ended hended := by
    have hmiddle := hfirst.ended hended
    rw [hlast.ended (hmiddle ▸ hended), hmiddle]
  confirmed hconfirming := by
    obtain hmiddle | hended := hfirst.confirmed hconfirming
    · exact hlast.confirmed hmiddle
    · rw [hlast.ended hended]
      exact .inr hended

theorem of_running {snapshot : PairingSnapshot} {state : PairingState}
    {reason : PairingFailureReason} {attemptsRemaining : Int}
    (hrunning : snapshot.state.isTerminal = false)
    (hstate : snapshot.state = .confirming → state.isTerminal = true) :
    Advances snapshot { snapshot with state, failureReason := reason, attemptsRemaining } where
  session := rfl
  peer := rfl
  sas := rfl
  expiry := rfl
  ended hended := absurd hended (by rw [hrunning]; nofun)
  confirmed hconfirming := .inr (hstate hconfirming)

end Advances

structure PairingStateMachine.Keeps (earlier later : PairingStateMachine) : Prop where
  options : later.options = earlier.options
  fingerprint : later.peerFingerprintSha256 = earlier.peerFingerprintSha256
  absent : earlier.snapshot = none → later.snapshot = none
  present : ∀ snapshot, earlier.snapshot = some snapshot →
    ∃ next, later.snapshot = some next ∧ Advances snapshot next

namespace PairingStateMachine

variable {machine : PairingStateMachine} {snapshot : PairingSnapshot} {now : QDateTime}
  {sessionId : QUuid}

namespace Keeps

theorem refl (machine : PairingStateMachine) : machine.Keeps machine :=
  ⟨rfl, rfl, id, fun snapshot h => ⟨snapshot, h, .refl snapshot⟩⟩

theorem trans {first middle last : PairingStateMachine} (hfirst : first.Keeps middle)
    (hlast : middle.Keeps last) : first.Keeps last where
  options := hlast.options.trans hfirst.options
  fingerprint := hlast.fingerprint.trans hfirst.fingerprint
  absent h := hlast.absent (hfirst.absent h)
  present snapshot h := by
    obtain ⟨between, hbetween, hadvances⟩ := hfirst.present snapshot h
    obtain ⟨next, hnext, hlater⟩ := hlast.present between hbetween
    exact ⟨next, hnext, hadvances.trans hlater⟩

theorem of_snapshot (hsnapshot : machine.snapshot = some snapshot) {next : PairingSnapshot}
    (hadvances : Advances snapshot next) : machine.Keeps { machine with snapshot := some next } where
  options := rfl
  fingerprint := rfl
  absent h := absurd (h.symm.trans hsnapshot) nofun
  present _ h := ⟨next, rfl, Option.some.inj (hsnapshot.symm.trans h) ▸ hadvances⟩

theorem eq_of_ended {later : PairingStateMachine} (h : machine.Keeps later)
    (hended : ∀ snapshot ∈ machine.snapshot, snapshot.state.isTerminal = true) :
    later = machine := by
  obtain ⟨options, snapshot, fingerprint⟩ := machine
  obtain ⟨laterOptions, laterSnapshot, laterFingerprint⟩ := later
  have hoptions : laterOptions = options := h.options
  have hfingerprint : laterFingerprint = fingerprint := h.fingerprint
  have hsnapshot : laterSnapshot = snapshot := by
    cases snapshot with
    | none => exact h.absent rfl
    | some snapshot =>
      obtain ⟨next, hnext, hadvances⟩ := h.present snapshot rfl
      exact hnext.trans (congrArg some (hadvances.ended (hended snapshot rfl)))
  rw [hoptions, hfingerprint, hsnapshot]

end Keeps

def Ended (machine : PairingStateMachine) : Prop :=
  ∀ snapshot ∈ machine.snapshot, snapshot.state.isTerminal = true

/-- What an action gives: the machine's session advances, and a change is published. -/
structure Acts (machine : PairingStateMachine) (step : MachineStep) : Prop where
  keeps : machine.Keeps step.machine
  published : step.published = false → step.machine = machine

theorem acts_failure (error : PairingError) (diagnostic : String) :
    machine.Acts (failure error diagnostic machine) :=
  ⟨.refl machine, fun _ => rfl⟩

theorem acts_of_snapshot {result : PairingActionResult} {next : PairingSnapshot}
    (hsnapshot : machine.snapshot = some snapshot) (hadvances : Advances snapshot next) :
    machine.Acts ⟨result, { machine with snapshot := some next }, true⟩ :=
  ⟨.of_snapshot hsnapshot hadvances, nofun⟩

/-- The clock ends a session that is running and past its expiry. -/
theorem expireIfNeeded_cases (now : QDateTime) (machine : PairingStateMachine) :
    (machine.expireIfNeeded now = (false, machine) ∧ ∀ snapshot ∈ machine.snapshot,
      snapshot.state.isTerminal = true ∨ before now snapshot.expiresAtUtc = true) ∨
    ∃ snapshot, machine.snapshot = some snapshot ∧ snapshot.state.isTerminal = false ∧
      before now snapshot.expiresAtUtc = false ∧
      machine.expireIfNeeded now = (true, machine.moveTo .expired .expired snapshot) := by
  unfold expireIfNeeded
  cases hsnapshot : machine.snapshot with
  | none => exact .inl ⟨rfl, nofun⟩
  | some snapshot =>
    dsimp only
    by_cases hholds : (snapshot.state.isTerminal || before now snapshot.expiresAtUtc) = true
    · rw [if_pos hholds]
      refine .inl ⟨rfl, fun other hother => ?_⟩
      obtain rfl : snapshot = other := Option.some.inj hother
      exact (Bool.or_eq_true _ _).mp hholds
    · rw [if_neg hholds]
      obtain ⟨hrunning, hpast⟩ := Bool.or_eq_false_iff.mp (Bool.eq_false_iff.mpr hholds)
      exact .inr ⟨snapshot, rfl, hrunning, hpast, rfl⟩

theorem expireIfNeeded_of_ended (h : machine.Ended) :
    machine.expireIfNeeded now = (false, machine) := by
  obtain ⟨hsame, -⟩ | ⟨snapshot, hsnapshot, hrunning, -⟩ := expireIfNeeded_cases now machine
  · exact hsame
  · exact absurd (h snapshot hsnapshot) (by rw [hrunning]; nofun)

theorem keeps_expireIfNeeded (now : QDateTime) (machine : PairingStateMachine) :
    machine.Keeps (machine.expireIfNeeded now).2 := by
  obtain ⟨hsame, -⟩ | ⟨snapshot, hsnapshot, hrunning, -, hexpired⟩ :=
    expireIfNeeded_cases now machine
  · rw [hsame]
    exact .refl machine
  · rw [hexpired]
    exact .of_snapshot hsnapshot (.of_running hrunning fun _ => rfl)

theorem prepareAction_cases (sessionId : QUuid) (now : QDateTime) (machine : PairingStateMachine) :
    (∃ step, machine.prepareAction sessionId now = .inl step ∧ step.result.ok = false ∧
      machine.Acts step) ∨
    ∃ snapshot, machine.prepareAction sessionId now = .inr snapshot ∧
      machine.snapshot = some snapshot ∧ snapshot.pairingSessionId = sessionId ∧
      (snapshot.state.isTerminal = true ∨ before now snapshot.expiresAtUtc = true) := by
  unfold prepareAction
  cases hsnapshot : machine.snapshot with
  | none => exact .inl ⟨_, rfl, rfl, acts_failure _ _⟩
  | some snapshot =>
    dsimp only
    by_cases hsession : sessionId = 0 ∨ snapshot.pairingSessionId ≠ sessionId
    · rw [if_pos hsession]
      exact .inl ⟨_, rfl, rfl, acts_failure _ _⟩
    rw [if_neg hsession]
    have hsame : snapshot.pairingSessionId = sessionId :=
      not_not.mp fun hother => hsession (.inr hother)
    obtain ⟨hnow, hruns⟩ | ⟨expiring, hexpiring, hrunning, -, hexpired⟩ :=
      expireIfNeeded_cases now machine
    · rw [hnow]
      exact .inr ⟨snapshot, rfl, rfl, hsame, hruns snapshot hsnapshot⟩
    · rw [hexpired]
      refine .inl ⟨_, rfl, rfl, ?_, nofun⟩
      exact .of_snapshot hexpiring (.of_running hrunning fun _ => rfl)

theorem prepareAction_of_running (hsnapshot : machine.snapshot = some snapshot)
    (hsession : snapshot.pairingSessionId = sessionId) (hnamed : sessionId ≠ 0)
    (hrunning : snapshot.state.isTerminal = false) (now : QDateTime) :
    machine.prepareAction sessionId now =
      if before now snapshot.expiresAtUtc then .inr snapshot
      else .inl (failure .expired "pairing session expired"
        (machine.moveTo .expired .expired snapshot) true) := by
  unfold prepareAction expireIfNeeded
  rw [hsnapshot]
  dsimp only
  rw [if_neg (not_or.mpr ⟨hnamed, not_not_intro hsession⟩), hrunning, Bool.false_or]
  by_cases hbefore : before now snapshot.expiresAtUtc = true
  · rw [if_pos hbefore, if_pos hbefore]
  · rw [if_neg hbefore, if_neg hbefore]

theorem transition_cases {required next : PairingState}
    (hrequired : required.isTerminal = false)
    (hnext : required = .confirming → next.isTerminal = true) (sessionId : QUuid)
    (now : QDateTime) (machine : PairingStateMachine) :
    machine.Acts (machine.transition sessionId required next now) ∧
    ((machine.transition sessionId required next now).result.ok = true →
      ∃ snapshot, machine.snapshot = some snapshot ∧ snapshot.pairingSessionId = sessionId ∧
        snapshot.state = required ∧ before now snapshot.expiresAtUtc = true ∧
        (machine.transition sessionId required next now).machine =
          { machine with snapshot := some { snapshot with state := next } } ∧
        (machine.transition sessionId required next now).published = true) := by
  unfold transition
  obtain ⟨step, hstep, hfailed, hacts⟩ | ⟨snapshot, hprepared, hsnapshot, hsession, hruns⟩ :=
    prepareAction_cases sessionId now machine
  · rw [hstep]
    exact ⟨hacts, fun hok => absurd hok (by rw [hfailed]; nofun)⟩
  rw [hprepared]
  dsimp only
  by_cases hstate : snapshot.state = required
  · rw [if_neg (not_not_intro hstate)]
    have hrunning : snapshot.state.isTerminal = false := hstate ▸ hrequired
    refine ⟨acts_of_snapshot hsnapshot (.of_running hrunning fun h => hnext (hstate ▸ h)),
      fun _ => ⟨snapshot, hsnapshot, hsession, hstate, ?_, rfl, rfl⟩⟩
    exact hruns.resolve_left (by rw [hrunning]; nofun)
  · rw [if_pos hstate]
    exact ⟨acts_failure _ _, nofun⟩

theorem transition_of_running {required next : PairingState}
    (hsnapshot : machine.snapshot = some snapshot)
    (hsession : snapshot.pairingSessionId = sessionId) (hnamed : sessionId ≠ 0)
    (hstate : snapshot.state = required) (hrunning : required.isTerminal = false)
    (now : QDateTime) :
    let step := machine.transition sessionId required next now
    step.published = true ∧
      (step.result.ok = true ∧
          step.machine = { machine with snapshot := some { snapshot with state := next } } ∨
        step.result.ok = false ∧ step.machine = machine.moveTo .expired .expired snapshot) := by
  intro step
  have hstep : step = machine.transition sessionId required next now := rfl
  clear_value step
  subst hstep
  unfold transition
  rw [prepareAction_of_running hsnapshot hsession hnamed (hstate ▸ hrunning)]
  split
  · rename_i hprepared
    split_ifs at hprepared
    obtain rfl := Sum.inl.inj hprepared
    exact ⟨rfl, .inr ⟨rfl, rfl⟩⟩
  · rename_i current hprepared
    split_ifs at hprepared
    obtain rfl := Sum.inr.inj hprepared
    rw [if_neg (not_not_intro hstate)]
    exact ⟨rfl, .inl ⟨rfl, rfl⟩⟩

/-- A session that runs is ended by `reject` and `fail`, if only by its expiry. -/
theorem finish_of_running (state : PairingState) (diagnostic : String)
    {reason : PairingFailureReason} (hreason : reason ≠ .none)
    (hsnapshot : machine.snapshot = some snapshot)
    (hsession : snapshot.pairingSessionId = sessionId) (hnamed : sessionId ≠ 0)
    (hrunning : snapshot.state.isTerminal = false) (now : QDateTime) :
    let step := machine.finish state diagnostic sessionId reason now
    step.published = true ∧ (step.machine = machine.moveTo state reason snapshot ∨
      step.machine = machine.moveTo .expired .expired snapshot) := by
  intro step
  have hstep : step = machine.finish state diagnostic sessionId reason now := rfl
  clear_value step
  subst hstep
  unfold finish
  rw [prepareAction_of_running hsnapshot hsession hnamed hrunning]
  split
  · rename_i hprepared
    split_ifs at hprepared
    obtain rfl := Sum.inl.inj hprepared
    exact ⟨rfl, .inr rfl⟩
  · rename_i current hprepared
    split_ifs at hprepared
    obtain rfl := Sum.inr.inj hprepared
    rw [hrunning, Bool.false_or, decide_eq_false hreason]
    exact ⟨rfl, .inl rfl⟩

theorem acts_markTransportReady (sessionId : QUuid) (now : QDateTime)
    (machine : PairingStateMachine) : machine.Acts (machine.markTransportReady sessionId now) :=
  (@transition_cases .requesting .exchangingTranscript rfl nofun sessionId now machine).1

theorem acts_markTranscriptExchanged (sessionId : QUuid) (now : QDateTime)
    (machine : PairingStateMachine) :
    machine.Acts (machine.markTranscriptExchanged sessionId now) :=
  (@transition_cases .exchangingTranscript .awaitingUserComparison rfl nofun sessionId now
    machine).1

theorem acts_finish {state : PairingState} (hstate : state.isTerminal = true) (diagnostic : String)
    (sessionId : QUuid) (reason : PairingFailureReason) (now : QDateTime)
    (machine : PairingStateMachine) :
    machine.Acts (machine.finish state diagnostic sessionId reason now) := by
  unfold finish
  obtain ⟨step, hstep, -, hacts⟩ | ⟨snapshot, hprepared, hsnapshot, -, -⟩ :=
    prepareAction_cases sessionId now machine
  · rw [hstep]
    exact hacts
  rw [hprepared]
  dsimp only
  by_cases hended : (snapshot.state.isTerminal || decide (reason = .none)) = true
  · rw [if_pos hended]
    exact acts_failure _ _
  · rw [if_neg hended]
    have hrunning := (Bool.or_eq_false_iff.mp (Bool.eq_false_iff.mpr hended)).1
    exact acts_of_snapshot hsnapshot (.of_running hrunning fun _ => hstate)

theorem acts_fail (sessionId : QUuid) (reason : PairingFailureReason) (now : QDateTime)
    (machine : PairingStateMachine) : machine.Acts (machine.fail sessionId reason now) :=
  acts_finish rfl _ sessionId reason now machine

theorem acts_reject (sessionId : QUuid) (reason : PairingFailureReason) (now : QDateTime)
    (machine : PairingStateMachine) : machine.Acts (machine.reject sessionId reason now) :=
  acts_finish rfl _ sessionId reason now machine

theorem submitDisplayedSas_cases (sessionId : QUuid) (sixDigits : QString) (now : QDateTime)
    (machine : PairingStateMachine) :
    machine.Acts (machine.submitDisplayedSas sessionId sixDigits now) ∧
    ((machine.submitDisplayedSas sessionId sixDigits now).result.ok = true →
      ∃ snapshot, machine.snapshot = some snapshot ∧ snapshot.pairingSessionId = sessionId ∧
        sixDigits = snapshot.sixDigitSas ∧ before now snapshot.expiresAtUtc = true ∧
        (machine.submitDisplayedSas sessionId sixDigits now).machine =
          { machine with snapshot := some { snapshot with state := .confirming } } ∧
        (machine.submitDisplayedSas sessionId sixDigits now).published = true) := by
  unfold submitDisplayedSas
  obtain ⟨step, hstep, hfailed, hacts⟩ | ⟨snapshot, hprepared, hsnapshot, hsession, hruns⟩ :=
    prepareAction_cases sessionId now machine
  · rw [hstep]
    exact ⟨hacts, fun hok => absurd hok (by rw [hfailed]; nofun)⟩
  rw [hprepared]
  dsimp only
  by_cases hstate : snapshot.state = .awaitingUserComparison
  case neg =>
    rw [if_pos hstate]
    exact ⟨acts_failure _ _, nofun⟩
  rw [if_neg (not_not_intro hstate)]
  have hrunning : snapshot.state.isTerminal = false := by rw [hstate]; rfl
  have hadvances (state : PairingState) (reason : PairingFailureReason) (attempts : Int) :
      Advances snapshot
        { snapshot with state, failureReason := reason, attemptsRemaining := attempts } :=
    .of_running hrunning fun hconfirming => absurd (hstate.symm.trans hconfirming) nofun
  by_cases hdigits : isSixDigits sixDigits = true
  case neg =>
    rw [if_pos hdigits]
    exact ⟨acts_failure _ _, nofun⟩
  rw [if_neg (not_not_intro hdigits)]
  by_cases hsas : sixDigits = snapshot.sixDigitSas
  · rw [if_neg (not_not_intro hsas)]
    exact ⟨acts_of_snapshot hsnapshot (hadvances .confirming _ _),
      fun _ => ⟨snapshot, hsnapshot, hsession, hsas, hruns.resolve_left (by rw [hrunning]; nofun),
        rfl, rfl⟩⟩
  rw [if_pos hsas]
  split
  · exact ⟨acts_of_snapshot hsnapshot (hadvances .rejected .tooManyAttempts _), nofun⟩
  · exact ⟨acts_of_snapshot hsnapshot (hadvances _ _ _), nofun⟩

theorem submitDisplayedSas_of_running {sixDigits : QString}
    (hsnapshot : machine.snapshot = some snapshot)
    (hsession : snapshot.pairingSessionId = sessionId) (hnamed : sessionId ≠ 0)
    (hstate : snapshot.state = .awaitingUserComparison) (hdigits : isSixDigits sixDigits = true)
    (hsas : sixDigits = snapshot.sixDigitSas) (now : QDateTime) :
    let step := machine.submitDisplayedSas sessionId sixDigits now
    step.published = true ∧
      (step.result.ok = true ∧
          step.machine = { machine with snapshot := some { snapshot with state := .confirming } } ∨
        step.result.ok = false ∧ step.machine = machine.moveTo .expired .expired snapshot) := by
  intro step
  have hstep : step = machine.submitDisplayedSas sessionId sixDigits now := rfl
  clear_value step
  subst hstep
  unfold submitDisplayedSas
  have hrunning : snapshot.state.isTerminal = false := by rw [hstate]; rfl
  rw [prepareAction_of_running hsnapshot hsession hnamed hrunning]
  split
  · rename_i hprepared
    split_ifs at hprepared
    obtain rfl := Sum.inl.inj hprepared
    exact ⟨rfl, .inr ⟨rfl, rfl⟩⟩
  · rename_i current hprepared
    split_ifs at hprepared
    obtain rfl := Sum.inr.inj hprepared
    rw [if_neg (not_not_intro hstate), if_neg (not_not_intro hdigits),
      if_neg (not_not_intro hsas)]
    exact ⟨rfl, .inl ⟨rfl, rfl⟩⟩

theorem beginSession_cases {peer : DeviceSnapshot} {fingerprint : QByteArray}
    {expiresAtUtc expiryNow beginNow : QDateTime} {receivedSas : Option QString}
    {generated : UInt32} (hended : machine.Ended) :
    let step := machine.beginSession peer fingerprint sessionId expiresAtUtc receivedSas generated
      expiryNow beginNow
    (step.result.ok = false ∧ step.machine = machine ∧ step.published = false) ∨
    (step.result.ok = true ∧ step.published = true ∧ sessionId ≠ 0 ∧
      step.machine.options = machine.options ∧
      step.machine.peerFingerprintSha256 = fingerprint ∧
      ∃ snapshot, step.machine.snapshot = some snapshot ∧
        snapshot.pairingSessionId = sessionId ∧ snapshot.peer = peer ∧
        snapshot.expiresAtUtc = expiresAtUtc ∧ snapshot.state = .requesting ∧
        snapshot.sixDigitSas = receivedSas.getD (formatSas generated.toNat)) := by
  intro step
  have hstep : step = machine.beginSession peer fingerprint sessionId expiresAtUtc receivedSas
    generated expiryNow beginNow := rfl
  clear_value step
  subst hstep
  unfold beginSession
  rw [expireIfNeeded_of_ended hended]
  dsimp only
  split
  · exact .inl ⟨rfl, rfl, rfl⟩
  split
  · exact .inl ⟨rfl, rfl, rfl⟩
  split
  · exact .inl ⟨rfl, rfl, rfl⟩
  split
  · exact .inl ⟨rfl, rfl, rfl⟩
  rename_i sixDigitSas hsas
  have hchosen : sixDigitSas = receivedSas.getD (formatSas generated.toNat) := by
    cases receivedSas with
    | some sixDigits =>
      dsimp only at hsas
      split at hsas <;> cases hsas
      rfl
    | none =>
      dsimp only at hsas
      split at hsas <;> cases hsas
      rfl
  split
  · exact .inl ⟨rfl, rfl, rfl⟩
  · rename_i hvalid
    have hnamed : sessionId ≠ 0 := fun hnull => hvalid (.inr (.inl hnull))
    exact .inr ⟨rfl, rfl, hnamed, rfl, rfl, _, rfl, rfl, rfl, rfl, rfl, hchosen⟩

end PairingStateMachine

namespace PairingTrustCommitter

variable {platform : PairingPlatform} {machine : PairingStateMachine} {store : DeviceStore}
  {files : StoreFiles} {sessionId : QUuid}

theorem commitStaged_cases (saveFaults rollbackFaults : SaveFaults)
    (failNow completeNow : QDateTime) (staged : DeviceStore) :
    let step := commitStaged sessionId saveFaults rollbackFaults failNow completeNow staged store
      files machine
    (step.result.ok = false ∧ step.store = store ∧
      machine.Acts ⟨{}, step.machine, step.published⟩) ∨
    (step.result.ok = true ∧ step.store = staged ∧ step.published = true ∧
      ∃ snapshot, machine.snapshot = some snapshot ∧ snapshot.state = .confirming ∧
        before completeNow snapshot.expiresAtUtc = true ∧
        step.machine = { machine with snapshot := some { snapshot with state := .completed } }) := by
  intro step
  have hstep : step = commitStaged sessionId saveFaults rollbackFaults failNow completeNow staged
    store files machine := rfl
  clear_value step
  subst hstep
  unfold commitStaged
  dsimp only
  split
  · obtain ⟨hkeeps, hpublished⟩ := machine.acts_fail sessionId .trustStoreWriteFailed failNow
    exact .inl ⟨rfl, rfl, hkeeps, hpublished⟩
  obtain ⟨⟨hkeeps, hquiet⟩, hok⟩ := @PairingStateMachine.transition_cases .confirming .completed
    rfl (fun _ => rfl) sessionId completeNow machine
  split
  · exact .inl ⟨rfl, rfl, hkeeps, hquiet⟩
  · rename_i hcompleted
    obtain ⟨snapshot, hsnapshot, -, hstate, hbefore, hmachine, hpublished⟩ :=
      hok (not_not.mp hcompleted)
    exact .inr ⟨rfl, rfl, hpublished, snapshot, hsnapshot, hstate, hbefore, hmachine⟩

theorem commit_cases (selection : PairingTrustSelection) (saveFaults rollbackFaults : SaveFaults)
    (failNow completeNow : QDateTime) :
    let step := commit platform.text platform.hostAddress sessionId selection saveFaults
      rollbackFaults failNow completeNow store files machine
    (step.result.ok = false ∧ step.store = store ∧
      machine.Acts ⟨{}, step.machine, step.published⟩) ∨
    (step.result.ok = true ∧ step.published = true ∧
      ∃ snapshot, machine.snapshot = some snapshot ∧ snapshot.pairingSessionId = sessionId ∧
        snapshot.state = .confirming ∧ before completeNow snapshot.expiresAtUtc = true ∧
        step.machine = { machine with snapshot := some { snapshot with state := .completed } } ∧
        store.upsert platform.text platform.hostAddress
          (record platform.text selection store snapshot.peer machine.peerFingerprintSha256) =
            .ok step.store) := by
  intro step
  have hstep : step = commit platform.text platform.hostAddress sessionId selection saveFaults
    rollbackFaults failNow completeNow store files machine := rfl
  clear_value step
  subst hstep
  unfold commit
  dsimp only
  split
  case h_2 => exact .inl ⟨rfl, rfl, .refl machine, fun _ => rfl⟩
  rename_i snapshot fingerprint hsnapshot hpending
  have hfingerprint : fingerprint = machine.peerFingerprintSha256 := by
    unfold PairingStateMachine.pendingFingerprint at hpending
    rw [hsnapshot] at hpending
    dsimp only at hpending
    split_ifs at hpending
    exact (Option.some.inj hpending).symm
  subst hfingerprint
  split
  · exact .inl ⟨rfl, rfl, .refl machine, fun _ => rfl⟩
  rename_i hready
  obtain ⟨hsession, -⟩ := not_or.mp hready
  split
  · exact .inl ⟨rfl, rfl, .refl machine, fun _ => rfl⟩
  split
  · exact .inl ⟨rfl, rfl, .refl machine, fun _ => rfl⟩
  rename_i staged hstaged
  obtain hfailed | ⟨hok, hstore, hpublished, current, hcurrent, hstate, hbefore, hmachine⟩ :=
    @commitStaged_cases machine store files sessionId saveFaults rollbackFaults failNow
      completeNow staged
  · exact .inl hfailed
  · obtain rfl : snapshot = current := Option.some.inj (hsnapshot.symm.trans hcurrent)
    exact .inr ⟨hok, hpublished, snapshot, hsnapshot, not_not.mp hsession, hstate, hbefore, hmachine,
      hstaged.trans (congrArg Except.ok hstore.symm)⟩

end PairingTrustCommitter

end DeskflowPlus.Pairing
