import DeskflowPlus.App.IncomingTransferRuntime
import Mathlib.Tactic.SplitIfs

/-!
# The life of a reception

What the rest of the world sees of an incoming session, and how it moves. Every event of the runtime
moves each session at most once, and publishes the snapshot exactly where it moves.
-/

namespace DeskflowPlus.App

open Transfer
open TransferControlStateMachine (isTerminal)

/-- The steps of a reception that only some events allow: its peer goes, it comes back from the
recovery store, it is cancelled after its end. -/
inductive Disturbance where
  | interrupt
  | restore
  | reopen

/-- The published state and actions, whether a pipeline runs, and whether the offer still waits for
the local answer. -/
structure Reception where
  state : TransferState
  canPause : Bool
  canResume : Bool
  canCancel : Bool
  running : Bool
  undecided : Bool

namespace Reception

def offered : Reception := ⟨.waitingForAcceptance, false, false, true, false, true⟩
def restored : Reception := ⟨.interrupted, false, true, true, false, false⟩

inductive Move (may : Disturbance → Prop) (earlier : Reception) : Reception → Prop
  | accept (hundecided : earlier.undecided) :
      Move may earlier { earlier with state := .queued, running := true, undecided := false }
  | pause (hrunning : earlier.running)
      (hstate : earlier.state = .transferring ∨ earlier.state = .queued) :
      Move may earlier { earlier with state := .paused, canPause := false, canResume := true }
  | resume (hrunning : earlier.running) (hstate : earlier.state = .paused) :
      Move may earlier { earlier with state := .transferring, canPause := true, canResume := false }
  | cancel (hrunning : earlier.running) (hcancelling : earlier.state ≠ .cancelling)
      (hcancelled : earlier.state ≠ .cancelled) (hended : isTerminal earlier.state → may .reopen) :
      Move may earlier { earlier with
        state := .cancelling, canPause := false, canResume := false, canCancel := false
        running := false }
  | cleaned (hstate : earlier.state = .cancelling) {state : TransferState}
      (hnext : state = .cancelled ∨ state = .failed) : Move may earlier { earlier with state }
  | interrupt (hmay : may .interrupt) (hrunning : earlier.running)
      (hactive : isReceivePipelineActive earlier.state) :
      Move may earlier { earlier with
        state := .interrupted, canPause := false, canResume := true, canCancel := true
        running := false }
  | reattach (hstate : earlier.state = .interrupted) (hrunning : earlier.running = false) :
      Move may earlier { earlier with
        state := .resuming, canPause := false, canResume := false, canCancel := true
        running := true }
  | progress (hactive : isReceivePipelineActive earlier.state) (hpaused : earlier.state ≠ .paused) :
      Move may earlier { earlier with
        state := .transferring, canPause := true, canResume := false, canCancel := true }
  | finish (hactive : isReceivePipelineActive earlier.state) {state : TransferState}
      (hnext : state = .completed ∨ state = .failed) :
      Move may earlier { earlier with
        state, canPause := false, canResume := false, canCancel := false }

/-- What every reception keeps. -/
structure Sound (reception : Reception) : Prop where
  running : isReceivePipelineActive reception.state → reception.running
  undecided : reception.undecided → reception.state = .waitingForAcceptance ∧
    reception.running = false ∧ reception.canPause = false ∧ reception.canResume = false
  canPause : reception.canPause → reception.state = .transferring
  canResume : reception.canResume → reception.state = .paused ∨ reception.state = .interrupted
  canCancel : reception.canCancel → reception.state = .waitingForAcceptance ∨
    reception.state = .interrupted ∨ isReceivePipelineActive reception.state
  interrupted : reception.state = .interrupted → reception.canCancel ∧ reception.running = false

theorem sound_offered : Sound offered := by
  constructor <;> decide

theorem sound_restored : Sound restored := by
  constructor <;> decide

namespace Sound

variable {reception : Reception}

theorem decided_of_running (h : reception.Sound) (hrunning : reception.running) :
    reception.undecided = false :=
  Bool.eq_false_iff.mpr fun hundecided =>
    Bool.false_ne_true ((h.undecided hundecided).2.1.symm.trans hrunning)

theorem decided_of_state (h : reception.Sound) (hstate : reception.state ≠ .waitingForAcceptance) :
    reception.undecided = false :=
  Bool.eq_false_iff.mpr fun hundecided => hstate (h.undecided hundecided).1

end Sound

variable {may : Disturbance → Prop} {earlier later : Reception}

theorem Move.sound (hmove : Move may earlier later) (h : earlier.Sound) : later.Sound := by
  have nothing {p : Prop} (hfalse : false = true) : p := (Bool.false_ne_true hfalse).elim
  have decided (hdecided : earlier.undecided = false) {p : Prop} (hundecided : earlier.undecided) :
      p := nothing (hdecided.symm.trans hundecided)
  cases hmove with
  | accept hundecided =>
    obtain ⟨-, -, hpause, hresume⟩ := h.undecided hundecided
    exact ⟨fun _ => rfl, nothing, fun hcan => nothing (hpause.symm.trans hcan),
      fun hcan => nothing (hresume.symm.trans hcan), fun _ => .inr (.inr rfl), nofun⟩
  | pause hrunning =>
    exact ⟨fun _ => hrunning, decided (h.decided_of_running hrunning), nothing, fun _ => .inl rfl,
      fun _ => .inr (.inr rfl), nofun⟩
  | resume hrunning =>
    exact ⟨fun _ => hrunning, decided (h.decided_of_running hrunning), fun _ => rfl, nothing,
      fun _ => .inr (.inr rfl), nofun⟩
  | cancel hrunning =>
    exact ⟨nofun, decided (h.decided_of_running hrunning), nothing, nothing, nothing, nofun⟩
  | cleaned hstate hnext =>
    have hdecided : earlier.undecided = false := h.decided_of_state (by rw [hstate]; nofun)
    have hpause (hcan : earlier.canPause) : False := by
      cases hstate.symm.trans (h.canPause hcan)
    have hresume (hcan : earlier.canResume) : False := by
      rcases h.canResume hcan with hpaused | hinterrupted
      · cases hstate.symm.trans hpaused
      · cases hstate.symm.trans hinterrupted
    have hcancel (hcan : earlier.canCancel) : False := by
      rcases h.canCancel hcan with hwaiting | hinterrupted | hactive
      · cases hstate.symm.trans hwaiting
      · cases hstate.symm.trans hinterrupted
      · rw [hstate] at hactive
        exact nothing hactive
    rcases hnext with rfl | rfl <;>
      exact ⟨nofun, decided hdecided, fun hcan => (hpause hcan).elim,
        fun hcan => (hresume hcan).elim, fun hcan => (hcancel hcan).elim, nofun⟩
  | interrupt _ hrunning =>
    exact ⟨nofun, decided (h.decided_of_running hrunning), nothing, fun _ => .inr rfl,
      fun _ => .inr (.inl rfl), fun _ => ⟨rfl, rfl⟩⟩
  | reattach hstate =>
    exact ⟨fun _ => rfl, decided (h.decided_of_state (by rw [hstate]; nofun)), nothing, nothing,
      fun _ => .inr (.inr rfl), nofun⟩
  | progress hactive =>
    have hrunning := h.running hactive
    exact ⟨fun _ => hrunning, decided (h.decided_of_running hrunning), fun _ => rfl, nothing,
      fun _ => .inr (.inr rfl), nofun⟩
  | finish hactive hnext =>
    have hdecided := h.decided_of_running (h.running hactive)
    rcases hnext with rfl | rfl <;>
      exact ⟨nofun, decided hdecided, nothing, nothing, nothing, nofun⟩

theorem Move.state_ne (hmove : Move may earlier later) : later.state ≠ .waitingForAcceptance := by
  cases hmove with
  | cleaned _ hnext | finish _ hnext => rcases hnext with rfl | rfl <;> nofun
  | _ => nofun

theorem Move.not_of_ended (hmove : earlier.Move may later) (h : earlier.Sound)
    (hended : earlier.state = .completed ∨ earlier.state = .failed ∨ earlier.state = .cancelled)
    (hreopen : ¬ may .reopen) : False := by
  have hinactive : ¬ isReceivePipelineActive earlier.state := by
    rcases hended with hstate | hstate | hstate <;> rw [hstate] <;> exact Bool.false_ne_true
  have hne {state : TransferState} (hstate : earlier.state = state)
      (hother : state ≠ .completed ∧ state ≠ .failed ∧ state ≠ .cancelled) : False := by
    rw [hstate] at hended
    rcases hended with hcompleted | hfailed | hcancelled
    · exact hother.1 hcompleted
    · exact hother.2.1 hfailed
    · exact hother.2.2 hcancelled
  cases hmove with
  | accept hundecided => exact hne (h.undecided hundecided).1 (by decide)
  | pause _ hstate =>
    rcases hstate with hstate | hstate
    · exact hne hstate (by decide)
    · exact hne hstate (by decide)
  | resume _ hstate => exact hne hstate (by decide)
  | cancel _ _ hcancelled hterminal =>
    refine hreopen (hterminal ?_)
    rcases hended with hstate | hstate | hstate
    · rw [hstate]
      rfl
    · rw [hstate]
      rfl
    · exact absurd hstate hcancelled
  | cleaned hstate => exact hne hstate (by decide)
  | reattach hstate => exact hne hstate (by decide)
  | interrupt _ _ hactive | progress hactive | finish hactive => exact hinactive hactive

end Reception

/-! ### Sessions as receptions -/

namespace IncomingSession

def reception (session : IncomingSession) : Reception where
  state := session.pipelineSnapshot.state
  canPause := session.pipelineSnapshot.canPause
  canResume := session.pipelineSnapshot.canResume
  canCancel := session.pipelineSnapshot.canCancel
  running := session.pipeline.isSome
  undecided := (session.stateMachine.waiting .incoming .awaitingLocalDecision).isSome

@[simp] theorem reception_setState {state : TransferState} {canPause canResume canCancel : Bool}
    {session : IncomingSession} : (session.setState state canPause canResume canCancel).reception =
      { session.reception with state, canPause, canResume, canCancel } := rfl

@[simp] theorem reception_setPaused {paused : Bool} {session : IncomingSession} :
    (session.setPaused paused).reception = session.reception := by
  show Reception.mk _ _ _ _ (session.pipeline.map _).isSome _ = _
  rw [Option.isSome_map]
  rfl

def view (session : IncomingSession) : TransferSnapshot × Reception :=
  (session.pipelineSnapshot, session.reception)

end IncomingSession

namespace IncomingTransferRuntime

/-- What one event does to one transfer. -/
inductive Effect (may : Disturbance → Prop) (id : TransferId) (r next : IncomingTransferRuntime) :
    Prop
  | keep (hview : (next.sessions id).map IncomingSession.view =
        (r.sessions id).map IncomingSession.view)
      (hpublished : next.published id = r.published id)
  | offer {later : IncomingSession} (hnone : r.sessions id = none)
      (hlater : next.sessions id = some later) (hreception : later.reception = .offered)
      (hpublished : next.published id = r.published id)
  | decline {session later : IncomingSession} (hsession : r.sessions id = some session)
      (hlater : next.sessions id = some later)
      (hsnapshot : later.pipelineSnapshot = session.pipelineSnapshot)
      (hundecided : session.reception.undecided)
      (hreception : later.reception = { session.reception with undecided := false })
      (hpublished : next.published id = r.published id)
  | move {session later : IncomingSession} (hsession : r.sessions id = some session)
      (hlater : next.sessions id = some later) (hmove : session.reception.Move may later.reception)
      (hpublished : next.published id = later.pipelineSnapshot :: r.published id)
  | restore {later : IncomingSession} (hmay : may .restore) (hlater : next.sessions id = some later)
      (hreception : later.reception = .restored)
      (hpublished : next.published id = later.pipelineSnapshot :: r.published id)

variable {may : Disturbance → Prop} {settings : IncomingSettings} {env : IncomingSurroundings}
  {id other : TransferId}
  {r next : IncomingTransferRuntime} {session later : IncomingSession}

namespace Effect

theorem refl : Effect may id r r := .keep rfl rfl

theorem congr {r' next' : IncomingTransferRuntime} (h : Effect may id r next)
    (hsessions : r'.sessions = r.sessions) (hpublished : r'.published = r.published)
    (hsessions' : next'.sessions = next.sessions) (hpublished' : next'.published = next.published) :
    Effect may id r' next' := by
  cases h with
  | keep hview hkept =>
    refine .keep ?_ ?_
    · rw [hsessions', hview, hsessions]
    · rw [hpublished', hkept, hpublished]
  | offer hnone hlater hreception hkept =>
    refine .offer (hsessions ▸ hnone) (hsessions' ▸ hlater) hreception ?_
    rw [hpublished', hkept, hpublished]
  | decline hsession hlater hsnapshot hundecided hreception hkept =>
    refine .decline (hsessions ▸ hsession) (hsessions' ▸ hlater) hsnapshot hundecided hreception ?_
    rw [hpublished', hkept, hpublished]
  | move hsession hlater hmove hmoved =>
    refine .move (hsessions ▸ hsession) (hsessions' ▸ hlater) hmove ?_
    rw [hpublished', hmoved, hpublished]
  | restore hmay hlater hreception hmoved =>
    refine .restore hmay (hsessions' ▸ hlater) hreception ?_
    rw [hpublished', hmoved, hpublished]

theorem of_same (hsessions : next.sessions = r.sessions) (hpublished : next.published = r.published) :
    Effect may id r next :=
  refl.congr rfl rfl hsessions hpublished

theorem of_ok {result : Except String IncomingTransferRuntime}
    (h : ∀ next, result = .ok next → Effect may id r next) : Effect may id r (r.orSame result) := by
  cases result with
  | ok next => exact h next rfl
  | error _ => exact refl

theorem of_keep (hsession : r.sessions other = some session) (hview : later.view = session.view) :
    Effect may id r (r.keep other later) := by
  refine .keep ?_ rfl
  by_cases hid : id = other
  · subst hid
    have hlater : (r.keep id later).sessions id = some later := Function.update_self ..
    rw [hlater, hsession, Option.map_some, Option.map_some, hview]
  · have hlater : (r.keep other later).sessions id = r.sessions id :=
      Function.update_of_ne hid _ _
    rw [hlater]

theorem of_publish_other (hid : id ≠ other) : Effect may id r (r.publish other later) := by
  refine .keep ?_ (Function.update_of_ne hid _ _)
  have hlater : (r.publish other later).sessions id = r.sessions id := Function.update_of_ne hid _ _
  rw [hlater]

theorem of_publish (hsession : r.sessions other = some session)
    (hmove : id = other → session.reception.Move may later.reception) :
    Effect may id r (r.publish other later) := by
  by_cases hid : id = other
  · subst hid
    exact .move hsession (Function.update_self ..) (hmove rfl) (Function.update_self ..)
  · exact of_publish_other hid

theorem of_decline (hsession : r.sessions other = some session)
    (hundecided : session.reception.undecided)
    (hreception : later.reception = { session.reception with undecided := false })
    (hsnapshot : later.pipelineSnapshot = session.pipelineSnapshot) :
    Effect may id r (r.keep other later) := by
  by_cases hid : id = other
  · subst hid
    exact .decline hsession (Function.update_self ..) hsnapshot hundecided hreception rfl
  · exact .keep (congrArg _ (Function.update_of_ne hid _ _)) rfl

theorem of_scanned {pending : List IncomingRecoveryState} (h : Effect may id { r with pending } next) :
    Effect may id r next :=
  h.congr rfl rfl rfl rfl

theorem operation (h : Effect may id r next) {operation : TransferOperation}
    {outcome : TransferOperationOutcome} {error : TransferOperationError} {diagnostic : String} :
    Effect may id r (next.publishOperation other operation outcome error diagnostic) :=
  h.congr rfl rfl rfl rfl

end Effect

/-! ### The offer's answers -/

section Offers

open TransferOfferStateMachine

variable {machine : TransferOfferStateMachine}

theorem waiting_receiveIncoming {offer : TransferOffer}
    (h : (machine.receiveIncoming offer).1.ok) :
    ((machine.receiveIncoming offer).2.waiting .incoming .awaitingLocalDecision).isSome := by
  unfold receiveIncoming openOffer at h ⊢
  extract_lets at h ⊢
  split_ifs at h ⊢ with _ hvalid
  · cases h
  · rfl
  · exact absurd h hvalid

theorem waiting_answered {snapshot : OfferSnapshot} (hstate : snapshot.state ≠ .awaitingLocalDecision)
    (hsnapshot : machine.snapshot = some snapshot) :
    (machine.waiting .incoming .awaitingLocalDecision).isSome = false := by
  have hanswered : (snapshot.direction = .incoming && snapshot.state = .awaitingLocalDecision) =
      false := by
    rw [decide_eq_false hstate, Bool.and_false]
  unfold waiting
  rw [hsnapshot, Option.filter_some, if_neg (Bool.eq_false_iff.mp hanswered)]
  rfl

theorem waiting_acceptIncoming {qt : QtText} {policy : ConflictPolicy} {destination : QString}
    {freeBytes : Nat} {origin : AcceptanceOrigin}
    (h : (machine.acceptIncoming qt policy destination freeBytes origin).1.ok) :
    (machine.waiting .incoming .awaitingLocalDecision).isSome ∧
      ((machine.acceptIncoming qt policy destination freeBytes origin).2.waiting .incoming
        .awaitingLocalDecision).isSome = false := by
  unfold acceptIncoming at h ⊢
  split at h
  · cases h
  rename_i hwaiting
  rw [hwaiting]
  dsimp only at h ⊢
  split_ifs at h ⊢
  · cases h
  · cases h
  · exact ⟨rfl, waiting_answered (by nofun) rfl⟩
  · cases h

theorem waiting_rejectIncoming {reason : RejectReason} {diagnostic : QString}
    (h : (machine.rejectIncoming reason diagnostic).1.ok) :
    (machine.waiting .incoming .awaitingLocalDecision).isSome ∧
      ((machine.rejectIncoming reason diagnostic).2.waiting .incoming
        .awaitingLocalDecision).isSome = false := by
  unfold rejectIncoming at h ⊢
  split at h
  · cases h
  rename_i hwaiting
  rw [hwaiting]
  split_ifs at h ⊢
  · cases h
  · exact ⟨rfl, waiting_answered (by nofun) rfl⟩

end Offers

/-! ### Offers -/

variable {peer : DeviceId}

theorem effect_receiveOffer {peerDisplayName : QString} {peerTrusted peerAllowsAutoAccept : Bool}
    {capabilities : NegotiatedCapabilities} {offer : TransferOffer}
    (h : r.receiveOffer peer peerDisplayName peerTrusted peerAllowsAutoAccept capabilities offer =
      .ok next) : Effect may id r next := by
  unfold receiveOffer at h
  split_ifs at h with _ hknown
  extract_lets session at h
  have hwaiting := @waiting_receiveIncoming session.stateMachine offer
  generalize session.stateMachine.receiveIncoming offer = received at h hwaiting
  obtain ⟨received, stateMachine⟩ := received
  dsimp only at h hwaiting
  split_ifs at h with hreceived
  obtain rfl := Except.ok.inj h
  by_cases hid : id = offer.transferId
  · subst hid
    have hnone : r.sessions offer.transferId = none := Option.not_isSome_iff_eq_none.mp hknown
    refine .offer hnone (Function.update_self ..) ?_ rfl
    show Reception.mk _ _ _ _ _ _ = _
    rw [hwaiting hreceived]
    rfl
  · exact .keep (congrArg _ (Function.update_of_ne hid _ _)) rfl

theorem effect_accept {options : ReceiveOptions} :
    Effect may id r (r.accept settings env other options) := by
  unfold accept
  split
  · exact Effect.refl.operation
  rename_i session hsession
  extract_lets state invalidDestination invalidAutomaticAcceptance trustRevoked
  split
  · exact Effect.refl.operation
  split
  · exact Effect.refl.operation
  split
  · exact Effect.refl.operation
  · exact .of_keep hsession rfl

theorem effect_finishAcceptPreflight {safety : Except String Unit} {freeBytes : Nat} :
    Effect may id r (r.finishAcceptPreflight settings env other safety freeBytes) := by
  unfold finishAcceptPreflight
  split
  · exact .refl
  rename_i session hsession
  split
  · exact .refl
  rename_i options hoptions
  extract_lets preflighted reject
  have hkept : Effect may id r (r.keep other preflighted) := .of_keep hsession rfl
  have hreject (diagnostic : String) : Effect may id r (reject diagnostic) := hkept.operation
  split_ifs
  · exact hreject _
  split
  · exact hreject _
  have hwaiting := @waiting_acceptIncoming preflighted.stateMachine settings.qt options.conflictPolicy
    (logicalDestination settings.qt options.destinationRoot) freeBytes options.acceptanceOrigin
  generalize preflighted.stateMachine.acceptIncoming settings.qt options.conflictPolicy
    (logicalDestination settings.qt options.destinationRoot) freeBytes options.acceptanceOrigin =
      accepted at hwaiting ⊢
  obtain ⟨accepted, stateMachine⟩ := accepted
  dsimp -zeta only at hwaiting ⊢
  split_ifs with haccepted
  · obtain ⟨hundecided, hdecided⟩ := hwaiting haccepted
    extract_lets started
    have hmove : session.reception.Move may started.reception := by
      have hstarted : started.reception =
          { session.reception with state := .queued, running := true, undecided := false } := by
        show Reception.mk _ _ _ _ _ _ = _
        rw [hdecided]
        rfl
      rw [hstarted]
      exact .accept hundecided
    exact (Effect.of_publish hsession fun _ => hmove).operation
  · exact hreject _

theorem effect_reject {reason : RejectReason} : Effect may id r (r.reject other reason) := by
  unfold reject
  split
  · exact Effect.refl.operation
  rename_i session hsession
  extract_lets state
  split_ifs
  · exact Effect.refl.operation
  · exact Effect.refl.operation
  have hwaiting := @waiting_rejectIncoming session.stateMachine reason []
  generalize session.stateMachine.rejectIncoming reason [] = rejected at hwaiting ⊢
  obtain ⟨rejected, stateMachine⟩ := rejected
  dsimp only at hwaiting ⊢
  split_ifs with hrejected
  · obtain ⟨hundecided, hdecided⟩ := hwaiting hrejected
    have hreception : ({ session with stateMachine } : IncomingSession).reception =
        { session.reception with undecided := false } := by
      show Reception.mk _ _ _ _ _ _ = _
      rw [hdecided]
      rfl
    exact (Effect.of_decline hsession hundecided hreception rfl).operation
  · exact Effect.refl.operation

/-! ### Commands -/

theorem isSome_of_not_isNone {α : Type} {value : Option α} (h : ¬ value.isNone) : value.isSome :=
  Option.isNone_eq_false_iff.mp (Bool.eq_false_iff.mpr h)

variable {command : TransferCommandMessage}

theorem effect_applyCommand (hsession : r.sessions command.transferId = some session)
    (hmay : command.cancels → id = command.transferId → session.pipeline.isSome →
      session.pipelineSnapshot.state ≠ .cancelled → isTerminal session.pipelineSnapshot.state →
      may .reopen) (h : r.applyCommand command session = .ok next) : Effect may id r next := by
  unfold applyCommand at h
  extract_lets transfer state at h
  cases command with
  | pause transferId =>
    dsimp only at h
    split at h
    · cases h
    rename_i haccepted
    obtain ⟨hnone, hstate⟩ := not_or.mp haccepted
    obtain rfl := Except.ok.inj h
    refine .of_publish hsession fun hid => ?_
    rw [IncomingSession.reception_setState, IncomingSession.reception_setPaused]
    refine .pause (isSome_of_not_isNone hnone) ?_
    by_cases htransferring : state = .transferring
    · exact .inl htransferring
    · exact .inr (not_not.mp fun hqueued => hstate ⟨htransferring, hqueued⟩)
  | resume transferId =>
    dsimp only at h
    split at h
    · cases h
    rename_i haccepted
    obtain ⟨hnone, hstate⟩ := not_or.mp haccepted
    obtain rfl := Except.ok.inj h
    refine .of_publish hsession fun hid => ?_
    rw [IncomingSession.reception_setState, IncomingSession.reception_setPaused]
    exact .resume (isSome_of_not_isNone hnone) (not_not.mp hstate)
  | cancel transferId reason keepPartial =>
    dsimp only at h
    split at h
    · obtain rfl := Except.ok.inj h
      exact .refl
    rename_i hstate
    obtain ⟨hcancelling, hcancelled⟩ := not_or.mp hstate
    split at h
    · cases h
    rename_i hnone
    obtain rfl := Except.ok.inj h
    have hrunning := isSome_of_not_isNone hnone
    exact .of_publish hsession fun hid =>
      .cancel hrunning hcancelling hcancelled (hmay rfl hid hrunning hcancelled)

theorem effect_receiveCommand {frame : Frame}
    (hmay : ∀ reason keepPartial session,
      TransferCommandCodec.decode frame.version frame.type frame.metadata =
        .ok (.cancel id reason keepPartial) →
      frame.streamId = 0 ∧ frame.payload = [] → r.sessions id = some session →
      session.peer = peer → session.pipeline.isSome →
      session.pipelineSnapshot.state ≠ .cancelled → isTerminal session.pipelineSnapshot.state →
      may .reopen) (h : r.receiveCommand peer frame = .ok next) : Effect may id r next := by
  unfold receiveCommand at h
  split at h
  · cases h
  rename_i hstream
  obtain ⟨hzero, hempty⟩ := not_or.mp hstream
  split at h
  · cases h
  split at h
  · cases h
  rename_i command hdecode _ session hsession
  split at h
  · cases h
  rename_i hpeer
  refine effect_applyCommand hsession (fun hcancels hid => ?_) h
  cases command with
  | cancel transferId reason keepPartial =>
    obtain rfl : id = transferId := hid
    exact hmay reason keepPartial session hdecode ⟨not_not.mp hzero, not_not.mp hempty⟩ hsession
      (not_not.mp hpeer)
  | pause | resume => cases hcancels

theorem effect_finishCancelCleanup {generation : UInt64} {result : Except String Unit} :
    Effect may id r (r.finishCancelCleanup env other generation result) := by
  unfold finishCancelCleanup
  split
  · exact .refl
  rename_i current hcurrent
  split
  · exact .refl
  rename_i hcleaning
  have hstate : current.reception.state = .cancelling := not_not.mp (not_or.mp hcleaning).2
  split
  · exact .of_publish hcurrent fun _ => .cleaned hstate (.inr rfl)
  · exact .of_publish hcurrent fun _ => .cleaned hstate (.inl rfl)

theorem live_of_validateLocalCommand (hcancels : command.cancels)
    (hsession : r.sessions command.transferId = some session)
    (hcancelled : session.pipelineSnapshot.state ≠ .cancelled)
    (hvalid : r.validateLocalCommand command = .ok peer) :
    isTerminal session.pipelineSnapshot.state = false := by
  cases command with
  | pause | resume => cases hcancels
  | cancel transferId reason keepPartial =>
    by_contra hended
    have hended : isTerminal session.pipelineSnapshot.state = true := Bool.not_eq_false _ ▸ hended
    have hcancelling : session.pipelineSnapshot.state ≠ .cancelling := by
      intro hstate
      rw [hstate] at hended
      cases hended
    unfold validateLocalCommand at hvalid
    rw [hsession] at hvalid
    dsimp only at hvalid
    rw [if_neg (not_and.mpr fun _ => not_or.mpr ⟨hcancelling, hcancelled⟩), hended, Bool.not_true,
      Bool.and_false, if_pos Bool.false_ne_true] at hvalid
    split at hvalid <;> cases hvalid

theorem effect_localCommand {applied : TransferOperationOutcome × IncomingTransferRuntime}
    (hvalid : r.validateLocalCommand command = .ok peer)
    (h : r.applyLocalCommand command = .ok applied) : Effect may id r applied.2 := by
  unfold applyLocalCommand at h
  split at h
  · cases h
  extract_lets state outcome at h
  split at h
  · cases h
  split at h
  · cases h
  rename_i metadata hencode _ later hreceived
  obtain rfl := Except.ok.inj h
  refine effect_receiveCommand (fun reason keepPartial session hdecode _ hsession _ _ hcancelled
    hended => ?_) hreceived
  obtain rfl : command = .cancel id reason keepPartial :=
    Except.ok.inj ((TransferCommandCodec.decode_encode hencode).symm.trans hdecode)
  have hlive := live_of_validateLocalCommand rfl hsession hcancelled hvalid
  exact absurd (hlive.symm.trans hended) Bool.false_ne_true

/-! ### Peers and callbacks -/

theorem effect_peerDisconnected
    (hmay : ∀ session, r.sessions id = some session → session.peer = peer →
      session.pipeline.isSome → isReceivePipelineActive session.pipelineSnapshot.state →
      may .interrupt) :
    Effect may id r (r.peerDisconnected peer) := by
  unfold peerDisconnected
  extract_lets interrupts leave
  cases hsession : r.sessions id with
  | none =>
    refine .keep ?_ ?_ <;> dsimp only <;> rw [hsession]
    rfl
  | some session =>
    by_cases hinterrupts : interrupts session = true
    · obtain ⟨hmatches, hactive⟩ := Bool.and_eq_true_iff.mp hinterrupts
      obtain ⟨hpeer, hrunning⟩ := Bool.and_eq_true_iff.mp hmatches
      have hleave : leave session = { session.dropPipeline with
          lastResumeResponse := none }.setState .interrupted false true true := if_pos hinterrupts
      refine @Effect.move _ _ _ _ _ (leave session) hsession ?_ ?_ ?_
      · dsimp only
        rw [hsession, Option.map_some]
      · rw [hleave]
        exact .interrupt (hmay session hsession (of_decide_eq_true hpeer) hrunning hactive) hrunning
          hactive
      · dsimp only
        rw [hsession]
        exact if_pos hinterrupts
    · have hview : (leave session).view = session.view := by
        unfold leave
        rw [if_neg hinterrupts]
        split <;> rfl
      refine .keep ?_ ?_
      · dsimp only
        rw [hsession, Option.map_some, Option.map_some, Option.map_some, hview]
      · dsimp only
        rw [hsession]
        exact if_neg hinterrupts

theorem effect_receiveResumeQuery {decoded : Except String ResumeQueryMessage}
    (h : r.receiveResumeQuery env peer decoded = .ok next) : Effect may id r next := by
  unfold receiveResumeQuery at h
  split at h
  · cases h
  split at h
  · cases h
  rename_i query session hsession
  split at h
  · cases h
  split at h
  · split at h
    · cases h
    · obtain rfl := Except.ok.inj h
      exact .refl
  split at h
  · cases h
  rename_i hinterrupted
  obtain ⟨hstate, hsome⟩ := not_or.mp hinterrupted
  split at h
  · cases h
  extract_lets resumed at h
  obtain rfl := Except.ok.inj h
  exact .of_publish hsession fun _ => .reattach (not_not.mp hstate) (Bool.eq_false_iff.mpr hsome)

theorem effect_runCallback {generation : UInt64} {callback : PipelineCallback} :
    Effect may id r (r.runCallback env other generation callback) := by
  unfold runCallback
  split
  · exact .refl
  rename_i session hsession
  extract_lets snapshot
  split
  · exact .refl
  rename_i hcurrent
  have hactive : isReceivePipelineActive session.reception.state := not_not.mp (not_or.mp hcurrent).2
  split
  · split
    · exact .refl
    · rename_i hpaused
      exact .of_publish hsession fun _ => .progress hactive hpaused
  · exact .of_keep hsession rfl
  · exact .of_publish hsession fun _ => .finish hactive (.inl rfl)
  · exact .of_publish hsession fun _ => .finish hactive (.inr rfl)

theorem effect_resolveIncomingConflict {conflictId : QUuid} :
    Effect may id r (r.resolveIncomingConflict other conflictId) := by
  unfold resolveIncomingConflict
  split
  · exact .refl
  rename_i session hsession
  split
  · exact .refl
  · exact .of_keep hsession rfl

/-! ### Rebuilt sessions -/

theorem effect_hydrateNextRecoveryState :
    Effect may id r (r.hydrateNextRecoveryState settings env) := by
  unfold hydrateNextRecoveryState
  split
  · exact .refl
  split
  · exact .refl
  extract_lets shorter
  split
  · exact .of_same rfl rfl
  split
  · exact .of_same rfl rfl
  · exact .of_same rfl rfl

theorem reception_restoredSession {result : Except String (Nat × Nat)}
    {state : IncomingRecoveryState}
    (h : restoredSession settings env result state = some session) :
    session.reception = .restored := by
  unfold restoredSession at h
  split at h
  · cases h
  split at h
  · cases h
  unfold IncomingSession.restore at h
  extract_lets created at h
  generalize created.stateMachine.receiveIncoming state.offer = received at h
  obtain ⟨received, stateMachine⟩ := received
  dsimp -zeta only at h
  have hwaiting := @waiting_acceptIncoming stateMachine settings.qt
    state.receiveOptions.conflictPolicy
    (logicalDestination settings.qt state.receiveOptions.destinationRoot) quint64Max
    state.receiveOptions.acceptanceOrigin
  generalize stateMachine.acceptIncoming settings.qt state.receiveOptions.conflictPolicy
    (logicalDestination settings.qt state.receiveOptions.destinationRoot) quint64Max
    state.receiveOptions.acceptanceOrigin = accepted at h hwaiting
  obtain ⟨accepted, answered⟩ := accepted
  dsimp -zeta only at h hwaiting
  split at h
  · cases h
  rename_i hok
  have haccepted : accepted.ok := not_not.mp (not_or.mp hok).2
  extract_lets restored at h
  obtain rfl := Option.some.inj h
  show Reception.mk _ _ _ _ _ (answered.waiting .incoming .awaitingLocalDecision).isSome = _
  rw [(hwaiting haccepted).2]
  rfl

theorem effect_finishRecoveryValidation {result : Except String (Nat × Nat)}
    (hmay : ∀ state session, r.validating = some state → state.transferId = id →
      restoredSession settings env result state = some session → may .restore) :
    Effect may id r (r.finishRecoveryValidation settings env result) := by
  unfold finishRecoveryValidation
  split
  · exact .refl
  rename_i state hstate
  extract_lets validated
  split
  · exact .of_same rfl rfl
  rename_i session hsession
  by_cases hid : id = state.transferId
  · subst hid
    exact .restore (hmay state session hstate rfl hsession) (Function.update_self ..)
      (reception_restoredSession hsession) (Function.update_self ..)
  · exact .keep (congrArg _ (Function.update_of_ne hid _ _)) (Function.update_of_ne hid _ _)

/-! ### Events -/

inductive Disturbs (settings : IncomingSettings) (id : TransferId) (r : IncomingTransferRuntime) :
    IncomingSurroundings × IncomingEvent → Disturbance → Prop
  | interrupt {env : IncomingSurroundings} {session : IncomingSession}
      (hsession : r.sessions id = some session) (hrunning : session.pipeline.isSome)
      (hactive : isReceivePipelineActive session.pipelineSnapshot.state) :
      Disturbs settings id r (env, .peerDisconnected session.peer) .interrupt
  | restore {env : IncomingSurroundings} {result : Except String (Nat × Nat)}
      {state : IncomingRecoveryState} {session : IncomingSession}
      (hvalidating : r.validating = some state) (hid : state.transferId = id)
      (hrestored : restoredSession settings env result state = some session) :
      Disturbs settings id r (env, .recoveryValidated result) .restore
  | reopen {env : IncomingSurroundings} {frame : Frame} {reason : TransferCancelReason}
      {keepPartial : Bool} {session : IncomingSession}
      (hstream : frame.streamId = 0 ∧ frame.payload = [])
      (hdecode : TransferCommandCodec.decode frame.version frame.type frame.metadata =
        .ok (.cancel id reason keepPartial))
      (hsession : r.sessions id = some session) (hrunning : session.pipeline.isSome)
      (hcancelled : session.pipelineSnapshot.state ≠ .cancelled)
      (hended : isTerminal session.pipelineSnapshot.state) :
      Disturbs settings id r (env, .receiveCommand session.peer frame) .reopen

/-- Every event moves a transfer at most once, and publishes exactly where it does. -/
theorem effect_handle {event : IncomingEvent} :
    Effect (Disturbs settings id r (env, event)) id r (r.handle settings env event) := by
  cases event with
  | receiveOffer => exact .of_ok fun next h => effect_receiveOffer h
  | accept => exact effect_accept
  | acceptPreflightFinished => exact effect_finishAcceptPreflight
  | reject => exact effect_reject
  | receiveCommand peer frame =>
    refine .of_ok fun next h => effect_receiveCommand ?_ h
    intro reason keepPartial session hdecode hstream hsession hpeer hrunning hcancelled hended
    subst hpeer
    exact .reopen hstream hdecode hsession hrunning hcancelled hended
  | localCommand command =>
    unfold handle
    dsimp only
    split
    · exact .refl
    rename_i peer hvalid
    refine .of_ok fun next h => ?_
    cases happlied : r.applyLocalCommand command with
    | error => rw [happlied] at h; cases h
    | ok applied =>
      rw [happlied] at h
      obtain rfl := Except.ok.inj h
      exact effect_localCommand hvalid happlied
  | cancelCleanupFinished => exact effect_finishCancelCleanup
  | peerDisconnected peer =>
    refine effect_peerDisconnected fun session hsession hpeer hrunning hactive => ?_
    subst hpeer
    exact .interrupt hsession hrunning hactive
  | receiveResumeQuery => exact .of_ok fun next h => effect_receiveResumeQuery h
  | callback => exact effect_runCallback
  | resolveIncomingConflict => exact effect_resolveIncomingConflict
  | recoveryScanned states =>
    exact Effect.of_scanned effect_hydrateNextRecoveryState
  | stopRecoveryScan => exact .of_same rfl rfl
  | hydrateNextRecoveryState => exact effect_hydrateNextRecoveryState
  | recoveryValidated result =>
    exact effect_finishRecoveryValidation fun state session hvalidating hid hrestored =>
      .restore hvalidating hid hrestored

/-! ### Runs -/

structure Tracked (id : TransferId) (r : IncomingTransferRuntime) : Prop where
  sound : ∀ session, r.sessions id = some session → session.reception.Sound
  latest : ∀ snapshot, (r.published id).head? = some snapshot → ∃ session,
    r.sessions id = some session ∧ session.pipelineSnapshot = snapshot ∧
      snapshot.state ≠ .waitingForAcceptance

theorem Tracked.effect (h : Tracked id r) (heffect : Effect may id r next) : Tracked id next := by
  cases heffect with
  | keep hview hpublished =>
    have hsame {session : IncomingSession} (hsession : next.sessions id = some session) :
        ∃ earlier, r.sessions id = some earlier ∧ earlier.view = session.view := by
      rw [hsession] at hview
      exact Option.map_eq_some_iff.mp hview.symm
    refine ⟨fun session hsession => ?_, fun snapshot hsnapshot => ?_⟩
    · obtain ⟨earlier, hearlier, heq⟩ := hsame hsession
      have hreception : earlier.reception = session.reception := congrArg Prod.snd heq
      rw [← hreception]
      exact h.sound earlier hearlier
    · rw [hpublished] at hsnapshot
      obtain ⟨session, hsession, hlatest, hstate⟩ := h.latest snapshot hsnapshot
      rw [hsession] at hview
      obtain ⟨later, hlater, heq⟩ := Option.map_eq_some_iff.mp hview
      have hsnapshot : later.pipelineSnapshot = session.pipelineSnapshot := congrArg Prod.fst heq
      exact ⟨later, hlater, hsnapshot.trans hlatest, hstate⟩
  | offer hnone hlater hreception hpublished =>
    refine ⟨fun session hsession => ?_, fun snapshot hsnapshot => ?_⟩
    · obtain rfl := Option.some.inj (hlater.symm.trans hsession)
      rw [hreception]
      exact Reception.sound_offered
    · rw [hpublished] at hsnapshot
      obtain ⟨session, hsession, -⟩ := h.latest snapshot hsnapshot
      cases hnone.symm.trans hsession
  | decline hsession hlater hsnapshot hundecided hreception hpublished =>
    have hsound := h.sound _ hsession
    refine ⟨fun session hnext => ?_, fun snapshot hlatest => ?_⟩
    · obtain rfl := Option.some.inj (hlater.symm.trans hnext)
      rw [hreception]
      exact ⟨hsound.running, nofun, hsound.canPause, hsound.canResume, hsound.canCancel,
        hsound.interrupted⟩
    · rw [hpublished] at hlatest
      obtain ⟨session, hearlier, rfl, hstate⟩ := h.latest snapshot hlatest
      obtain rfl := Option.some.inj (hsession.symm.trans hearlier)
      exact absurd (hsound.undecided hundecided).1 hstate
  | move hsession hlater hmove hpublished =>
    refine ⟨fun session hnext => ?_, fun snapshot hsnapshot => ?_⟩
    · obtain rfl := Option.some.inj (hlater.symm.trans hnext)
      exact hmove.sound (h.sound _ hsession)
    · rw [hpublished] at hsnapshot
      obtain rfl := Option.some.inj hsnapshot
      exact ⟨_, hlater, rfl, hmove.state_ne⟩
  | restore hmay hlater hreception hpublished =>
    refine ⟨fun session hnext => ?_, fun snapshot hsnapshot => ?_⟩
    · obtain rfl := Option.some.inj (hlater.symm.trans hnext)
      rw [hreception]
      exact Reception.sound_restored
    · rw [hpublished] at hsnapshot
      obtain rfl := Option.some.inj hsnapshot
      refine ⟨_, hlater, rfl, fun hstate => ?_⟩
      cases (congrArg Reception.state hreception).symm.trans hstate

theorem tracked_of_reachable {allowed : IncomingTransferRuntime →
    IncomingSurroundings × IncomingEvent → Prop} (h : (machine settings).Reachable allowed r) :
    Tracked id r := by
  refine h.invariant (fun first hfirst => ?_) fun last call next hlast _ hstep => ?_
  · obtain rfl : first = {} := hfirst
    exact ⟨fun _ hsession => (Option.some_ne_none _ hsession.symm).elim,
      fun _ hsnapshot => (Option.some_ne_none _ hsnapshot.symm).elim⟩
  · have heffect := @effect_handle settings call.1 id last call.2
    obtain rfl : last.handle settings call.1 call.2 = next := Option.some.inj hstep
    exact hlast.effect heffect

/-! ### Honest actions -/

def HonestAt (id : TransferId) (r : IncomingTransferRuntime) : Prop :=
  ∀ snapshot, (r.published id).head? = some snapshot →
    (snapshot.canPause → (r.validateLocalCommand (.pause id)).isOk) ∧
      (snapshot.canResume → (r.validateLocalCommand (.resume id)).isOk) ∧
      (snapshot.canCancel → ∀ reason keepPartial,
        (r.validateLocalCommand (.cancel id reason keepPartial)).isOk)

/-- Without a pipeline nothing is valid but repeating a cancellation. -/
theorem validateLocalCommand_of_isNone (hsession : r.sessions command.transferId = some session)
    (hpipeline : session.pipeline.isNone)
    (hcancelling : session.pipelineSnapshot.state ≠ .cancelling)
    (hcancelled : session.pipelineSnapshot.state ≠ .cancelled) :
    (r.validateLocalCommand command).isOk = false := by
  unfold validateLocalCommand
  rw [hsession]
  dsimp only
  rw [if_neg (not_and.mpr fun _ => not_or.mpr ⟨hcancelling, hcancelled⟩), if_pos hpipeline]
  rfl

theorem isOk_pause (hsession : r.sessions id = some session) (hrunning : session.pipeline.isSome)
    (hstate : session.pipelineSnapshot.state = .transferring) :
    (r.validateLocalCommand (.pause id)).isOk := by
  have hnone : ¬ session.pipeline.isNone := by rw [Option.isNone_eq_false_iff.mpr hrunning]; nofun
  have hsession : r.sessions (TransferCommandMessage.pause id).transferId = some session := hsession
  unfold validateLocalCommand
  rw [hsession]
  dsimp only
  rw [if_neg fun h => Bool.false_ne_true h.1, if_neg hnone, hstate]
  rfl

theorem isOk_resume (hsession : r.sessions id = some session) (hrunning : session.pipeline.isSome)
    (hstate : session.pipelineSnapshot.state = .paused) :
    (r.validateLocalCommand (.resume id)).isOk := by
  have hnone : ¬ session.pipeline.isNone := by rw [Option.isNone_eq_false_iff.mpr hrunning]; nofun
  have hsession : r.sessions (TransferCommandMessage.resume id).transferId = some session := hsession
  unfold validateLocalCommand
  rw [hsession]
  dsimp only
  rw [if_neg fun h => Bool.false_ne_true h.1, if_neg hnone, hstate]
  rfl

theorem isOk_cancel {reason : TransferCancelReason} {keepPartial : Bool}
    (hsession : r.sessions id = some session) (hrunning : session.pipeline.isSome)
    (hactive : isReceivePipelineActive session.pipelineSnapshot.state) :
    (r.validateLocalCommand (.cancel id reason keepPartial)).isOk := by
  have hnone : ¬ session.pipeline.isNone := by rw [Option.isNone_eq_false_iff.mpr hrunning]; nofun
  have hsession : r.sessions (TransferCommandMessage.cancel id reason keepPartial).transferId =
    some session := hsession
  unfold validateLocalCommand
  rw [hsession]
  dsimp only
  generalize session.pipelineSnapshot.state = state at hactive
  cases state <;> first | cases hactive; done | rw [if_neg (by simp), if_neg hnone]; rfl

theorem Tracked.honestAt_iff (h : Tracked id r) :
    HonestAt id r ↔ ∀ snapshot, (r.published id).head? = some snapshot →
      snapshot.state ≠ .interrupted := by
  refine forall₂_congr fun snapshot hsnapshot => ?_
  obtain ⟨session, hsession, rfl, hstate⟩ := h.latest snapshot hsnapshot
  have hsound := h.sound session hsession
  constructor
  · rintro ⟨-, -, hcancel⟩ hinterrupted
    obtain ⟨hcan, hrunning⟩ := hsound.interrupted hinterrupted
    have hrefused := @validateLocalCommand_of_isNone r session (.cancel id .userRequested true)
      hsession (Option.isNone_iff_eq_none.mpr (Option.not_isSome_iff_eq_none.mp
        (Bool.eq_false_iff.mp hrunning))) (by rw [hinterrupted]; nofun) (by rw [hinterrupted]; nofun)
    exact absurd (hrefused.symm.trans (hcancel hcan _ _)) Bool.false_ne_true
  · intro hinterrupted
    refine ⟨fun hcan => ?_, fun hcan => ?_, fun hcan reason keepPartial => ?_⟩
    · have htransferring := hsound.canPause hcan
      have hactive : isReceivePipelineActive session.reception.state := by rw [htransferring]; rfl
      exact isOk_pause hsession (hsound.running hactive) htransferring
    · have hpaused := (hsound.canResume hcan).resolve_right hinterrupted
      have hactive : isReceivePipelineActive session.reception.state := by rw [hpaused]; rfl
      exact isOk_resume hsession (hsound.running hactive) hpaused
    · have hactive := ((hsound.canCancel hcan).resolve_left hstate).resolve_left hinterrupted
      exact isOk_cancel hsession (hsound.running hactive) hactive

/-- No reception loses its peer, and none comes back from the recovery store. -/
def Undisturbed (settings : IncomingSettings) (r : IncomingTransferRuntime)
    (call : IncomingSurroundings × IncomingEvent) : Prop :=
  ∀ id, ¬ Disturbs settings id r call .interrupt ∧ ¬ Disturbs settings id r call .restore

theorem Effect.state_ne_interrupted (heffect : Effect may id r next) (hinterrupt : ¬ may .interrupt)
    (hrestore : ¬ may .restore)
    (h : ∀ snapshot, (r.published id).head? = some snapshot → snapshot.state ≠ .interrupted) :
    ∀ snapshot, (next.published id).head? = some snapshot → snapshot.state ≠ .interrupted := by
  intro snapshot hsnapshot
  cases heffect with
  | keep _ hpublished | offer _ _ _ hpublished | decline _ _ _ _ _ hpublished =>
    rw [hpublished] at hsnapshot
    exact h snapshot hsnapshot
  | @move session later _ _ hmove hpublished =>
    rw [hpublished] at hsnapshot
    obtain rfl := Option.some.inj hsnapshot
    have hstate : later.reception.state ≠ .interrupted := by
      generalize later.reception = reception at hmove
      cases hmove with
      | interrupt hmay => exact absurd hmay hinterrupt
      | cleaned _ hnext | finish _ hnext => rcases hnext with rfl | rfl <;> nofun
      | _ => nofun
    exact hstate
  | restore hmay => exact absurd hmay hrestore

/-- **Actions.** What the snapshot published last lets the user do is a valid command unless it says
that the reception is interrupted, where it always lets the user resume and cancel and neither is
valid. So no run breaks it that neither interrupts a reception nor rebuilds one. -/
theorem action_flags_honest (settings : IncomingSettings) :
    (∀ r, (machine settings).Reachable (Undisturbed settings) r → ∀ id, HonestAt id r) ∧
      ∀ r, (machine settings).Reachable (fun _ _ => True) r → ∀ id,
        (HonestAt id r ↔ ∀ snapshot, (r.published id).head? = some snapshot →
          snapshot.state ≠ .interrupted) := by
  refine ⟨fun r hr id => ?_, fun r hr id => (tracked_of_reachable hr).honestAt_iff⟩
  refine (tracked_of_reachable hr).honestAt_iff.mpr ?_
  refine @Machine.Reachable.invariant _ _ _ _ (fun r => ∀ snapshot,
    (r.published id).head? = some snapshot → snapshot.state ≠ .interrupted)
      (fun first hfirst snapshot hsnapshot => ?_) (fun last call next hlast hallowed hstep => ?_) _ hr
  · obtain rfl : first = {} := hfirst
    exact (Option.some_ne_none _ hsnapshot.symm).elim
  · have heffect := @effect_handle settings call.1 id last call.2
    obtain rfl : last.handle settings call.1 call.2 = next := Option.some.inj hstep
    exact heffect.state_ne_interrupted (hallowed id).1 (hallowed id).2 hlast

/-! ### Ended receptions -/

def publishedState (id : TransferId) (r : IncomingTransferRuntime) : Option TransferState :=
  (r.published id).head?.map (·.state)

def EndedAt (id : TransferId) (r : IncomingTransferRuntime) : Prop :=
  ∃ state, publishedState id r = some state ∧
    (state = .completed ∨ state = .failed ∨ state = .cancelled)

theorem Tracked.published_of_ended (h : Tracked id r) (hended : EndedAt id r)
    (heffect : Effect may id r next) (hreopen : ¬ may .reopen) (hrestore : ¬ may .restore) :
    next.published id = r.published id := by
  cases heffect with
  | keep _ hpublished | offer _ _ _ hpublished | decline _ _ _ _ _ hpublished => exact hpublished
  | restore hmay => exact absurd hmay hrestore
  | move hsession _ hmove =>
    obtain ⟨state, hpublished, hstate⟩ := hended
    obtain ⟨snapshot, hsnapshot, rfl⟩ := Option.map_eq_some_iff.mp hpublished
    obtain ⟨earlier, hearlier, rfl, -⟩ := h.latest snapshot hsnapshot
    obtain rfl := Option.some.inj (hsession.symm.trans hearlier)
    exact (hmove.not_of_ended (h.sound _ hsession) hstate hreopen).elim

theorem publishedState_publish : publishedState id (r.publish id session) =
    some session.pipelineSnapshot.state := by
  have hpublished : (r.publish id session).published id =
    session.pipelineSnapshot :: r.published id := Function.update_self ..
  unfold publishedState
  rw [hpublished]
  rfl

variable {call : IncomingSurroundings × IncomingEvent}

theorem publishedState_of_reopen (h : Disturbs settings id r call .reopen) :
    publishedState id (r.handle settings call.1 call.2) = some .cancelling := by
  cases h with
  | @reopen env frame reason keepPartial session hstream hdecode hsession hrunning hcancelled hended =>
    have hcancelling : session.pipelineSnapshot.state ≠ .cancelling := fun hstate => by
      rw [hstate] at hended
      exact Bool.false_ne_true hended
    have hnone : ¬ session.pipeline.isNone := by rw [Option.isNone_eq_false_iff.mpr hrunning]; nofun
    have hreceived : r.receiveCommand session.peer frame =
        .ok (r.publish id (session.dropPipeline.setState .cancelling false false false)) := by
      have hsession : r.sessions (TransferCommandMessage.cancel id reason keepPartial).transferId =
        some session := hsession
      unfold receiveCommand
      rw [if_neg (not_or.mpr ⟨not_not.mpr hstream.1, not_not.mpr hstream.2⟩), hdecode]
      dsimp only
      rw [hsession]
      dsimp only
      rw [if_neg (not_not.mpr rfl)]
      unfold applyCommand
      dsimp only
      rw [if_neg (not_or.mpr ⟨hcancelling, hcancelled⟩), if_neg hnone]
      rfl
    have hhandled : r.handle settings env (.receiveCommand session.peer frame) =
        r.publish id (session.dropPipeline.setState .cancelling false false false) := by
      unfold handle
      dsimp only
      rw [hreceived]
      rfl
    dsimp only
    rw [hhandled, publishedState_publish]
    rfl

theorem publishedState_of_restore (h : Disturbs settings id r call .restore) :
    publishedState id (r.handle settings call.1 call.2) = some .interrupted := by
  cases h with
  | @restore env result state session hvalidating hid hrestored =>
    subst hid
    have hstate : session.pipelineSnapshot.state = .interrupted :=
      congrArg Reception.state (reception_restoredSession hrestored)
    dsimp only
    unfold handle finishRecoveryValidation
    dsimp only
    rw [hvalidating]
    dsimp only
    rw [hrestored]
    dsimp only
    rw [publishedState_publish, hstate]

/-- No transfer that has ended is cancelled by its peer or rebuilt from the recovery store. -/
def LeavesEnded (settings : IncomingSettings) (r : IncomingTransferRuntime)
    (call : IncomingSurroundings × IncomingEvent) : Prop :=
  ∀ id, EndedAt id r →
    ¬ Disturbs settings id r call .reopen ∧ ¬ Disturbs settings id r call .restore

theorem Tracked.publishedState_iff (h : Tracked id r) (hended : EndedAt id r) :
    publishedState id (r.handle settings call.1 call.2) = publishedState id r ↔
      ¬ Disturbs settings id r call .reopen ∧ ¬ Disturbs settings id r call .restore := by
  constructor
  · intro hsame
    obtain ⟨state, hstate, hends⟩ := hended
    rw [hstate] at hsame
    refine ⟨fun hreopen => ?_, fun hrestore => ?_⟩
    · obtain rfl := Option.some.inj ((publishedState_of_reopen hreopen).symm.trans hsame)
      rcases hends with hends | hends | hends <;> cases hends
    · obtain rfl := Option.some.inj ((publishedState_of_restore hrestore).symm.trans hsame)
      rcases hends with hends | hends | hends <;> cases hends
  · rintro ⟨hreopen, hrestore⟩
    have heffect := @effect_handle settings call.1 id r call.2
    have hpublished := h.published_of_ended hended heffect hreopen hrestore
    unfold publishedState
    rw [hpublished]

/-- **Ends are final.** Once a transfer is published as completed, failed or cancelled, every run
leaves what is published of it alone in which no ended transfer is cancelled by its peer or rebuilt;
and each next step does exactly when it is neither. -/
theorem ended_absorbing (settings : IncomingSettings) :
    (∀ r id, (machine settings).Reachable (LeavesEnded settings) r → EndedAt id r →
      ∀ later, (machine settings).Run (LeavesEnded settings) r later →
        later.published id = r.published id) ∧
      ∀ r id, (machine settings).Reachable (fun _ _ => True) r → EndedAt id r →
        ∀ call next, (machine settings).step r call = some next →
          (publishedState id next = publishedState id r ↔
            ¬ Disturbs settings id r call .reopen ∧ ¬ Disturbs settings id r call .restore) := by
  constructor
  · intro r id hr hended later hrun
    have hkeep : Tracked id later ∧ later.published id = r.published id := by
      refine @Machine.Run.invariant _ _ _ _ (fun later => Tracked id later ∧
        later.published id = r.published id) (fun last call next hlast hallowed hstep => ?_) _ _ hrun
          ⟨tracked_of_reachable hr, rfl⟩
      obtain ⟨htracked, hsame⟩ := hlast
      have hlater : EndedAt id last := by
        unfold EndedAt publishedState at hended ⊢
        rw [hsame]
        exact hended
      obtain ⟨hreopen, hrestore⟩ := hallowed id hlater
      have heffect := @effect_handle settings call.1 id last call.2
      obtain rfl : last.handle settings call.1 call.2 = next := Option.some.inj hstep
      exact ⟨htracked.effect heffect,
        (htracked.published_of_ended hlater heffect hreopen hrestore).trans hsame⟩
    exact hkeep.2
  · intro r id hr hended call next hstep
    obtain rfl : r.handle settings call.1 call.2 = next := Option.some.inj hstep
    exact (tracked_of_reachable hr).publishedState_iff hended

section Sample

def samplePeer : DeviceId := ⟨2, two_nonNull⟩
def sampleTransfer : TransferId := ⟨1, one_nonNull⟩

def sampleSettings : IncomingSettings := { qt := .ascii }

def sampleOffer : TransferOffer where
  transferId := sampleTransfer
  displayName := [0x61]
  totalBytes := 3
  fileCount := 1
  manifestSha256 := List.replicate kSha256Bytes 0
  manifestPageCount := 1
  requestedConflictPolicy := .autoRename

def sampleCapabilities : NegotiatedCapabilities where
  maxManifestEntries := 1
  conflictPolicies := [.autoRename]
  localCanReceiveFiles := true

def acceptedEvents : List (IncomingSurroundings × IncomingEvent) :=
  [({}, .receiveOffer samplePeer [0x62] true false sampleCapabilities sampleOffer),
    ({}, .accept sampleTransfer { destinationRoot := [0x2f, 0x63] }),
    ({}, .acceptPreflightFinished sampleTransfer (.ok ()) 3)]

theorem action_flags_honest_accepted :
    ∃ r, (machine sampleSettings).exec {} acceptedEvents = some r ∧
      (r.published sampleTransfer).length = 1 ∧ HonestAt sampleTransfer r := by
  obtain ⟨r, hr⟩ : ∃ r, (machine sampleSettings).exec {} acceptedEvents = some r := ⟨_, rfl⟩
  have hallowed (state : IncomingTransferRuntime) (call : IncomingSurroundings × IncomingEvent)
      (hcall : call ∈ acceptedEvents) : Undisturbed sampleSettings state call := by
    intro id
    simp only [acceptedEvents, List.mem_cons, List.not_mem_nil, or_false] at hcall
    rcases hcall with rfl | rfl | rfl <;> exact ⟨nofun, nofun⟩
  have hhonest := (action_flags_honest sampleSettings).1 r
    ⟨{}, rfl, Machine.run_of_exec_of_allowed hallowed hr⟩ sampleTransfer
  refine ⟨r, hr, ?_, hhonest⟩
  obtain rfl := Option.some.inj hr
  rfl

/-- The peer goes while the pipeline runs. -/
theorem interrupted_not_honest :
    ¬ ∀ r, (machine sampleSettings).Reachable (fun _ _ => True) r → ∀ id, HonestAt id r := by
  intro hhonest
  obtain ⟨r, hr⟩ : ∃ r, (machine sampleSettings).exec {}
      (acceptedEvents ++ [(({} : IncomingSurroundings), .peerDisconnected samplePeer)]) = some r :=
    ⟨_, rfl⟩
  have h := hhonest r ⟨{}, rfl, Machine.run_of_exec hr⟩ sampleTransfer
  obtain rfl := Option.some.inj hr
  exact absurd ((h _ rfl).2.1 rfl) (by decide)

/-- The worker has received every file. -/
def completedEvents : List (IncomingSurroundings × IncomingEvent) :=
  acceptedEvents ++ [(({} : IncomingSurroundings), .callback sampleTransfer 0 (.completed []))]

theorem leavesEnded_of_completedEvents (state : IncomingTransferRuntime)
    (call : IncomingSurroundings × IncomingEvent) (hcall : call ∈ completedEvents) :
    LeavesEnded sampleSettings state call := by
  intro id _
  simp only [completedEvents, acceptedEvents, List.mem_append, List.mem_cons, List.not_mem_nil,
    or_false] at hcall
  rcases hcall with (rfl | rfl | rfl) | rfl <;> exact ⟨nofun, nofun⟩

theorem ended_absorbing_completed :
    ∃ r, (machine sampleSettings).exec {} completedEvents = some r ∧
      EndedAt sampleTransfer r ∧ ∀ later, (machine sampleSettings).Run (LeavesEnded sampleSettings)
        r later → later.published sampleTransfer = r.published sampleTransfer := by
  obtain ⟨r, hr⟩ : ∃ r, (machine sampleSettings).exec {} completedEvents = some r := ⟨_, rfl⟩
  have hended : EndedAt sampleTransfer r := by
    obtain rfl := Option.some.inj hr
    exact ⟨_, rfl, .inl rfl⟩
  exact ⟨r, hr, hended, (ended_absorbing sampleSettings).1 r sampleTransfer
    ⟨{}, rfl, Machine.run_of_exec_of_allowed leavesEnded_of_completedEvents hr⟩ hended⟩

def cancelFrame : Frame where
  type := .transferCancel
  metadata := QCborMap.toCbor
    (TransferCommandCodec.fields (.cancel sampleTransfer .userRequested true))

/-- The peer cancels what is complete. -/
theorem completed_reopens : ∃ r next, (machine sampleSettings).Reachable (fun _ _ => True) r ∧
    publishedState sampleTransfer r = some .completed ∧
      (machine sampleSettings).step r ({}, .receiveCommand samplePeer cancelFrame) = some next ∧
        publishedState sampleTransfer next = some .cancelling := by
  obtain ⟨r, hr⟩ : ∃ r, (machine sampleSettings).exec {} completedEvents = some r := ⟨_, rfl⟩
  obtain ⟨session, hsession⟩ : ∃ session, r.sessions sampleTransfer = some session := by
    obtain rfl := Option.some.inj hr
    exact ⟨_, rfl⟩
  have hdecode : TransferCommandCodec.decode cancelFrame.version cancelFrame.type
      cancelFrame.metadata = .ok (.cancel sampleTransfer .userRequested true) :=
    @TransferCommandCodec.decode_encode (.cancel sampleTransfer .userRequested true) _ rfl
  have hstream : cancelFrame.streamId = 0 ∧ cancelFrame.payload = [] := ⟨rfl, rfl⟩
  have hcompleted : publishedState sampleTransfer r = some .completed ∧
      session.peer = samplePeer ∧ session.pipeline.isSome ∧
        session.pipelineSnapshot.state = .completed := by
    obtain rfl := Option.some.inj hr
    obtain rfl := Option.some.inj hsession
    exact ⟨rfl, rfl, rfl, rfl⟩
  obtain ⟨hpublished, hpeer, hrunning, hstate⟩ := hcompleted
  have hreopen : Disturbs sampleSettings sampleTransfer r
      ({}, .receiveCommand session.peer cancelFrame) .reopen :=
    .reopen hstream hdecode hsession hrunning (by rw [hstate]; nofun) (by rw [hstate]; rfl)
  rw [hpeer] at hreopen
  exact ⟨r, _, ⟨{}, rfl, Machine.run_of_exec hr⟩, hpublished, rfl, publishedState_of_reopen hreopen⟩

end Sample

end IncomingTransferRuntime

end DeskflowPlus.App
