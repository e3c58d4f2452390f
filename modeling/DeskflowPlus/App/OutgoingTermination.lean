import DeskflowPlus.App.FileTransferRuntime

/-!
# How an outgoing session ends

A session is closed once it was cancelled or its published state is completed, cancelled or failed.
While the removal of its recovery state is under way the published state stands still; after that it
is terminal and its state machine is dead. Three handlers do not look whether the session is closed:
a command to pause or resume, an acceptance of the offer and a resume response can act on it then.
-/

namespace DeskflowPlus.App

open Transfer FileTransport TransferControlStateMachine

/-! ### What the end of a session depends on -/

structure Lifecycle where
  cancelled : Bool
  published : TransferState
  control : Option TransferControlStateMachine
  terminalPending : Bool
  removePending : Bool
  removal : Option RecoveryRemoval
  completion : Option RecoveryRemoveCompletion
  savePending : Bool
  save : Option RecoverySave
  sender : Option Nat
  senderTask : Option SenderTask
  awaitingFileResult : Bool
  offerState : Option TransferOfferStateMachine
  resumeQueryPending : Bool
  preparing : Bool
  stored : Option OutgoingRecoveryState

def OutgoingState.lifecycle (s : OutgoingState) : Lifecycle where
  cancelled := s.cancelled
  published := s.snapshot.state
  control := s.control
  terminalPending := s.terminalPending
  removePending := s.recoveryRemovePending
  removal := s.recoveryRemoval
  completion := s.recoveryRemoveCompletion
  savePending := s.recoverySavePending
  save := s.recoverySave
  sender := s.sender
  senderTask := s.senderTask
  awaitingFileResult := s.awaitingFileResult
  offerState := s.offerState
  resumeQueryPending := s.resumeQueryPending
  preparing := s.preparing
  stored := s.stored

/-- The three ends a session itself can come to; a peer can also reject the offer. -/
def Ended (state : TransferState) : Prop :=
  state = .completed ∨ state = .failed ∨ state = .cancelled

theorem Ended.terminal {state : TransferState} (h : Ended state) : isTerminal state = true := by
  rcases h with rfl | rfl | rfl <;> rfl

def Underway (state : TransferState) : Prop :=
  state ≠ .preparing ∧ state ≠ .offered ∧ state ≠ .waitingForAcceptance ∧ state ≠ .queued

def Follows (control control' : TransferControlStateMachine) : Prop :=
  control'.initialized = control.initialized ∧
    (control'.snapshot.state = control.snapshot.state ∨
      (isTerminal control.snapshot.state = false ∧
        (Underway control.snapshot.state → Underway control'.snapshot.state) ∧
        ¬ Ended control'.snapshot.state))

namespace Follows

variable {control control' control'' : TransferControlStateMachine} {now : QDateTime}

theorem refl : Follows control control := ⟨rfl, .inl rfl⟩

theorem trans (h : Follows control control') (h' : Follows control' control'') :
    Follows control control'' := by
  refine ⟨h'.1.trans h.1, ?_⟩
  rcases h.2 with hsame | ⟨hlive, hunderway, hended⟩
  · rcases h'.2 with hsame' | ⟨hlive', hunderway', hended'⟩
    · exact .inl (hsame'.trans hsame)
    · exact .inr ⟨hsame ▸ hlive', hsame ▸ hunderway', hended'⟩
  · rcases h'.2 with hsame' | ⟨-, hunderway', hended'⟩
    · exact .inr ⟨hlive, hsame' ▸ hunderway, fun h => hended (hsame' ▸ h)⟩
    · exact .inr ⟨hlive, fun h => hunderway' (hunderway h), hended'⟩

theorem state_of_terminal (h : Follows control control')
    (hterminal : isTerminal control.snapshot.state = true) :
    control'.snapshot.state = control.snapshot.state := by
  rcases h.2 with hsame | ⟨hlive, -⟩
  · exact hsame
  · exact nomatch hterminal.symm.trans hlive

theorem underway (h : Follows control control') (hunderway : Underway control.snapshot.state) :
    Underway control'.snapshot.state := by
  rcases h.2 with hsame | ⟨-, hkeeps, -⟩
  · exact hsame ▸ hunderway
  · exact hkeeps hunderway

theorem setState {next : TransferState} (hlive : isTerminal control.snapshot.state = false)
    (hunderway : Underway control.snapshot.state → Underway next) (hnext : ¬ Ended next) :
    Follows control (control.setState now next).2 := by
  refine ⟨rfl, .inr ⟨hlive, ?_, ?_⟩⟩
  · rwa [setState_state]
  · rwa [setState_state]

theorem advance {next : TransferState} (hnext : ¬ Ended next) :
    Follows control (control.advance now next).2 := by
  rcases control.advance_cases now next with ⟨hsame, -⟩ | ⟨-, hlive, hgraph, hset⟩
  · rw [hsame]
    exact refl
  · rw [hset]
    refine setState hlive ?_ hnext
    revert hgraph
    generalize control.snapshot.state = state
    cases state <;> cases next <;> simp [canAdvance, Underway]

theorem pause : Follows control (control.pause now).2 := by
  rcases control.pause_cases now with ⟨hsame, -⟩ | ⟨-, hstate, hset⟩
  · rw [hsame]
    exact refl
  · rw [hset]
    exact setState (by rw [hstate]; rfl) (by simp [Underway]) (by simp [Ended])

theorem resume : Follows control (control.resume now).2 := by
  rcases control.resume_cases now with ⟨hsame, -⟩ | ⟨-, hstate, hset⟩
  · rw [hsame]
    exact refl
  · rw [hset]
    exact setState (by rcases hstate with hstate | hstate <;> rw [hstate] <;> rfl)
      (by simp [Underway]) (by simp [Ended])

theorem interrupt : Follows control (control.interrupt now).2 := by
  rcases control.interrupt_cases now with ⟨hsame, -⟩ | ⟨-, hstate, hset⟩
  · rw [hsame]
    exact refl
  · rw [hset]
    exact setState (by rcases hstate with hstate | hstate | hstate <;> rw [hstate] <;> rfl)
      (by simp [Underway]) (by simp [Ended])

theorem updateProgress {completedBytes completedFiles : Nat} {rate : TransferRate}
    {remaining : Option Int} {path : QString} : Follows control
      (control.updateProgress completedBytes completedFiles rate remaining path).2 :=
  ⟨updateProgress_initialized, .inl updateProgress_state⟩

end Follows

namespace Lifecycle

/-- The session was cancelled, or came to one of its three ends. -/
def Closed (l : Lifecycle) : Prop := l.cancelled = true ∨ Ended l.published

variable {l : Lifecycle}

theorem Closed.cancelled {state : TransferState} (h : l.Closed) (hstate : l.published = state)
    (hopen : ¬ Ended state) : l.cancelled = true :=
  h.resolve_right fun hended => hopen (hstate ▸ hended)

def Settled (l : Lifecycle) : Prop :=
  isTerminal l.published = true ∧
    ∀ control, l.control = some control → control.initialized = true →
      isTerminal control.snapshot.state = true

/-- No offer was made and no question asked. -/
def Unoffered (l : Lifecycle) : Prop :=
  l.awaitingFileResult = false ∧ l.offerState = none ∧ l.resumeQueryPending = false

/-- A completion that can be run: it finds the state machine it needs, or a code to fail with. -/
def Runs (l : Lifecycle) : RecoveryRemoveCompletion → Prop
  | .localCancel _ => l.cancelled = true
  | .remoteCancel => l.cancelled = true ∧ l.control.isSome = true
  | .failure errorCode _ => errorCode ≠ .none
  | .complete => l.control.isSome = true

variable {l' : Lifecycle}

theorem Runs.mono {completion : RecoveryRemoveCompletion} (h : l.Runs completion)
    (hcancelled : l.cancelled = true → l'.cancelled = true)
    (hcontrol : l.control.isSome = true → l'.control.isSome = true) : l'.Runs completion := by
  cases completion with
  | localCancel => exact hcancelled h
  | remoteCancel => exact ⟨hcancelled h.1, hcontrol h.2⟩
  | failure => exact h
  | complete => exact hcontrol h

/-- Every state machine the session has has started. -/
def Started (l : Lifecycle) : Prop :=
  ∀ control, l.control = some control → control.initialized = true

variable (runtime : FileTransferRuntime)

/-- What holds of a session even while its removal is being set up. -/
structure Core (l : Lifecycle) : Prop where
  /-- A state machine that did not start belongs to a session cancelled before its offer. -/
  started : ∀ control, l.control = some control →
    control.initialized = true ∨ (l.cancelled = true ∧ l.Unoffered)
  unprepared : l.preparing = true → (l.control = none ∧ l.Unoffered ∧
    l.sender = none ∧ l.senderTask = none) ∧
    (l.cancelled = false → l.terminalPending = false ∧ l.published = .preparing)
  ends : ∀ control, l.control = some control → Ended control.snapshot.state → l.Closed
  completable : ∀ completion, l.completion = some completion → l.Runs completion
  blocked : l.removePending = true ∨ l.removal.isSome = true → l.savePending = false
  exclusive : l.removal.isSome = true → l.save = none
  underway : l.terminalPending = true → l.cancelled = false →
    ∃ control, l.control = some control ∧ Underway control.snapshot.state
  storeless : runtime.hasRecoveryStore = false → l.save = none ∧ l.savePending = false

structure Base (l : Lifecycle) : Prop extends Core runtime l where
  pending : l.terminalPending = true → runtime.hasRecoveryStore = true ∧
    (l.removePending = true ∨ l.removal.isSome = true) ∧ l.completion.isSome = true
  ended : l.cancelled = true ∨ isTerminal l.published = true →
    l.Settled ∨ l.terminalPending = true
  finished : l.Closed → l.terminalPending = false → l.save = none ∧ l.savePending = false

/-- The state machine's state is the published one, unless the session ended without it. -/
def Synced (l : Lifecycle) : Prop :=
  ∀ control, l.control = some control →
    l.published = control.snapshot.state ∨ (l.cancelled = true ∧ l.Settled)

/-- What one event may still do to a closed session. -/
structure Final (l l' : Lifecycle) : Prop where
  closed : l'.Closed
  settled : l.Settled → l'.Settled
  published : l'.published = l.published ∨ isTerminal l'.published = true
  /-- A save in flight was in flight before. -/
  saves : ∀ save, l'.save = some save → ∃ before, l.save = some before ∧
    before.state = save.state
  /-- The store is emptied, or takes a save that was in flight before. -/
  stored : l'.stored = l.stored ∨ l'.stored = none ∨
    ∃ save saved, l.save = some save ∧ save.state = .ok saved ∧ l'.stored = some saved

theorem Final.refl (hclosed : l.Closed) : Final l l where
  closed := hclosed
  settled := id
  published := .inl rfl
  saves save hsave := ⟨save, hsave, rfl⟩
  stored := .inl rfl

theorem Final.trans {l'' : Lifecycle} (h : Final l l') (h' : Final l' l'') : Final l l'' where
  closed := h'.closed
  settled hsettled := h'.settled (h.settled hsettled)
  published := by
    rcases h'.published with hsame | hterminal
    · rw [hsame]
      exact h.published
    · exact .inr hterminal
  saves save hsave := by
    obtain ⟨between, hbetween, hstate⟩ := h'.saves save hsave
    obtain ⟨before, hbefore, hstate'⟩ := h.saves between hbetween
    exact ⟨before, hbefore, hstate'.trans hstate⟩
  stored := by
    rcases h'.stored with hsame | hnone | ⟨save, saved, hsave, hstate, hstored⟩
    · rw [hsame]
      exact h.stored
    · exact .inr (.inl hnone)
    · obtain ⟨before, hbefore, hstate'⟩ := h.saves save hsave
      exact .inr (.inr ⟨before, saved, hbefore, hstate'.trans hstate, hstored⟩)

/-- The session has a state machine that started. -/
def Running (l : Lifecycle) : Prop :=
  ∃ control, l.control = some control ∧ control.initialized = true

/-- A step that keeps the invariant and the end of a closed session. -/
structure Moves (l l' : Lifecycle) : Prop where
  base : Base runtime l → Base runtime l'
  running : Base runtime l → l.Running → l'.Running
  synced : Base runtime l → l.Synced → l'.Synced
  final : Base runtime l → l.Synced → l.Closed → Final l l'

variable {runtime}

theorem Moves.refl : Moves runtime l l :=
  ⟨id, fun _ => id, fun _ => id, fun _ _ => Final.refl⟩

theorem Moves.of_eq {l₀ : Lifecycle} (h : Moves runtime l₀ l') (heq : l₀ = l) :
    Moves runtime l l' := heq ▸ h

theorem Moves.trans {l'' : Lifecycle} (h : Moves runtime l l') (h' : Moves runtime l' l'') :
    Moves runtime l l'' where
  base hbase := h'.base (h.base hbase)
  running hbase hrunning := h'.running (h.base hbase) (h.running hbase hrunning)
  synced hbase hsynced := h'.synced (h.base hbase) (h.synced hbase hsynced)
  final hbase hsynced hclosed :=
    (h.final hbase hsynced hclosed).trans
      (h'.final (h.base hbase) (h.synced hbase hsynced) (h.final hbase hsynced hclosed).closed)

theorem Moves.of_base (h : Base runtime l → Moves runtime l l') :
    Moves runtime l l' :=
  ⟨fun hbase => (h hbase).base hbase, fun hbase => (h hbase).running hbase,
    fun hbase => (h hbase).synced hbase, fun hbase => (h hbase).final hbase⟩

/-- A step that keeps the invariant, whatever it does to a closed session. -/
structure Holds (runtime : FileTransferRuntime) (l l' : Lifecycle) : Prop where
  base : Base runtime l → Base runtime l'
  synced : Base runtime l → l.Synced → l'.Synced

theorem Moves.holds (h : Moves runtime l l') : Holds runtime l l' :=
  ⟨h.base, h.synced⟩

theorem Holds.of_eq {l₀ : Lifecycle} (h : Holds runtime l₀ l') (heq : l₀ = l) :
    Holds runtime l l' := heq ▸ h

theorem Holds.trans {l'' : Lifecycle} (h : Holds runtime l l') (h' : Holds runtime l' l'') :
    Holds runtime l l'' :=
  ⟨fun hbase => h'.base (h.base hbase),
    fun hbase hsynced => h'.synced (h.base hbase) (h.synced hbase hsynced)⟩

theorem Holds.of_base (h : Base runtime l → Holds runtime l l') :
    Holds runtime l l' :=
  ⟨fun hbase => (h hbase).base hbase, fun hbase => (h hbase).synced hbase⟩

/-! ### Sessions that are closed -/

theorem Core.started_of_live (h : Core runtime l) (hlive : l.cancelled = false) :
    l.Started := by
  intro control hcontrol
  rcases h.started control hcontrol with hstarted | ⟨hcancelled, -⟩
  · exact hstarted
  · exact nomatch hlive.symm.trans hcancelled

theorem Core.started_of_offered (h : Core runtime l) (hoffered : ¬ l.Unoffered) :
    l.Started := by
  intro control hcontrol
  rcases h.started control hcontrol with hstarted | ⟨-, hunoffered⟩
  · exact hstarted
  · exact absurd hunoffered hoffered

theorem Base.savePending_of_closed (h : Base runtime l) (hclosed : l.Closed) :
    l.savePending = false := by
  rcases hpending : l.terminalPending
  · exact (h.finished hclosed hpending).2
  · exact h.blocked (h.pending hpending).2.1

theorem Base.pending_of_live (h : Base runtime l) (hclosed : l.Closed)
    {control : TransferControlStateMachine} (hcontrol : l.control = some control)
    (hinit : control.initialized = true) (hlive : isTerminal control.snapshot.state = false) :
    l.terminalPending = true := by
  have hended : l.cancelled = true ∨ isTerminal l.published = true := by
    rcases hclosed with hcancelled | hpublished
    · exact .inl hcancelled
    · exact .inr hpublished.terminal
  rcases h.ended hended with hsettled | hpending
  · exact nomatch (hsettled.2 control hcontrol hinit).symm.trans hlive
  · exact hpending

theorem Synced.terminal_of_not_cancelled (hsynced : l.Synced) (hclosed : l.Closed)
    (hlive : l.cancelled = false) {control : TransferControlStateMachine}
    (hcontrol : l.control = some control) : isTerminal control.snapshot.state = true := by
  rcases hclosed with hcancelled | hended
  · exact nomatch hlive.symm.trans hcancelled
  · rcases hsynced control hcontrol with hsame | ⟨hcancelled, -⟩
    · exact hsame ▸ hended.terminal
    · exact nomatch hlive.symm.trans hcancelled

/-! ### Changes that end nothing -/

theorem Core.prepared (h : Core runtime l)
    (hwork : l.control.isSome = true ∨ l.sender.isSome = true ∨ l.senderTask.isSome = true ∨
      ¬ l.Unoffered) : l.preparing = false := by
  rcases hpreparing : l.preparing
  · rfl
  · obtain ⟨⟨hcontrol, hunoffered, hsender, htask⟩, -⟩ := h.unprepared hpreparing
    rw [hcontrol, hsender, htask] at hwork
    simp [hunoffered] at hwork

theorem moves_sender (hprepared : l.preparing = false) {sender : Option Nat}
    {senderTask : Option SenderTask} : Moves runtime l { l with sender, senderTask } where
  base h := { h with unprepared := fun hpreparing => nomatch hprepared.symm.trans hpreparing }
  running _ := id
  synced _ hsynced := hsynced
  final _ _ hclosed := { Final.refl hclosed with }

theorem moves_flags (hstarted : l.Started) (hprepared : l.preparing = false)
    {awaitingFileResult : Bool} {offerState : Option TransferOfferStateMachine}
    {resumeQueryPending : Bool} :
    Moves runtime l { l with awaitingFileResult, offerState, resumeQueryPending } where
  base h := { h with
    started := fun control hcontrol => .inl (hstarted control hcontrol)
    unprepared := fun hpreparing => nomatch hprepared.symm.trans hpreparing }
  running _ := id
  synced _ hsynced := hsynced
  final _ _ hclosed := { Final.refl hclosed with }

variable {control' : TransferControlStateMachine}

theorem Base.control (h : Base runtime l) {control : TransferControlStateMachine}
    (hcontrol : l.control = some control) (hinit : control.initialized = true)
    (hfollows : Follows control control') :
    Base runtime { l with control := some control' } := by
  have hsettled (hsettled : l.Settled) : Settled { l with control := some control' } := by
    refine ⟨hsettled.1, fun other hother _ => ?_⟩
    obtain rfl := Option.some.inj hother
    have hterminal := hsettled.2 control hcontrol hinit
    rwa [hfollows.state_of_terminal hterminal]
  exact { h with
    started := fun other hother => by
      obtain rfl := Option.some.inj hother
      exact .inl (hfollows.1.trans hinit)
    unprepared := fun hpreparing =>
      nomatch (h.prepared (.inl (by rw [hcontrol]; rfl))).symm.trans hpreparing
    ends := fun other hother hended => by
      obtain rfl := Option.some.inj hother
      rcases hfollows.2 with hsame | ⟨-, -, hlive⟩
      · exact h.ends control hcontrol (hsame ▸ hended)
      · exact absurd hended hlive
    completable := fun completion hcompletion =>
      (h.completable completion hcompletion).mono id fun _ => rfl
    underway := fun hpending hlive => by
      obtain ⟨other, hother, hunderway⟩ := h.underway hpending hlive
      obtain rfl := Option.some.inj (hcontrol.symm.trans hother)
      exact ⟨control', rfl, hfollows.underway hunderway⟩
    ended := fun hended => (h.ended hended).imp_left hsettled }

theorem Base.publish {l : Lifecycle} (h : Base runtime l) {control : TransferControlStateMachine}
    (hcontrol : l.control = some control) (hinit : control.initialized = true) :
    Base runtime { l with published := control.snapshot.state } := by
  have hsettled (hterminal : isTerminal control.snapshot.state = true) :
      Settled { l with published := control.snapshot.state } := by
    refine ⟨hterminal, fun other hother _ => ?_⟩
    obtain rfl := Option.some.inj (hcontrol.symm.trans hother)
    exact hterminal
  exact { h with
    unprepared := fun hpreparing =>
      nomatch (h.prepared (.inl (by rw [hcontrol]; rfl))).symm.trans hpreparing
    ends := fun other hother hended => by
      obtain rfl := Option.some.inj (hcontrol.symm.trans hother)
      exact .inr hended
    ended := fun hended => by
      rcases hended with hcancelled | hterminal
      · rcases h.ended (.inl hcancelled) with hbefore | hpending
        · exact .inl (hsettled (hbefore.2 control hcontrol hinit))
        · exact .inr hpending
      · exact .inl (hsettled hterminal)
    finished := fun hclosed hpending => by
      refine h.finished ?_ hpending
      rcases hclosed with hcancelled | hended
      · exact .inl hcancelled
      · exact h.ends control hcontrol hended }

theorem holds_publish {control : TransferControlStateMachine} (hcontrol : l.control = some control)
    (hinit : control.initialized = true) (hfollows : Follows control control') : Holds runtime l
      { l with control := some control', published := control'.snapshot.state } where
  base h :=
    @Base.publish runtime { l with control := some control' } (h.control hcontrol hinit hfollows)
      control' rfl (hfollows.1.trans hinit)
  synced _ _ other hother := by
    obtain rfl := Option.some.inj hother
    exact .inl rfl

theorem moves_publish {control : TransferControlStateMachine} (hcontrol : l.control = some control)
    (hinit : control.initialized = true) (hfollows : Follows control control')
    (hstill : l.Synced → l.Closed → isTerminal control.snapshot.state = false →
      control'.snapshot.state = control.snapshot.state ∨
        isTerminal control'.snapshot.state = true) :
    Moves runtime l
      { l with control := some control', published := control'.snapshot.state } where
  base := (holds_publish hcontrol hinit hfollows).base
  running _ _ := ⟨control', rfl, hfollows.1.trans hinit⟩
  synced := (holds_publish hcontrol hinit hfollows).synced
  final _ hsynced hclosed := by
    have hdead (hterminal : isTerminal control.snapshot.state = true) :
        control'.snapshot.state = control.snapshot.state := hfollows.state_of_terminal hterminal
    exact { Final.refl hclosed with
      closed := by
        rcases hclosed with hcancelled | hended
        · exact .inl hcancelled
        · rcases hsynced control hcontrol with hsame | ⟨hcancelled, -⟩
          · rw [hsame] at hended
            exact .inr (by show Ended control'.snapshot.state; rwa [hdead hended.terminal])
          · exact .inl hcancelled
      settled := fun hsettled => by
        have hterminal := hsettled.2 control hcontrol hinit
        rw [← hdead hterminal] at hterminal
        refine ⟨hterminal, fun other hother _ => ?_⟩
        obtain rfl := Option.some.inj hother
        exact hterminal
      published := by
        show control'.snapshot.state = l.published ∨ isTerminal control'.snapshot.state = true
        rcases hterminal : isTerminal control.snapshot.state
        · rcases hstill hsynced hclosed hterminal with hstate | hstate
          · rcases hsynced control hcontrol with hsame | ⟨-, hsettled⟩
            · exact .inl (hstate.trans hsame.symm)
            · exact nomatch (hsettled.2 control hcontrol hinit).symm.trans hterminal
          · exact .inr hstate
        · exact .inr (by rwa [hdead hterminal]) }

/-! ### The end -/

theorem Core.enter (h : Core runtime l) :
    Core runtime { l with cancelled := true, terminalPending := true } := { h with
  started := fun control hcontrol => (h.started control hcontrol).imp_right fun h => ⟨rfl, h.2⟩
  unprepared := fun hpreparing =>
    ⟨(h.unprepared hpreparing).1, fun h => nomatch h⟩
  underway := fun _ h => nomatch h
  ends := fun _ _ _ => .inl rfl
  completable := fun completion hcompletion =>
    (h.completable completion hcompletion).mono (fun _ => rfl) id }

theorem Final.enter (hclosed : l.Closed) :
    Final l { l with cancelled := true, terminalPending := true } :=
  { Final.refl hclosed with closed := .inl rfl }

/-- What running a completion comes to. -/
structure Finishes (l l' : Lifecycle) : Prop where
  settled : l'.Settled
  closed : l'.cancelled = true ∨ (l'.published = .completed ∧ l'.control.isSome = true)
  cancelled : l.cancelled = true → l'.cancelled = true
  synced : ∀ control, l'.control = some control →
    l'.published = control.snapshot.state ∨ l'.cancelled = true
  started : l'.control.map TransferControlStateMachine.initialized =
    l.control.map TransferControlStateMachine.initialized
  rest : l' = { l with
    cancelled := l'.cancelled, published := l'.published, control := l'.control }

namespace Finishes

variable {l l' : Lifecycle}

theorem isSome (h : Finishes l l') : l'.control.isSome = l.control.isSome := by
  simpa using congrArg Option.isSome h.started

theorem isClosed (h : Finishes l l') : l'.Closed := by
  rcases h.closed with hcancelled | ⟨hcompleted, -⟩
  · exact .inl hcancelled
  · exact .inr (.inl hcompleted)

theorem isRunning (h : Finishes l l') (hrunning : l.Running) : l'.Running := by
  obtain ⟨control, hcontrol, hinit⟩ := hrunning
  have hstarted := h.started
  rw [hcontrol, Option.map_some, hinit] at hstarted
  exact Option.map_eq_some_iff.mp hstarted

theorem isSynced (h : Finishes l l') : l'.Synced := by
  intro control hcontrol
  rcases h.synced control hcontrol with hsame | hcancelled
  · exact .inl hsame
  · exact .inr ⟨hcancelled, h.settled⟩

theorem final (h : Finishes l l') : Final l l' where
  closed := h.isClosed
  settled _ := h.settled
  published := .inr h.settled.1
  saves save hsave := ⟨save, by rw [h.rest] at hsave; exact hsave, rfl⟩
  stored := .inl (by rw [h.rest])

theorem base (h : Finishes l l') (hcore : Core runtime l) (hpending : l.terminalPending = false)
    (hsave : l.save = none ∧ l.savePending = false) : Base runtime l' where
  started control hcontrol := by
    have hinit := h.started
    rw [hcontrol] at hinit
    obtain ⟨before, hbefore, hsame⟩ := Option.map_eq_some_iff.mp hinit.symm
    rcases hcore.started before hbefore with hstarted | ⟨hcancelled, hunoffered⟩
    · exact .inl (hsame ▸ hstarted)
    · refine .inr ⟨h.cancelled hcancelled, ?_⟩
      rw [h.rest]
      exact hunoffered
  unprepared hpreparing := by
    have hbefore : l.preparing = true := by rwa [h.rest] at hpreparing
    obtain ⟨⟨hnone, hidle⟩, -⟩ := hcore.unprepared hbefore
    have hnone' : l'.control = none := by
      simpa [hnone] using h.started
    refine ⟨⟨hnone', by rw [h.rest]; exact hidle⟩, fun hlive => ?_⟩
    rcases h.closed with hcancelled | ⟨-, hsome⟩
    · exact nomatch hlive.symm.trans hcancelled
    · rw [hnone'] at hsome
      exact nomatch hsome
  ends _ _ _ := h.isClosed
  completable completion hcompletion :=
    (hcore.completable completion (by rw [h.rest] at hcompletion; exact hcompletion)).mono
      h.cancelled h.isSome.trans
  blocked := by rw [h.rest]; exact hcore.blocked
  exclusive := by rw [h.rest]; exact hcore.exclusive
  underway := by
    rw [h.rest]
    exact fun hpending' => nomatch hpending.symm.trans hpending'
  storeless := by rw [h.rest]; exact hcore.storeless
  pending := by
    rw [h.rest]
    exact fun hpending' => nomatch hpending.symm.trans hpending'
  ended _ := .inl h.settled
  finished := by
    rw [h.rest]
    exact fun _ _ => hsave

theorem of_control {control control' : TransferControlStateMachine}
    (hcontrol : l.control = some control) (hinit : control'.initialized = control.initialized)
    (h : Finishes { l with control := some control' } l') : Finishes l l' where
  settled := h.settled
  closed := h.closed
  cancelled := h.cancelled
  synced := h.synced
  started := by rw [h.started, hcontrol, Option.map_some, Option.map_some, hinit]
  rest := h.rest

end Finishes

end Lifecycle

namespace OutgoingState

open Lifecycle (Base Core Final Finishes Moves moves_flags moves_publish moves_sender)

variable {runtime : FileTransferRuntime} {env : Surroundings} {s : OutgoingState}

/-! ### Running a completion -/

theorem finishOutgoingFailure_finishes {errorCode : TransferErrorCode} (hcode : errorCode ≠ .none) :
    Finishes s.lifecycle (s.finishOutgoingFailure env errorCode).lifecycle := by
  have hdead (hcontrol : ∀ control, s.control = some control → control.initialized = true →
      isTerminal control.snapshot.state = true) (hnone : s.failedControl env errorCode = none) :
      Finishes s.lifecycle (s.finishOutgoingFailure env errorCode).lifecycle := by
    unfold finishOutgoingFailure
    rw [hnone]
    dsimp only
    split
    · rename_i hterminal
      exact ⟨⟨hterminal, hcontrol⟩, .inl rfl, fun _ => rfl, fun _ _ => .inr rfl, rfl, rfl⟩
    · exact ⟨⟨rfl, hcontrol⟩, .inl rfl, fun _ => rfl, fun _ _ => .inr rfl, rfl, rfl⟩
  rcases hs : s.control with _ | control
  · refine hdead (fun control hcontrol => nomatch hs.symm.trans hcontrol) ?_
    unfold failedControl
    rw [hs]
  · rcases hterminal : isTerminal control.snapshot.state
    · rcases hinit : control.initialized
      · refine hdead (fun other hother hstarted => ?_) ?_
        · obtain rfl := Option.some.inj (hs.symm.trans hother)
          exact nomatch hinit.symm.trans hstarted
        · unfold failedControl
          rw [hs]
          dsimp only
          rw [if_neg (by simp [hterminal]), if_neg (by simp [fail_of_not_initialized hinit])]
      · obtain ⟨hok, hstarted, hfailed⟩ :=
          @fail_of_live env.now control errorCode hinit hterminal hcode
        have hfails : s.failedControl env errorCode = some (control.fail env.now errorCode).2 := by
          unfold failedControl
          rw [hs]
          dsimp only
          rw [if_neg (by simp [hterminal]), if_pos hok]
        unfold finishOutgoingFailure
        rw [hfails]
        dsimp only
        refine ⟨⟨?_, fun other hother _ => ?_⟩, .inl rfl, fun _ => rfl, fun _ _ => .inr rfl, ?_, rfl⟩
        · show isTerminal (control.fail env.now errorCode).2.snapshot.state = true
          rw [hfailed]
          rfl
        · obtain rfl := Option.some.inj hother
          rw [hfailed]
          rfl
        · show some (control.fail env.now errorCode).2.initialized =
            s.control.map TransferControlStateMachine.initialized
          rw [hs, Option.map_some, hstarted, hinit]
    · refine hdead (fun other hother _ => ?_) ?_
      · obtain rfl := Option.some.inj (hs.symm.trans hother)
        exact hterminal
      · unfold failedControl
        rw [hs]
        dsimp only
        rw [if_pos hterminal]

theorem cancelledSnapshot_finishes (hcancelled : s.cancelled = true)
    (hdead : ∀ control, s.control = some control → control.initialized = true →
      isTerminal control.snapshot.state = true) :
    Finishes s.lifecycle { s with snapshot := s.cancelledSnapshot env }.lifecycle where
  settled := ⟨rfl, hdead⟩
  closed := .inl hcancelled
  cancelled := id
  synced _ _ := .inr hcancelled
  started := rfl
  rest := rfl

theorem publishControl_finishes {control control' : TransferControlStateMachine}
    (hcontrol : s.control = some control) (hinit : control'.initialized = control.initialized)
    (hstate : (control'.snapshot.state = .cancelled ∧ s.cancelled = true) ∨
      control'.snapshot.state = .completed) :
    Finishes s.lifecycle (s.publishControl control').lifecycle := by
  have hterminal : isTerminal control'.snapshot.state = true := by
    rcases hstate with ⟨hstate, -⟩ | hstate <;> rw [hstate] <;> rfl
  refine ⟨⟨hterminal, fun other hother _ => ?_⟩, ?_, id, fun other hother => ?_, ?_, rfl⟩
  · obtain rfl := Option.some.inj hother
    exact hterminal
  · exact hstate.imp And.right fun hstate => ⟨hstate, rfl⟩
  · obtain rfl := Option.some.inj hother
    exact .inl rfl
  · show some control'.initialized = s.control.map TransferControlStateMachine.initialized
    rw [hcontrol, hinit]
    rfl

theorem refused_finishes {control control' : TransferControlStateMachine}
    (hcontrol : s.control = some control) (hinit : control'.initialized = control.initialized) :
    Finishes s.lifecycle
      ({ s with control := some control' }.finishOutgoingFailure env .senderFailed).lifecycle := by
  have hfails : Finishes { s with control := some control' }.lifecycle
      ({ s with control := some control' }.finishOutgoingFailure env .senderFailed).lifecycle :=
    finishOutgoingFailure_finishes (fun h => nomatch h)
  exact .of_control hcontrol hinit hfails

theorem finishLocalCancel_finishes (hcancelled : s.cancelled = true) :
    Finishes s.lifecycle (s.finishLocalCancel env).lifecycle := by
  unfold finishLocalCancel
  dsimp only
  split
  · rename_i hs
    exact @cancelledSnapshot_finishes env s hcancelled fun control hcontrol =>
      nomatch hs.symm.trans hcontrol
  · rename_i control hs
    have hcancel : (control.cancel env.now).2.initialized = control.initialized :=
      cancel_initialized
    have hinit : ((control.cancel env.now).2.confirmCancelled env.now).2.initialized =
        control.initialized := by
      rw [confirmCancelled_initialized]
      exact hcancel
    split
    · rename_i hterminal
      refine @cancelledSnapshot_finishes env s hcancelled fun other hother _ => ?_
      obtain rfl := Option.some.inj (hs.symm.trans hother)
      exact hterminal
    · split
      · exact refused_finishes hs hcancel
      · split
        · exact refused_finishes hs hinit
        · rename_i hok
          exact publishControl_finishes hs hinit
            (.inl ⟨confirmCancelled_state_of_ok (not_not.mp hok), hcancelled⟩)

theorem finishRemoteCancel_finishes (hcancelled : s.cancelled = true)
    (hcontrol : s.control.isSome = true) :
    Finishes s.lifecycle (s.finishRemoteCancel env).lifecycle := by
  obtain ⟨control, hs⟩ := Option.isSome_iff_exists.mp hcontrol
  unfold finishRemoteCancel
  rw [hs]
  dsimp only
  split
  · exact refused_finishes hs confirmCancelled_initialized
  · rename_i hok
    exact publishControl_finishes hs confirmCancelled_initialized
      (.inl ⟨confirmCancelled_state_of_ok (not_not.mp hok), hcancelled⟩)

theorem finishCompletion_finishes (hcontrol : s.control.isSome = true) :
    Finishes s.lifecycle (s.finishCompletion env).lifecycle := by
  obtain ⟨control, hs⟩ := Option.isSome_iff_exists.mp hcontrol
  unfold finishCompletion
  rw [hs]
  dsimp only
  split
  · exact refused_finishes hs advance_initialized
  · rename_i hok
    exact publishControl_finishes hs advance_initialized
      (.inr (advance_state_of_ok (not_not.mp hok)))

theorem runRemoveCompletion_finishes {completion : RecoveryRemoveCompletion}
    {removed : Except String Unit} (hruns : s.lifecycle.Runs completion) :
    Finishes { s with terminalPending := false }.lifecycle
      (s.runRemoveCompletion env completion removed).lifecycle := by
  have hsender : TransferErrorCode.senderFailed ≠ .none := nofun
  unfold runRemoveCompletion
  generalize hs : ({ s with
    terminalPending := false
    removeRuns := s.removeRuns ++ [completion] } : OutgoingState) = cleared
  have hlifecycle : { s with terminalPending := false }.lifecycle = cleared.lifecycle := by
    rw [← hs]
    rfl
  have hruns : cleared.lifecycle.Runs completion := by
    rw [← hs]
    exact hruns
  rw [hlifecycle]
  dsimp only
  cases completion with
  | failure => exact finishOutgoingFailure_finishes hruns
  | localCancel =>
    cases removed with
    | error => exact finishOutgoingFailure_finishes hsender
    | ok => exact finishLocalCancel_finishes hruns
  | remoteCancel =>
    cases removed with
    | error => exact finishOutgoingFailure_finishes hsender
    | ok => exact finishRemoteCancel_finishes hruns.1 hruns.2
  | complete =>
    cases removed with
    | error => exact finishOutgoingFailure_finishes hsender
    | ok => exact finishCompletion_finishes hruns

/-! ### Removing the recovery state, and failing -/

theorem removal_base {completion : RecoveryRemoveCompletion} (hcore : Core runtime s.lifecycle)
    (hpending : s.terminalPending = true) (hstore : runtime.hasRecoveryStore = true)
    (hruns : s.lifecycle.Runs completion) {removePending : Bool} {removal : Option RecoveryRemoval}
    (hremoval : removePending = true ∨ removal.isSome = true)
    (hexclusive : removal.isSome = true → s.recoverySave = none) :
    Base runtime { s.lifecycle with
      savePending := false, completion := some completion, removePending, removal } where
  started := hcore.started
  unprepared := hcore.unprepared
  ends := hcore.ends
  completable other hother := by
    obtain rfl := Option.some.inj hother
    exact hruns
  blocked _ := rfl
  exclusive := hexclusive
  underway := hcore.underway
  storeless hnone := nomatch hstore.symm.trans hnone
  pending _ := ⟨hstore, hremoval, rfl⟩
  ended _ := .inr hpending
  finished _ hdone := nomatch hpending.symm.trans hdone

theorem removeOutgoingRecovery_spec {completion : RecoveryRemoveCompletion}
    (hcore : Core runtime s.lifecycle) (hpending : s.terminalPending = true)
    (hruns : s.lifecycle.Runs completion) :
    Base runtime (s.removeOutgoingRecovery runtime env completion).lifecycle ∧
      (s.lifecycle.Running →
        (s.removeOutgoingRecovery runtime env completion).lifecycle.Running) ∧
      (s.lifecycle.Synced →
        (s.removeOutgoingRecovery runtime env completion).lifecycle.Synced) ∧
      (s.lifecycle.Closed →
        Final s.lifecycle (s.removeOutgoingRecovery runtime env completion).lifecycle) := by
  unfold removeOutgoingRecovery
  dsimp only
  split
  · rename_i hstore
    have hfinishes : Finishes { s with terminalPending := false }.lifecycle
        ({ s with removeRequests := s.removeRequests ++ [completion] }.runRemoveCompletion
          env completion (.ok ())).lifecycle :=
      @runRemoveCompletion_finishes env
        { s with removeRequests := s.removeRequests ++ [completion] } completion (.ok ()) hruns
    refine ⟨hfinishes.base { hcore with
      underway := fun h => nomatch h
      unprepared := fun hpreparing => ?_ } rfl
      (hcore.storeless (by simpa using hstore)), hfinishes.isRunning,
      fun _ => hfinishes.isSynced, fun _ => ?_⟩
    · obtain ⟨hidle, hopen⟩ := hcore.unprepared hpreparing
      exact ⟨hidle, fun hlive => ⟨rfl, (hopen hlive).2⟩⟩
    · exact { hfinishes.final with }
  · rename_i hstore
    have hstore : runtime.hasRecoveryStore = true := by simpa using hstore
    split
    · rename_i hidle
      obtain ⟨hsave, hremoval⟩ := hidle
      unfold startOutgoingRecoveryRemoval
      rw [if_neg (by
        simp only [not_or]
        exact ⟨by simp, hremoval, by simp [hstore]⟩)]
      have hsave : s.recoverySave = none := by
        simpa [recoverySaveRunning] using hsave
      exact ⟨removal_base hcore hpending hstore hruns (.inr rfl) fun _ => hsave, id, id,
        fun hclosed => { Final.refl hclosed with }⟩
    · exact ⟨removal_base hcore hpending hstore hruns (.inl rfl) hcore.exclusive, id, id,
        fun hclosed => { Final.refl hclosed with }⟩

theorem moves_removeOutgoingRecovery {completion : RecoveryRemoveCompletion}
    (hruns : Lifecycle.Runs { s.lifecycle with cancelled := true } completion) :
    Moves runtime s.lifecycle
      ({ s with cancelled := true, terminalPending := true }.removeOutgoingRecovery runtime env
        completion).lifecycle := by
  have hspec (hcore : Core runtime s.lifecycle) :=
    @removeOutgoingRecovery_spec runtime env { s with cancelled := true, terminalPending := true }
      completion hcore.enter rfl hruns
  refine ⟨fun h => (hspec h.toCore).1, fun h => (hspec h.toCore).2.1,
    fun h hsynced => (hspec h.toCore).2.2.1 ?_,
    fun h _ hclosed => (Final.enter hclosed).trans ((hspec h.toCore).2.2.2 (.inl rfl))⟩
  intro control hcontrol
  rcases hsynced control hcontrol with hsame | ⟨-, hsettled⟩
  · exact .inl hsame
  · exact .inr ⟨rfl, hsettled⟩

theorem moves_failOutgoing {errorCode : TransferErrorCode} (hcode : errorCode ≠ .none)
    {diagnostic : String} :
    Moves runtime s.lifecycle (s.failOutgoing runtime env errorCode diagnostic).lifecycle := by
  unfold failOutgoing
  split
  · exact .refl
  · exact moves_removeOutgoingRecovery hcode

/-! ### Saving the recovery state -/

theorem moves_startOutgoingRecoverySave :
    Moves runtime s.lifecycle (s.startOutgoingRecoverySave runtime env).lifecycle := by
  have hsender : TransferErrorCode.senderFailed ≠ .none := nofun
  unfold startOutgoingRecoverySave
  split
  · split
    · exact .refl
    · rename_i hdue
      simp only [not_or, Bool.not_eq_true, Bool.not_eq_false] at hdue
      obtain ⟨hdue, hidle, hstore⟩ := hdue
      have hopen (h : Base runtime s.lifecycle) : ¬ s.lifecycle.Closed := fun hclosed =>
        nomatch (h.savePending_of_closed hclosed).symm.trans hdue
      split
      · have hcleared : Moves runtime s.lifecycle
            { s with recoverySavePending := false }.lifecycle :=
          ⟨fun h => { h with
            blocked := fun _ => rfl
            storeless := fun hnone => ⟨(h.storeless hnone).1, rfl⟩
            finished := fun hclosed hpending => ⟨(h.finished hclosed hpending).1, rfl⟩ },
            fun _ => id, fun _ => id, fun _ _ hclosed => { Final.refl hclosed with }⟩
        exact hcleared.trans (moves_failOutgoing hsender)
      · refine ⟨fun h => { h with
          blocked := fun _ => rfl
          exclusive := fun hremoval => ?_
          storeless := fun hnone => nomatch hstore.symm.trans hnone
          finished := fun hclosed _ => absurd hclosed (hopen h) },
          fun _ => id, fun _ => id, fun h _ hclosed => absurd hclosed (hopen h)⟩
        exact nomatch (h.blocked (.inr hremoval)).symm.trans hdue
  · exact .refl

theorem moves_persistOutgoing
    (hopen : s.lifecycle.Closed → runtime.hasRecoveryStore = false ∨
      s.recoveryRemovePending = true ∨ s.recoveryRemoveRunning = true) :
    Moves runtime s.lifecycle (s.persistOutgoing runtime env).lifecycle := by
  unfold persistOutgoing
  split
  · exact .refl
  · rename_i hfree
    simp only [not_or, Bool.not_eq_true, Bool.not_eq_false] at hfree
    obtain ⟨hstore, -, -, hremovePending, hremoval⟩ := hfree
    have hopen : ¬ s.lifecycle.Closed := fun hclosed => by
      rcases hopen hclosed with h | h | h
      · exact nomatch hstore.symm.trans h
      · exact nomatch hremovePending.symm.trans h
      · exact nomatch hremoval.symm.trans h
    have hdue : Moves runtime s.lifecycle { s with
        recoveryGeneration := s.recoveryGeneration + 1
        recoverySavePending := true }.lifecycle := by
      refine ⟨fun h => { h with
        blocked := fun hbusy => ?_
        storeless := fun hnone => nomatch hstore.symm.trans hnone
        finished := fun hclosed _ => absurd hclosed hopen },
        fun _ => id, fun _ => id, fun _ _ hclosed => absurd hclosed hopen⟩
      rcases hbusy with hbusy | hbusy
      · exact nomatch hremovePending.symm.trans hbusy
      · exact nomatch hremoval.symm.trans hbusy
    dsimp only
    split
    · exact hdue.trans moves_startOutgoingRecoverySave
    · exact hdue

/-! ### Progress and the sender -/

theorem moves_publishControl {control control' : TransferControlStateMachine}
    (hcontrol : s.control = some control) (hinit : control.initialized = true)
    (hfollows : Follows control control')
    (hstill : s.lifecycle.Synced → s.lifecycle.Closed →
      isTerminal control.snapshot.state = false →
        control'.snapshot.state = control.snapshot.state ∨
          isTerminal control'.snapshot.state = true) :
    Moves runtime s.lifecycle (s.publishControl control').lifecycle :=
  moves_publish hcontrol hinit hfollows hstill

theorem moves_updateOutgoingProgress (hstarted : s.lifecycle.Started) :
    Moves runtime s.lifecycle s.updateOutgoingProgress.lifecycle := by
  unfold updateOutgoingProgress
  split
  · rename_i hcontrol _
    exact moves_publishControl hcontrol (hstarted _ hcontrol) .updateProgress fun _ _ _ => .inl updateProgress_state
  · exact .refl

theorem started_updateOutgoingProgress (hstarted : s.lifecycle.Started) :
    s.updateOutgoingProgress.lifecycle.Started := by
  unfold updateOutgoingProgress
  split
  · rename_i hcontrol _
    intro other hother
    obtain rfl := Option.some.inj hother
    exact updateProgress_initialized.trans (hstarted _ hcontrol)
  · exact hstarted

theorem started_frameAccepted {id : Nat} {frame : Frame} (hstarted : s.lifecycle.Started) :
    (s.frameAccepted id frame).lifecycle.Started := by
  unfold frameAccepted
  dsimp only
  split
  · exact started_updateOutgoingProgress hstarted
  · exact hstarted

theorem moves_frameAccepted {id : Nat} {frame : Frame} (hstarted : s.lifecycle.Started) :
    Moves runtime s.lifecycle (s.frameAccepted id frame).lifecycle := by
  unfold frameAccepted
  dsimp only
  split
  · exact .of_eq (moves_updateOutgoingProgress hstarted) rfl
  · exact .refl

theorem moves_startSenderTask {connection : FileTlsConnection} {id : Nat}
    (hprepared : s.preparing = false) :
    Moves runtime s.lifecycle (s.startSenderTask connection id).lifecycle := by
  unfold startSenderTask
  dsimp only
  split
  · exact moves_sender hprepared
  · exact .refl

theorem moves_awaitingFileResult {awaitingFileResult : Bool} (hstarted : s.lifecycle.Started)
    (hprepared : s.preparing = false) :
    Moves runtime s.lifecycle { s with awaitingFileResult }.lifecycle :=
  moves_flags hstarted hprepared

theorem prepared_updateOutgoingProgress :
    s.updateOutgoingProgress.preparing = s.preparing := by
  unfold updateOutgoingProgress
  split <;> rfl

theorem prepared_frameAccepted {id : Nat} {frame : Frame} :
    (s.frameAccepted id frame).preparing = s.preparing := by
  unfold frameAccepted
  dsimp only
  split
  · exact prepared_updateOutgoingProgress
  · rfl

theorem moves_scheduleSenderPump :
    Moves runtime s.lifecycle (s.scheduleSenderPump runtime env).lifecycle := by
  refine .of_base fun h => ?_
  unfold scheduleSenderPump
  split
  · exact .refl
  · rename_i id hsender
    have hprepared : s.preparing = false :=
      h.prepared (.inr (.inl (Option.isSome_iff_exists.mpr ⟨_, hsender⟩)))
    split
    · exact .refl
    · rename_i hready
      simp only [not_or, Bool.not_eq_true] at hready
      have hstarted := h.started_of_live hready.1
      split
      · rename_i connection _ _
        dsimp only
        split
        · exact .of_eq (moves_startSenderTask hprepared) rfl
        · rename_i frame _
          have hframe := @moves_frameAccepted runtime
            (s.modifyWorker id (·.updateTransportQueuedBytes connection.queuedWriteBytes)) id frame
            hstarted
          split
          · split
            · exact .of_eq (moves_failOutgoing (by decide)) rfl
            · exact .refl
          · exact .of_eq (moves_failOutgoing (by decide)) rfl
          · split
            · exact hframe.trans (moves_awaitingFileResult (started_frameAccepted hstarted)
                (prepared_frameAccepted.trans hprepared))
            · exact hframe.trans (moves_startSenderTask (prepared_frameAccepted.trans hprepared))
      · exact moves_failOutgoing (by decide)

/-! ### Files and completion -/

section Advances

variable {control : TransferControlStateMachine} {first second next : TransferState}

theorem advanceThrough_follows (hfirst : ¬ Ended first) (hsecond : ¬ Ended second) :
    Follows control (advanceThrough env control first second).2 := by
  unfold advanceThrough
  dsimp only
  split
  · exact .advance hfirst
  · exact (Follows.advance hfirst).trans (.advance hsecond)

theorem advanceThrough_cases (hgraph : canAdvance first second = true)
    (hsecond : second ≠ .completed) :
    ((advanceThrough env control first second).1 = false ∧
        (advanceThrough env control first second).2 = control) ∨
      ((advanceThrough env control first second).1 = true ∧
        (advanceThrough env control first second).2.snapshot.state = second ∧
        (first = control.snapshot.state ∨ isTerminal control.snapshot.state = false)) := by
  unfold advanceThrough
  dsimp only
  split
  · rename_i hrefused
    rcases control.advance_cases env.now first with ⟨hsame, -⟩ | ⟨-, -, -, hset⟩
    · exact .inl ⟨rfl, hsame⟩
    · rw [hset] at hrefused
      exact absurd setState_ok hrefused
  · rename_i hok
    have hok := not_not.mp hok
    have hstate := advance_state_of_ok hok
    rw [advance_of_canAdvance (advance_initialized.trans (initialized_of_advance_ok hok))
      (by rw [hstate]; exact hgraph) hsecond]
    refine .inr ⟨rfl, setState_state, ?_⟩
    rcases control.advance_cases env.now first with ⟨-, hsame⟩ | ⟨-, hlive, -⟩
    · exact .inl (hsame hok)
    · exact .inr hlive

theorem advanceFrom_follows {states : List TransferState} (hnext : ¬ Ended next) :
    Follows control (advanceFrom env control states next).2 := by
  unfold advanceFrom
  split
  · exact .advance hnext
  · exact .refl

theorem advanceFrom_of_refused {states : List TransferState}
    (h : (advanceFrom env control states next).1 = false) :
    (advanceFrom env control states next).2 = control := by
  unfold advanceFrom at h ⊢
  split
  · rename_i hstate
    rw [if_pos hstate] at h
    rcases control.advance_cases env.now next with ⟨hsame, -⟩ | ⟨-, -, -, hset⟩
    · exact hsame
    · dsimp only at h
      rw [hset] at h
      exact nomatch h
  · rfl

end Advances

theorem cancelled_updateOutgoingProgress :
    s.updateOutgoingProgress.cancelled = s.cancelled := by
  unfold updateOutgoingProgress
  split <;> rfl

theorem moves_control_updateOutgoingProgress {control control' : TransferControlStateMachine}
    (hlive : s.cancelled = false) (hstarted : s.lifecycle.Started) (hcontrol : s.control = some control)
    (hmanifest : s.manifest.isSome = true) (hfollows : Follows control control') :
    Moves runtime s.lifecycle
      ({ s with control := some control' }.updateOutgoingProgress).lifecycle := by
  obtain ⟨manifest, hmanifest⟩ := Option.isSome_iff_exists.mp hmanifest
  unfold updateOutgoingProgress
  dsimp only
  rw [hmanifest]
  exact moves_publishControl hcontrol (hstarted control hcontrol) (hfollows.trans .updateProgress)
    fun hsynced hclosed halive =>
      nomatch (hsynced.terminal_of_not_cancelled hclosed hlive hcontrol).symm.trans halive

theorem moves_commitOutgoing (hlive : s.cancelled = false) :
    Moves runtime s.lifecycle (s.commitOutgoing runtime env).lifecycle := by
  refine .of_base fun h => ?_
  unfold commitOutgoing
  split
  · exact .refl
  · rename_i control hcontrol
    have hstarted := h.started_of_live hlive control hcontrol
    have hfollows : Follows control (advanceThrough env control .verifying .committing).2 :=
      advanceThrough_follows (by simp [Ended]) (by simp [Ended])
    rcases @advanceThrough_cases env control .verifying .committing rfl nofun with
      ⟨hrefused, hsame⟩ | ⟨hadvanced, hcommitting, hedge⟩
    · dsimp only
      rw [if_pos (by simp [hrefused]), hsame, ← hcontrol]
      exact moves_failOutgoing (by decide)
    · have halive : isTerminal control.snapshot.state = false := by
        rcases hedge with hverifying | halive
        · rw [← hverifying]
          rfl
        · exact halive
      dsimp only
      rw [if_neg (by simp [hadvanced])]
      generalize (advanceThrough env control .verifying .committing).2 = control' at *
      have hpublished := @moves_publishControl runtime s control control' hcontrol
        (h.started_of_live hlive control hcontrol) hfollows fun hsynced hclosed halive =>
          nomatch (hsynced.terminal_of_not_cancelled hclosed hlive hcontrol).symm.trans halive
      have hcore := (hpublished.base h).toCore
      have hspec := @removeOutgoingRecovery_spec runtime env
        { s.publishControl control' with terminalPending := true } .complete
        { hcore with
          underway := fun _ _ => ⟨control', rfl, by rw [hcommitting]; simp [Underway]⟩
          unprepared := fun hpreparing =>
            nomatch (hcore.prepared (.inl rfl)).symm.trans hpreparing } rfl rfl
      exact ⟨fun _ => hspec.1, fun hbase hrunning => hspec.2.1 (hpublished.running hbase hrunning),
        fun hbase hsynced => hspec.2.2.1 (hpublished.synced hbase hsynced),
        fun _ hsynced hclosed =>
          nomatch (hsynced.terminal_of_not_cancelled hclosed hlive hcontrol).symm.trans halive⟩

theorem moves_openSender {request : TransferSenderRequest} {connection : FileTlsConnection}
    (hstarted : s.lifecycle.Started) (hprepared : s.preparing = false) :
    Moves runtime s.lifecycle (s.openSender request connection).lifecycle := by
  have hflags : Moves runtime s.lifecycle { s with awaitingFileResult := false }.lifecycle :=
    moves_awaitingFileResult hstarted hprepared
  exact hflags.trans (moves_sender hprepared)

theorem moves_startNextOutgoingFile :
    Moves runtime s.lifecycle (s.startNextOutgoingFile runtime env).lifecycle := by
  refine .of_base fun h => ?_
  unfold startNextOutgoingFile
  split
  · rename_i manifest control hmanifest hcontrol
    split
    · exact .refl
    · rename_i hlive
      have hlive : s.cancelled = false := by simpa using hlive
      have hstarted := h.started_of_live hlive
      have hprepared : s.preparing = false := h.prepared (.inl (by
        show s.control.isSome = true
        rw [hcontrol]
        rfl))
      dsimp only
      split
      · have hfollows : Follows control (advanceFrom env control [.queued] .transferring).2 :=
          advanceFrom_follows (by simp [Ended])
        unfold completeOutgoing
        dsimp only
        split
        · rename_i hpending
          have hpending : s.terminalPending = true := by simpa using hpending
          obtain ⟨other, hother, hunderway⟩ := h.underway hpending hlive
          obtain rfl := Option.some.inj (hcontrol.symm.trans hother)
          have hsame : (advanceFrom env control [.queued] .transferring).2 = control := by
            unfold advanceFrom
            rw [if_neg (by simp [hunderway.2.2.2])]
          rw [hsame, ← hcontrol]
          exact .refl
        · have hprogress := @moves_control_updateOutgoingProgress runtime
            { s with currentEntry :=
                skipDirectories (manifest.entries.drop s.currentEntry) s.currentEntry }
            control _ hlive hstarted hcontrol (by simp [hmanifest]) hfollows
          exact hprogress.trans (moves_commitOutgoing (cancelled_updateOutgoingProgress.trans hlive))
      · split
        · rename_i source _ _ _ capabilities connection _ _
          have hfollows : Follows control
              (advanceFrom env control [.queued, .resuming] .transferring).2 :=
            advanceFrom_follows (by simp [Ended])
          generalize TransferSenderRequest.mk _ _ _ _ _ = request
          refine .of_eq ((@moves_openSender runtime
            { s with currentEntry :=
                skipDirectories (manifest.entries.drop s.currentEntry) s.currentEntry }
            request connection hstarted hprepared).trans ?_) rfl
          split
          · rename_i hrefused
            rw [advanceFrom_of_refused (by simpa using hrefused)]
            refine .of_eq (moves_failOutgoing (by decide)) ?_
            rw [← hcontrol]
            rfl
          · refine .trans (moves_control_updateOutgoingProgress ?_ ?_ ?_ ?_ hfollows)
              moves_scheduleSenderPump
            · exact hlive
            · exact hstarted
            · exact hcontrol
            · simp [openSender, hmanifest]
        · exact .of_eq (moves_failOutgoing (by decide)) rfl
  · exact .refl

/-! ### Local commands -/

theorem moves_publishControl_of_live {control control' : TransferControlStateMachine}
    (hcontrol : s.control = some control) (hlive : s.cancelled = false)
    (hfollows : Follows control control') :
    Moves runtime s.lifecycle (s.publishControl control').lifecycle :=
  .of_base fun h => moves_publishControl hcontrol (h.started_of_live hlive control hcontrol) hfollows
    fun hsynced hclosed halive =>
      nomatch (hsynced.terminal_of_not_cancelled hclosed hlive hcontrol).symm.trans halive

theorem moves_pause : Moves runtime s.lifecycle (s.pause runtime env).lifecycle := by
  unfold pause
  dsimp only
  split
  · exact .refl
  · split
    · exact .refl
    · rename_i control hcontrol
      split
      · exact .refl
      · rename_i hlive
        split
        · exact .refl
        · have hfollows : Follows control (control.pause env.now).2 := .pause
          have hpaused := @moves_publishControl_of_live runtime { s with paused := true } control _
            hcontrol (by simpa using hlive) hfollows
          split
          · exact hpaused.trans (moves_failOutgoing (by decide))
          · exact hpaused

theorem resumeControl_cases (control : TransferControlStateMachine) :
    (∃ diagnostic, resumeControl env control = .error (diagnostic, control)) ∨
      ∃ control', resumeControl env control = .ok control' ∧ Follows control control' ∧
        control.initialized = true ∧ control'.snapshot.state = .transferring ∧
        (control.snapshot.state = .paused ∨ control.snapshot.state = .interrupted ∨
          control.snapshot.state = .resuming) := by
  unfold resumeControl
  dsimp only
  split
  · rename_i hrefused
    rcases control.resume_cases env.now with ⟨hsame, -⟩ | ⟨-, -, hset⟩
    · rw [hsame]
      exact .inl ⟨_, rfl⟩
    · rw [hset] at hrefused
      exact absurd setState_ok hrefused
  · rename_i hok
    have hok := not_not.mp hok
    obtain ⟨hinit, hstate, hfrom⟩ : control.initialized = true ∧
        (control.resume env.now).2.snapshot.state = .resuming ∧
        (control.snapshot.state = .paused ∨ control.snapshot.state = .interrupted ∨
          control.snapshot.state = .resuming) := by
      rcases control.resume_cases env.now with ⟨hsame, hresuming⟩ | ⟨hinit, hstopped, hset⟩
      · exact ⟨initialized_of_resume_ok hok, by rw [hsame, hresuming hok],
          .inr (.inr (hresuming hok))⟩
      · exact ⟨hinit, by rw [hset, setState_state], by tauto⟩
    have hresume : Follows control (control.resume env.now).2 := .resume
    have hadvance : (control.resume env.now).2.advance env.now .transferring =
        (control.resume env.now).2.setState env.now .transferring :=
      advance_of_canAdvance (hresume.1.trans hinit) (by rw [hstate]; rfl) nofun
    rw [hadvance, if_neg (by simp)]
    refine .inr ⟨_, rfl, hresume.trans ?_, hinit, setState_state, hfrom⟩
    exact .setState (by rw [hstate]; rfl) (by simp [Underway]) (by simp [Ended])

theorem moves_resume : Moves runtime s.lifecycle (s.resume runtime env).lifecycle := by
  unfold resume
  dsimp only
  split
  · exact .refl
  · split
    · exact .refl
    · rename_i control hcontrol
      split
      · exact .refl
      · rename_i hlive
        simp only [not_or, Bool.not_eq_true] at hlive
        rcases @resumeControl_cases env control with
          ⟨diagnostic, herror⟩ | ⟨control', hok, hfollows, -⟩
        · rw [herror]
          dsimp only
          rw [← hcontrol]
          exact .refl
        · rw [hok]
          dsimp only
          have hresumed := @moves_publishControl_of_live runtime { s with paused := false } control
            control' hcontrol hlive.2 hfollows
          split
          · exact hresumed.trans (moves_failOutgoing (by decide))
          · exact hresumed.trans moves_scheduleSenderPump

theorem moves_cancel {options : TransferCancelOptions} :
    Moves runtime s.lifecycle (s.cancel runtime env options).lifecycle := by
  unfold cancel
  split
  · exact .refl
  · split
    · exact .refl
    · exact moves_removeOutgoingRecovery rfl

/-! ### Commands of the peer -/

variable {transferId : TransferId}

theorem moves_remotePause
    (hquiet : s.lifecycle.Closed → s.paused = true ∨
      ∀ control, s.control = some control → control.snapshot.state ≠ .transferring) :
    Moves runtime s.lifecycle (s.applyRemoteCommand runtime env (.pause transferId)).lifecycle := by
  unfold applyRemoteCommand
  split
  · exact .refl
  · rename_i control hcontrol
    dsimp only
    split
    · exact .refl
    · rename_i hpaused
      split
      · exact .refl
      · rename_i hok
        have hok := not_not.mp hok
        have hinit := initialized_of_pause_ok hok
        refine .of_eq (moves_publishControl hcontrol hinit .pause fun _ hclosed _ => ?_) rfl
        rcases control.pause_cases env.now with ⟨hsame, -⟩ | ⟨-, htransferring, -⟩
        · rw [hsame]
          exact .inl rfl
        · rcases hquiet hclosed with hpaused' | hquiet
          · exact absurd hpaused' hpaused
          · exact absurd htransferring (hquiet control hcontrol)

/-- A resumed session is sent on before its snapshot is published. -/
theorem resent_base {control control' : TransferControlStateMachine}
    (hcontrol : s.control = some control) (hinit : control.initialized = true)
    (hfollows : Follows control control') (h : Base runtime s.lifecycle) :
    ∃ last, (scheduleSenderPump runtime env
        { s with paused := false, control := some control' }).control = some last ∧
      last.initialized = true ∧
      Base runtime ((scheduleSenderPump runtime env
        { s with paused := false, control := some control' }).publishControl last).lifecycle := by
  have hsent := @moves_scheduleSenderPump runtime env
    { s with paused := false, control := some control' }
  have hbase := h.control hcontrol hinit hfollows
  obtain ⟨last, hlast, hstarted⟩ := hsent.running hbase ⟨control', rfl, hfollows.1.trans hinit⟩
  refine ⟨last, hlast, hstarted, ?_⟩
  generalize scheduleSenderPump runtime env
    { s with paused := false, control := some control' } = sent at hsent hlast
  have hlast : sent.control = some last := hlast
  have hpublished := (hsent.base hbase).publish hlast hstarted
  simp only [publishControl, ← hlast]
  exact hpublished

theorem moves_remoteResume
    (hquiet : s.lifecycle.Closed → s.paused = false ∨
      ∀ control, s.control = some control → control.snapshot.state ≠ .paused ∧
        control.snapshot.state ≠ .interrupted ∧ control.snapshot.state ≠ .resuming) :
    Moves runtime s.lifecycle
      (s.applyRemoteCommand runtime env (.resume transferId)).lifecycle := by
  unfold applyRemoteCommand
  split
  · exact .refl
  · rename_i control hcontrol
    dsimp only
    split
    · exact .refl
    · rename_i hpaused
      rcases @resumeControl_cases env control with
        ⟨diagnostic, herror⟩ | ⟨control', hok, hfollows, hinit, -, hfrom⟩
      · rw [herror]
        dsimp only
        rw [← hcontrol]
        exact .refl
      · rw [hok]
        dsimp only
        have hopen : ¬ s.lifecycle.Closed := fun hclosed => by
          rcases hquiet hclosed with hfree | hquiet
          · exact hpaused (by simp [hfree])
          · obtain ⟨hpaused, hinterrupted, hresuming⟩ := hquiet control hcontrol
            rcases hfrom with h | h | h <;> contradiction
        refine .of_base fun h => ?_
        obtain ⟨last, hlast, hstarted, hbase⟩ := @resent_base runtime env s _ _ hcontrol hinit
          hfollows h
        rw [hlast]
        refine ⟨fun _ => hbase, fun _ _ => ⟨last, rfl, hstarted⟩, fun _ _ other hother => ?_,
          fun _ _ hclosed => absurd hclosed hopen⟩
        obtain rfl := Option.some.inj hother
        exact .inl rfl

theorem moves_remoteCancel {reason : TransferCancelReason} {keepPartial : Bool} :
    Moves runtime s.lifecycle
      (s.applyRemoteCommand runtime env (.cancel transferId reason keepPartial)).lifecycle := by
  unfold applyRemoteCommand
  split
  · exact .refl
  · rename_i control hcontrol
    dsimp only
    split
    · exact .refl
    · rename_i hlive
      simp only [not_or, Bool.not_eq_true] at hlive
      obtain ⟨hlive, hpublished⟩ := hlive
      split
      · exact .refl
      · rename_i hok
        have hok := not_not.mp hok
        have hinit := initialized_of_cancel_ok hok
        have hspec (h : Base runtime s.lifecycle) := @removeOutgoingRecovery_spec runtime env
          { s.publishControl (control.cancel env.now).2 with
            cancelled := true, terminalPending := true } .remoteCancel
          { h with
            started := fun other hother => by
              obtain rfl := Option.some.inj hother
              exact .inl (cancel_initialized.trans hinit)
            unprepared := fun hpreparing =>
              nomatch (h.prepared (.inl (by
                show s.control.isSome = true
                rw [hcontrol]
                rfl))).symm.trans hpreparing
            ends := fun _ _ _ => .inl rfl
            underway := fun _ h => nomatch h
            completable := fun completion hcompletion =>
              (h.completable completion hcompletion).mono (fun _ => rfl) fun _ => rfl }
          rfl ⟨rfl, rfl⟩
        refine ⟨fun h => (hspec h).1, fun h _ => (hspec h).2.1
          ⟨_, rfl, cancel_initialized.trans hinit⟩, fun h _ => (hspec h).2.2.1 ?_,
          fun h hsynced hclosed => ?_⟩
        · intro other hother
          obtain rfl := Option.some.inj hother
          exact .inl rfl
        · have hterminal := hsynced.terminal_of_not_cancelled hclosed hlive hcontrol
          have hsame : s.snapshot.state = control.snapshot.state := by
            rcases hsynced control hcontrol with hsame | ⟨hcancelled, -⟩
            · exact hsame
            · exact nomatch hlive.symm.trans hcancelled
          rcases control.cancel_cases env.now with ⟨-, hstate⟩ | ⟨-, halive, -⟩
          · rcases hstate hok with hcancelling | hcancelled
            · rw [hcancelling] at hterminal
              exact nomatch hterminal
            · exact absurd (hsame.trans hcancelled) (by simpa using hpublished)
          · exact nomatch hterminal.symm.trans halive

/-! ### From the manifest to the offer -/

theorem moves_offerState {offerState : Option TransferOfferStateMachine}
    (hstarted : s.lifecycle.Started) (hprepared : s.preparing = false) :
    Moves runtime s.lifecycle { s with offerState }.lifecycle :=
  moves_flags hstarted hprepared

theorem prepared_of_control (h : Base runtime s.lifecycle) {control : TransferControlStateMachine}
    (hcontrol : s.control = some control) : s.preparing = false :=
  h.prepared (.inl (by
    show s.control.isSome = true
    rw [hcontrol]
    rfl))

theorem moves_sendOffer (hlive : s.cancelled = false) :
    Moves runtime s.lifecycle (s.sendOffer runtime env).lifecycle := by
  refine .of_base fun h => ?_
  unfold sendOffer
  split
  · rename_i control _ _ _ hcontrol
    dsimp only
    generalize TransferOfferStateMachine.beginOutgoing _ _ = begun
    split
    · exact moves_failOutgoing (by decide)
    · split
      · exact moves_failOutgoing (by decide)
      · split
        · exact moves_failOutgoing (by decide)
        · have hoffered : Moves runtime s.lifecycle { s with offerState := some begun.2 }.lifecycle :=
            moves_offerState (h.started_of_live hlive) (prepared_of_control h hcontrol)
          refine hoffered.trans ?_
          rcases @advanceThrough_cases env control .offered .waitingForAcceptance rfl nofun with
            ⟨hrefused, hsame⟩ | ⟨hadvanced, -⟩
          · rw [if_pos (by simp [hrefused]), hsame, ← hcontrol]
            exact moves_failOutgoing (by decide)
          · rw [if_neg (by simp [hadvanced])]
            exact moves_publishControl_of_live hcontrol hlive
              (advanceThrough_follows (by simp [Ended]) (by simp [Ended]))
  · exact .refl

theorem moves_finishManifestPreparation {manifest : Except String TransferManifest}
    {plan : Except String ManifestPagePlan} (hpreparing : s.preparing = true) :
    Moves runtime s.lifecycle
      ({ s with preparing := false }.finishManifestPreparation runtime env manifest plan).lifecycle := by
  refine .of_base fun h => ?_
  have hprepared : Moves runtime s.lifecycle { s with preparing := false }.lifecycle :=
    ⟨fun h => { h with unprepared := nofun }, fun _ => id, fun _ => id,
      fun _ _ hclosed => { Final.refl hclosed with }⟩
  unfold finishManifestPreparation
  split
  · exact hprepared
  · rename_i hlive
    have hlive : s.cancelled = false := by simpa using hlive
    obtain ⟨⟨hnone, hunoffered, -⟩, hopen⟩ := h.unprepared hpreparing
    obtain ⟨hpending, hpublished⟩ : s.terminalPending = false ∧ s.snapshot.state = .preparing :=
      hopen hlive
    have hopen : ¬ s.lifecycle.Closed := fun hclosed =>
      nomatch hlive.symm.trans (hclosed.cancelled hpublished (by simp [Ended]))
    split
    · exact hprepared.trans (moves_failOutgoing (by decide))
    · dsimp only
      split
      · exact hprepared.trans (.of_eq (moves_failOutgoing (by decide)) rfl)
      · rename_i manifest _ plan
        generalize hsnapshot : ({ s.snapshot with
          displayName := manifest.summary.displayName
          progress := { s.snapshot.progress with
            totalBytes := manifest.summary.totalBytes
            totalFiles := manifest.summary.fileCount } } : TransferSnapshot) = snapshot
        have hstate : snapshot.state = .preparing := by
          rw [← hsnapshot]
          exact hpublished
        rcases initializeSnapshot_cases snapshot with ⟨hrefused, hsame⟩ | ⟨hok, -, hcontrol⟩
        · rw [if_pos (by simp [hrefused]), hsame]
          unfold failOutgoing
          rw [if_neg (by simp [hpending])]
          have hspec := @removeOutgoingRecovery_spec runtime env
            { s with
              preparing := false, manifest := some manifest, pagePlan := some plan, snapshot
              control := some { snapshot }, cancelled := true, terminalPending := true }
            (.failure .manifestBuildFailed
              (initializeSnapshot { snapshot }).1.diagnostic)
            { h with
              started := fun _ _ => .inr ⟨rfl, hunoffered⟩
              unprepared := nofun
              ends := fun _ _ _ => .inl rfl
              underway := fun _ h => nomatch h
              completable := fun completion hcompletion =>
                (h.completable completion hcompletion).mono (fun _ => rfl) fun _ => rfl }
            rfl nofun
          refine ⟨fun _ => hspec.1, fun _ hrunning => ?_, fun _ _ => hspec.2.2.1 ?_,
            fun _ _ hclosed => absurd hclosed hopen⟩
          · obtain ⟨control, hcontrol, -⟩ := hrunning
            exact nomatch hnone.symm.trans hcontrol
          · intro other hother
            obtain rfl := Option.some.inj hother
            exact .inl rfl
        · rw [if_neg (by simp [hok]), hcontrol]
          generalize hmachine : ({ snapshot := updateActions snapshot, initialized := true } :
            TransferControlStateMachine) = control
          have hinit : control.initialized = true := by rw [← hmachine]
          have hcontrolState : control.snapshot.state = .preparing := by
            rw [← hmachine]
            exact hstate
          have hready : Moves runtime s.lifecycle
              ({ s with
                preparing := false, manifest := some manifest, pagePlan := some plan, snapshot
                control := some control }.publishControl control).lifecycle := by
            refine ⟨fun h => { h with
              started := fun other hother => ?_
              unprepared := nofun
              ends := fun other hother hended => ?_
              underway := fun hpending' => nomatch hpending.symm.trans hpending'
              completable := fun completion hcompletion =>
                (h.completable completion hcompletion).mono id fun _ => rfl
              ended := fun hended => ?_
              finished := fun hclosed => ?_ }, fun _ _ => ⟨control, rfl, hinit⟩,
              fun _ _ other hother => ?_, fun _ _ hclosed => absurd hclosed hopen⟩
            · obtain rfl := Option.some.inj hother
              exact .inl hinit
            · obtain rfl := Option.some.inj hother
              rw [hcontrolState] at hended
              simp [Ended] at hended
            · rcases hended with hcancelled | hterminal
              · exact nomatch hlive.symm.trans hcancelled
              · have hterminal : isTerminal control.snapshot.state = true := hterminal
                rw [hcontrolState] at hterminal
                exact nomatch hterminal
            · exact nomatch hlive.symm.trans (hclosed.cancelled hcontrolState (by simp [Ended]))
            · obtain rfl := Option.some.inj hother
              exact .inl rfl
          split
          · exact hready.trans (moves_failOutgoing (by decide))
          · split
            · exact hready.trans (moves_sendOffer hlive)
            · exact hready

/-! ### Resuming after a drop -/

theorem moves_sendResumeQuery (hlive : s.cancelled = false) :
    Moves runtime s.lifecycle (s.sendResumeQuery runtime env).lifecycle := by
  refine .of_base fun h => ?_
  unfold sendResumeQuery
  split
  · rename_i control _ hcontrol
    split
    · exact .refl
    · split
      · exact moves_failOutgoing (by decide)
      · dsimp only
        split
        · split
          · exact moves_failOutgoing (by decide)
          · have hresumed := @moves_publishControl_of_live runtime s control _ hcontrol hlive
              (.resume : Follows control (control.resume env.now).2)
            refine hresumed.trans (.of_base fun hbase => ?_)
            exact moves_flags (hbase.started_of_live hlive) (hbase.prepared (.inl rfl))
        · exact .refl
  · exact .refl

theorem moves_offerPreparedTransfers :
    Moves runtime s.lifecycle (s.offerPreparedTransfers runtime env).lifecycle := by
  unfold offerPreparedTransfers
  split
  · rename_i hinterrupted
    split
    · exact .refl
    · exact moves_sendResumeQuery (by simpa using hinterrupted.2)
  · split
    · rename_i hunoffered
      exact moves_sendOffer (by simpa using hunoffered.2.2.2)
    · exact .refl

theorem recoveryRemovePending_updateOutgoingProgress :
    s.updateOutgoingProgress.recoveryRemovePending = s.recoveryRemovePending := by
  unfold updateOutgoingProgress
  split <;> rfl

theorem recoveryRemoveRunning_updateOutgoingProgress :
    s.updateOutgoingProgress.recoveryRemoveRunning = s.recoveryRemoveRunning := by
  unfold updateOutgoingProgress
  split <;> rfl

theorem closed_of_updateOutgoingProgress (h : Base runtime s.lifecycle)
    (hclosed : s.updateOutgoingProgress.lifecycle.Closed) : s.lifecycle.Closed := by
  unfold updateOutgoingProgress at hclosed
  split at hclosed
  · rename_i control _ hcontrol _
    rcases hclosed with hcancelled | hended
    · exact .inl hcancelled
    · refine h.ends control hcontrol ?_
      have hended : Ended (control.updateProgress _ _ _ _ _).2.snapshot.state := hended
      rwa [updateProgress_state] at hended
  · exact hclosed

theorem moves_continueResumed (hstarted : s.lifecycle.Started) (hprepared : s.preparing = false)
    (hopen : s.lifecycle.Closed → runtime.hasRecoveryStore = false ∨
      s.recoveryRemovePending = true ∨ s.recoveryRemoveRunning = true) :
    Moves runtime s.lifecycle (s.continueResumed runtime env).lifecycle := by
  unfold continueResumed
  dsimp only
  have hreset : Moves runtime s.lifecycle { s with
      nextManifestPage := 0, sender := none, awaitingFileResult := false
      pendingStatus := .progressed, resumeQueryPending := false, interrupted := false }.lifecycle := by
    have hflags : Moves runtime s.lifecycle
        { s with awaitingFileResult := false, resumeQueryPending := false }.lifecycle :=
      moves_flags hstarted hprepared
    exact hflags.trans (moves_sender hprepared)
  refine .of_base fun h => (hreset.trans (moves_updateOutgoingProgress hstarted)).trans
    (.trans (moves_persistOutgoing fun hclosed => ?_) .refl)
  rw [recoveryRemovePending_updateOutgoingProgress, recoveryRemoveRunning_updateOutgoingProgress]
  have hbefore := closed_of_updateOutgoingProgress (hreset.base h) hclosed
  exact hopen hbefore

theorem closed_of_restored {control : TransferControlStateMachine}
    (hresuming : control.snapshot.state = .resuming)
    (hclosed : (s.publishControl control).lifecycle.Closed) : s.lifecycle.Closed :=
  .inl (hclosed.cancelled hresuming (by simp [Ended]))

theorem moves_restored {control control' : TransferControlStateMachine}
    (hcontrol : s.control = some control) (hinit : control'.initialized = true)
    (hresuming : control'.snapshot.state = .resuming)
    (hquiet : s.lifecycle.Closed → s.snapshot.state = .resuming) :
    Moves runtime s.lifecycle (s.publishControl control').lifecycle := by
  have hunsettled : s.lifecycle.Closed → ¬ s.lifecycle.Settled := fun hclosed hsettled => by
    have hterminal : isTerminal s.snapshot.state = true := hsettled.1
    rw [hquiet hclosed] at hterminal
    exact nomatch hterminal
  have hclosed (hclosed : (s.publishControl control').lifecycle.Closed) : s.lifecycle.Closed :=
    closed_of_restored hresuming hclosed
  refine ⟨fun h => { h with
    started := fun other hother => ?_
    unprepared := fun hpreparing => nomatch (prepared_of_control h hcontrol).symm.trans hpreparing
    ends := fun other hother hended => ?_
    underway := fun _ _ => ⟨control', rfl, by rw [hresuming]; simp [Underway]⟩
    completable := fun completion hcompletion =>
      (h.completable completion hcompletion).mono id fun _ => rfl
    ended := fun hended => .inr ?_
    finished := fun hclosed' => h.finished (hclosed hclosed') }, fun _ _ => ⟨control', rfl, hinit⟩,
    fun _ _ other hother => ?_, fun _ _ hclosed' => ?_⟩
  · obtain rfl := Option.some.inj hother
    exact .inl hinit
  · obtain rfl := Option.some.inj hother
    rw [hresuming] at hended
    simp [Ended] at hended
  · rcases hended with hcancelled | hterminal
    · exact (h.ended (.inl hcancelled)).resolve_left (hunsettled (.inl hcancelled))
    · have hterminal : isTerminal control'.snapshot.state = true := hterminal
      rw [hresuming] at hterminal
      exact nomatch hterminal
  · obtain rfl := Option.some.inj hother
    exact .inl rfl
  · refine { Final.refl hclosed' with
      closed := ?_
      settled := fun hsettled => absurd hsettled (hunsettled hclosed')
      published := .inl (hresuming.trans (hquiet hclosed').symm) }
    exact .inl (hclosed'.cancelled (hquiet hclosed') (by simp [Ended]))

theorem interruptedControl_resuming {initial : TransferSnapshot}
    {control : TransferControlStateMachine}
    (h : interruptedControl env initial true = some control) :
    control.initialized = true ∧ control.snapshot.state = .resuming := by
  unfold interruptedControl at h
  simp only [Option.bind_eq_bind, Option.bind_eq_some_iff, if_true] at h
  obtain ⟨-, -, -, -, -, -, -, -, -, -, cut, -, hresumed⟩ := h
  split at hresumed
  · rename_i hok
    obtain rfl := Option.some.inj hresumed
    have hresume : Follows cut (cut.resume env.now).2 := .resume
    refine ⟨hresume.1.trans (initialized_of_resume_ok hok), ?_⟩
    rcases cut.resume_cases env.now with ⟨hsame, hstate⟩ | ⟨-, -, hset⟩
    · rw [hsame, hstate hok]
    · rw [hset, setState_state]
  · exact nomatch hresumed

/-- A response that reopens a closed session: the session goes on to save its state again, or has a
new state machine resume it. -/
def Reopens (runtime : FileTransferRuntime) (s : OutgoingState) : Prop :=
  (runtime.hasRecoveryStore = true ∧ s.recoveryRemovePending = false ∧
      s.recoveryRemoveRunning = false) ∨
    (s.hydratedFromRecovery = true ∧ s.snapshot.state ≠ .resuming)

def AcceptsResponse (s : OutgoingState) (response : ResumeResponseMessage) : Prop :=
  s.resumeQueryPending = true ∧ ∃ query manifest plan,
    s.resumeQuery = some query ∧ s.manifest = some manifest ∧
    ResumeNegotiator.validateResponse query response
      (manifest.entries.map PreparedManifestEntry.entry) = .ok plan

theorem moves_handleResumeResponse {response : ResumeResponseMessage}
    (hquiet : s.lifecycle.Closed → s.AcceptsResponse response → ¬ s.Reopens runtime) :
    Moves runtime s.lifecycle (s.handleResumeResponse runtime env response).lifecycle := by
  refine .of_base fun h => ?_
  unfold handleResumeResponse
  split
  · rename_i query manifest control hasked hmanifest hcontrol
    split
    · exact .refl
    · rename_i hquery
      have hquery : s.resumeQueryPending = true := by simpa using hquery
      have hoffered : ¬ s.lifecycle.Unoffered := fun h => nomatch h.2.2.symm.trans hquery
      have hstarted := h.started_of_offered hoffered
      have hprepared : s.preparing = false := h.prepared (.inr (.inr (.inr hoffered)))
      split
      · exact moves_failOutgoing (by decide)
      · rename_i plan hplan
        have haccepts : s.AcceptsResponse response :=
          ⟨hquery, query, manifest, plan, hasked, hmanifest, hplan⟩
        have hopen : s.lifecycle.Closed → runtime.hasRecoveryStore = false ∨
            s.recoveryRemovePending = true ∨ s.recoveryRemoveRunning = true := fun hclosed => by
          by_contra hfree
          simp only [not_or, Bool.not_eq_true, Bool.not_eq_false] at hfree
          exact hquiet hclosed haccepts (.inl hfree)
        dsimp only
        split
        · exact .of_eq (moves_continueResumed hstarted hprepared hopen) rfl
        · rename_i hhydrated
          split
          · exact .of_eq (moves_failOutgoing (by decide)) rfl
          · rename_i restored hrestored
            obtain ⟨hinit, hresuming⟩ := interruptedControl_resuming hrestored
            have hpublished := @moves_restored runtime s control restored hcontrol hinit hresuming
              fun hclosed => by
                by_contra hother
                exact hquiet hclosed haccepts (.inr ⟨by simpa using hhydrated, hother⟩)
            refine hpublished.trans (.of_eq (moves_continueResumed ?_ hprepared fun hclosed => ?_) rfl)
            · intro other hother
              obtain rfl := Option.some.inj hother
              exact hinit
            · exact hopen (closed_of_restored hresuming hclosed)
  · exact .refl

/-! ### The answer to the offer, and the manifest's pages -/

def AcceptsOffer (s : OutgoingState) (qt : QtText) (acceptance : TransferAccept) : Prop :=
  ∃ offerState control, s.offerState = some offerState ∧ s.control = some control ∧
    (offerState.receiveAccept qt acceptance).1.ok = true ∧
    control.snapshot.state = .waitingForAcceptance

theorem moves_handleTransferAccept {qt : QtText} {acceptance : TransferAccept}
    (hquiet : s.lifecycle.Closed → ¬ s.AcceptsOffer qt acceptance) :
    Moves runtime s.lifecycle (s.handleTransferAccept runtime env qt acceptance).lifecycle := by
  refine .of_base fun h => ?_
  unfold handleTransferAccept
  split
  · rename_i offerState control hoffer hcontrol
    have hoffered : ¬ s.lifecycle.Unoffered := fun h => nomatch h.2.1.symm.trans hoffer
    have hstarted := h.started_of_offered hoffered
    have hprepared := prepared_of_control h hcontrol
    have hanswered : Moves runtime s.lifecycle
        { s with offerState := some (offerState.receiveAccept qt acceptance).2 }.lifecycle :=
      moves_offerState hstarted hprepared
    dsimp only
    split
    · exact hanswered.trans (moves_failOutgoing (by decide))
    · rename_i haccepted
      have haccepted := not_not.mp haccepted
      refine hanswered.trans ?_
      split
      · rename_i hrefused
        rcases control.advance_cases env.now .queued with ⟨hsame, -⟩ | ⟨-, -, -, hset⟩
        · rw [hsame, ← hcontrol]
          exact moves_failOutgoing (by decide)
        · rw [hset] at hrefused
          exact absurd setState_ok hrefused
      · rename_i hqueued
        have hqueued := not_not.mp hqueued
        have hinit := initialized_of_advance_ok hqueued
        have hfollows : Follows control (control.advance env.now .queued).2 :=
          .advance (by simp [Ended])
        have hstate := advance_state_of_ok hqueued
        have hpublished := @moves_publishControl runtime
          { s with
            offerState := some (offerState.receiveAccept qt acceptance).2
            effectiveConflictPolicy := acceptance.effectiveConflictPolicy } control _ hcontrol
          hinit hfollows fun _ hclosed _ => ?_
        · refine .trans hpublished (.of_base fun hbase => ?_)
          split
          · exact .refl
          · refine .of_eq (moves_persistOutgoing fun hclosed => .inr ?_) rfl
            have hpending := hbase.pending_of_live hclosed rfl (hfollows.1.trans hinit)
              (by rw [hstate]; rfl)
            exact (hbase.pending hpending).2.1
        · rcases control.advance_cases env.now .queued with ⟨hsame, -⟩ | ⟨-, -, hgraph, -⟩
          · rw [hsame]
            exact .inl rfl
          · refine absurd ⟨offerState, control, hoffer, hcontrol, haccepted, ?_⟩ (hquiet hclosed)
            revert hgraph
            generalize control.snapshot.state = state
            cases state <;> simp [canAdvance]
  · exact .refl

theorem moves_handleTransferReject {rejection : TransferReject} :
    Moves runtime s.lifecycle (s.handleTransferReject env rejection).lifecycle := by
  refine .of_base fun h => ?_
  unfold handleTransferReject
  split
  · rename_i offerState control hoffer hcontrol
    have hoffered : ¬ s.lifecycle.Unoffered := fun h => nomatch h.2.1.symm.trans hoffer
    have hstarted := h.started_of_offered hoffered
    have hanswered : Moves runtime s.lifecycle
        { s with offerState := some (offerState.receiveReject rejection).2 }.lifecycle :=
      moves_offerState hstarted (prepared_of_control h hcontrol)
    refine hanswered.trans (moves_publishControl hcontrol (hstarted control hcontrol)
      (.advance (by simp [Ended])) fun _ _ _ => ?_)
    rcases control.advance_cases env.now .rejected with ⟨hsame, -⟩ | ⟨-, -, -, hset⟩
    · rw [hsame]
      exact .inl rfl
    · rw [hset, setState_state]
      exact .inr rfl
  · exact .refl

theorem moves_sendNextManifestPage :
    Moves runtime s.lifecycle (s.sendNextManifestPage runtime env).lifecycle := by
  unfold sendNextManifestPage
  split
  · split
    · exact .refl
    · split
      · exact moves_failOutgoing (by decide)
      · split
        · exact .refl
        · exact moves_startNextOutgoingFile
  · exact .refl

/-! ### The sender's results and the peer's -/

theorem moves_dispatchSenderPumpResult {generation : Nat} {result : SenderPumpResult}
    (hprepared : s.preparing = false) :
    Moves runtime s.lifecycle
      (s.dispatchSenderPumpResult runtime env generation result).lifecycle := by
  refine .of_base fun h => ?_
  unfold dispatchSenderPumpResult
  split
  · split
    · exact moves_offerPreparedTransfers
    · exact .refl
  · split
    · exact .refl
    · rename_i hlive
      have hlive : s.cancelled = false := by simpa using (not_or.mp hlive).1
      have hstarted := h.started_of_live hlive
      split
      · exact moves_failOutgoing (by decide)
      · dsimp only
        split
        · exact moves_awaitingFileResult hstarted hprepared
        · exact .of_eq moves_scheduleSenderPump rfl

theorem moves_handleFileResult {result : FileResultMessage} :
    Moves runtime s.lifecycle (s.handleFileResult runtime env result).lifecycle := by
  refine .of_base fun h => ?_
  unfold handleFileResult
  split
  · exact .refl
  · split
    · exact .refl
    · rename_i hawaited
      have hawaited : s.awaitingFileResult = true := by simpa using (not_or.mp hawaited).1
      have hoffered : ¬ s.lifecycle.Unoffered := fun h => nomatch h.1.symm.trans hawaited
      have hstarted := h.started_of_offered hoffered
      have hprepared : s.preparing = false := h.prepared (.inr (.inr (.inr hoffered)))
      split
      · exact moves_failOutgoing (by decide)
      · have hflags : Moves runtime s.lifecycle { s with awaitingFileResult := false }.lifecycle :=
          moves_awaitingFileResult hstarted hprepared
        have hanswered : Moves runtime s.lifecycle { s with
            completedFiles := s.completedFiles + 1, currentEntry := s.currentEntry + 1
            sender := none, awaitingFileResult := false }.lifecycle :=
          hflags.trans (moves_sender hprepared)
        exact (hanswered.trans (moves_updateOutgoingProgress hstarted)).trans
          moves_startNextOutgoingFile

variable {s' : OutgoingState}

theorem moves_senderProduces {sources : OutgoingSources} (hs' : s.senderProduces sources = some s')
    : Moves runtime s.lifecycle s'.lifecycle := by
  refine .of_base fun h => ?_
  unfold senderProduces at hs'
  split at hs'
  · rename_i htask
    obtain ⟨worker, -, rfl⟩ := Option.map_eq_some_iff.mp hs'
    exact moves_sender (h.prepared (.inr (.inr (.inl (Option.isSome_iff_exists.mpr ⟨_, htask⟩)))))
  · exact nomatch hs'

/-! ### The recovery state's save and removal -/

theorem moves_recoverySaveWrites {fault : Option String}
    (hs' : s.recoverySaveWrites fault = some s') : Moves runtime s.lifecycle s'.lifecycle := by
  unfold recoverySaveWrites at hs'
  split at hs'
  · rename_i generation state hsave
    have hbusy {save : RecoverySave} (h : Base runtime s.lifecycle) :
        Base runtime { s.lifecycle with save := some save } := { h with
      exclusive := fun hremoval => nomatch hsave.symm.trans (h.exclusive hremoval)
      storeless := fun hnone => nomatch hsave.symm.trans (h.storeless hnone).1
      finished := fun hclosed hpending =>
        nomatch hsave.symm.trans (h.finished hclosed hpending).1 }
    have hsaves {save : RecoverySave} (hstate : save.state = state) :
        ∀ after, some save = some after → ∃ before, s.lifecycle.save = some before ∧
          before.state = after.state := by
      rintro after ⟨⟩
      exact ⟨_, hsave, hstate.symm⟩
    split at hs'
    · obtain rfl := Option.some.inj hs'
      exact ⟨hbusy, fun _ => id, fun _ => id, fun _ _ hclosed =>
        { Final.refl hclosed with saves := hsaves rfl }⟩
    · obtain rfl := Option.some.inj hs'
      exact ⟨hbusy, fun _ => id, fun _ => id, fun _ _ hclosed =>
        { Final.refl hclosed with saves := hsaves rfl }⟩
    · rename_i saved
      obtain rfl := Option.some.inj hs'
      exact ⟨fun h => { hbusy h with }, fun _ => id, fun _ => id, fun _ _ hclosed =>
        { Final.refl hclosed with
          saves := hsaves rfl
          stored := .inr (.inr ⟨_, saved, hsave, rfl, rfl⟩) }⟩
  · exact nomatch hs'

theorem moves_recoverySaveFinished {save : RecoverySave} {result : Except String Unit} :
    Moves runtime s.lifecycle (s.recoverySaveFinished runtime env save result).lifecycle := by
  have hdone : Moves runtime s.lifecycle { s with recoverySave := none }.lifecycle :=
    ⟨fun h => { h with
      exclusive := fun _ => rfl
      storeless := fun hnone => ⟨rfl, (h.storeless hnone).2⟩
      finished := fun hclosed hpending => ⟨rfl, (h.finished hclosed hpending).2⟩ },
      fun _ => id, fun _ => id, fun _ _ hclosed => { Final.refl hclosed with saves := nofun }⟩
  unfold recoverySaveFinished
  dsimp only
  split
  · rename_i hremove
    refine hdone.trans ?_
    unfold startOutgoingRecoveryRemoval
    split
    · exact .refl
    · rename_i hfree
      simp only [not_or, Bool.not_eq_true, Bool.not_eq_false] at hfree
      exact ⟨fun h => { h with
        pending := fun hpending => ⟨hfree.2.2, .inr rfl, (h.pending hpending).2.2⟩
        blocked := fun _ => h.blocked (.inl hremove)
        exclusive := fun _ => rfl }, fun _ => id, fun _ => id,
        fun _ _ hclosed => { Final.refl hclosed with }⟩
  · split
    · exact hdone.trans moves_startOutgoingRecoverySave
    · split
      · exact hdone.trans (.of_eq (moves_failOutgoing (by decide)) rfl)
      · split
        · exact hdone
        · split
          · exact hdone
          · exact hdone

theorem moves_recoveryRemovalErases {fault : Option String}
    (hs' : s.recoveryRemovalErases fault = some s') : Moves runtime s.lifecycle s'.lifecycle := by
  unfold recoveryRemovalErases at hs'
  split at hs'
  · rename_i hremoval
    have hbusy {removal : RecoveryRemoval} (h : Base runtime s.lifecycle) :
        Base runtime { s.lifecycle with removal := some removal } := { h with
      pending := fun hpending =>
        ⟨(h.pending hpending).1, .inr rfl, (h.pending hpending).2.2⟩
      blocked := fun _ => h.blocked (.inr (Option.isSome_iff_exists.mpr ⟨_, hremoval⟩))
      exclusive := fun _ => h.exclusive (Option.isSome_iff_exists.mpr ⟨_, hremoval⟩) }
    split at hs'
    · obtain rfl := Option.some.inj hs'
      exact ⟨hbusy, fun _ => id, fun _ => id, fun _ _ hclosed => { Final.refl hclosed with }⟩
    · obtain rfl := Option.some.inj hs'
      exact ⟨fun h => { hbusy h with }, fun _ => id, fun _ => id, fun _ _ hclosed =>
        { Final.refl hclosed with stored := .inr (.inl rfl) }⟩
  · exact nomatch hs'

theorem moves_recoveryRemovalFinished {result : Except String Unit}
    (hremoval : s.recoveryRemoval.isSome = true) :
    Moves runtime s.lifecycle (s.recoveryRemovalFinished env result).lifecycle := by
  refine .of_base fun h => ?_
  have hsave : s.recoverySave = none := h.exclusive hremoval
  have hsavePending : s.recoverySavePending = false := h.blocked (.inr hremoval)
  unfold recoveryRemovalFinished
  dsimp only
  split
  · rename_i hnone
    refine ⟨fun h => { h with
      pending := fun hpending => ?_
      completable := nofun
      blocked := fun _ => hsavePending
      exclusive := fun _ => hsave }, fun _ => id, fun _ => id,
      fun _ _ hclosed => { Final.refl hclosed with }⟩
    have hsome := (h.pending hpending).2.2
    have hnone : s.lifecycle.completion = none := hnone
    rw [hnone] at hsome
    exact nomatch hsome
  · rename_i completion hcompletion
    have hfinishes : Finishes
        { s with
          recoveryRemoval := none, recoveryRemoveCompletion := none, terminalPending := false }.lifecycle
        ({ s with recoveryRemoval := none, recoveryRemoveCompletion := none }.runRemoveCompletion
          env completion result).lifecycle :=
      @runRemoveCompletion_finishes env
        { s with recoveryRemoval := none, recoveryRemoveCompletion := none } completion result
        (h.completable completion hcompletion)
    refine ⟨fun h => hfinishes.base { h with
      completable := nofun
      blocked := fun _ => hsavePending
      exclusive := fun _ => hsave
      underway := nofun
      unprepared := fun hpreparing => ?_ } rfl ⟨hsave, hsavePending⟩,
      fun _ => hfinishes.isRunning, fun _ _ => hfinishes.isSynced,
      fun _ _ _ => { hfinishes.final with }⟩
    exact ⟨(h.unprepared hpreparing).1, fun hlive => ⟨rfl, ((h.unprepared hpreparing).2 hlive).2⟩⟩

/-! ### Losing the connection -/

theorem moves_markOutgoingConnectionLost :
    Moves runtime s.lifecycle (s.markOutgoingConnectionLost runtime env).lifecycle := by
  unfold markOutgoingConnectionLost
  split
  · exact .refl
  · rename_i hlive
    simp only [not_or, Bool.not_eq_true] at hlive
    obtain ⟨hlive, -, hterminal⟩ := hlive
    have hreset : Moves runtime s.lifecycle { s with
        paused := false, resumeQueryPending := false, resumeQuery := none
        awaitingFileResult := false, senderGeneration := s.senderGeneration + 1
        sender := none }.lifecycle :=
      ⟨fun h => { h with
        started := fun control hcontrol => (h.started control hcontrol).imp_right
          fun ⟨hcancelled, hunoffered⟩ => ⟨hcancelled, rfl, hunoffered.2.1, rfl⟩
        unprepared := fun hpreparing => by
          obtain ⟨⟨hnone, hunoffered, hsender, htask⟩, hopen⟩ := h.unprepared hpreparing
          exact ⟨⟨hnone, ⟨rfl, hunoffered.2.1, rfl⟩, rfl, htask⟩, hopen⟩ },
        fun _ => id, fun _ => id, fun _ _ hclosed => { Final.refl hclosed with }⟩
    refine hreset.trans ?_
    dsimp only
    split
    · exact .of_eq (moves_failOutgoing (by decide)) rfl
    · rename_i control hcontrol
      split
      · exact .of_eq (moves_failOutgoing (by decide)) rfl
      · rename_i hok
        have hstate := interrupt_state_of_ok (not_not.mp hok)
        have hinterrupted := @moves_publishControl_of_live runtime { s with
          paused := false, resumeQueryPending := false, resumeQuery := none
          awaitingFileResult := false, senderGeneration := s.senderGeneration + 1
          sender := none, interrupted := true } control _ hcontrol hlive
          (.interrupt : Follows control (control.interrupt env.now).2)
        refine .of_eq (hinterrupted.trans (moves_persistOutgoing fun hclosed => ?_)) rfl
        exact nomatch hlive.symm.trans (hclosed.cancelled hstate (by simp [Ended]))

/-! ### Every event -/

/-- The events whose handlers do not look whether the session is closed, where they do harm. -/
def Disturbs (runtime : FileTransferRuntime) (sources : OutgoingSources) (s : OutgoingState) :
    OutgoingEvent → Prop
  | .remoteCommand peer (.pause transferId) => s.addressed peer transferId = true ∧
      s.paused = false ∧
      ∃ control, s.control = some control ∧ control.snapshot.state = .transferring
  | .remoteCommand peer (.resume transferId) => s.addressed peer transferId = true ∧
      s.paused = true ∧ ∃ control, s.control = some control ∧
        (control.snapshot.state = .paused ∨ control.snapshot.state = .interrupted ∨
          control.snapshot.state = .resuming)
  | .transferAccept peer acceptance => s.addressed peer acceptance.transferId = true ∧
      s.AcceptsOffer sources.qt acceptance
  | .resumeResponse peer response => s.addressed peer response.transferId = true ∧
      s.AcceptsResponse response ∧ s.Reopens runtime
  | _ => False

/-- The event does not act on a closed session against its end. -/
def Undisturbed (runtime : FileTransferRuntime) (sources : OutgoingSources) (s : OutgoingState)
    (event : Surroundings × OutgoingEvent) : Prop :=
  s.lifecycle.Closed → ¬ s.Disturbs runtime sources event.2

variable {sources : OutgoingSources}

theorem moves_step {event : Surroundings × OutgoingEvent}
    (hallowed : s.Undisturbed runtime sources event)
    (hstep : s.step runtime sources event.1 event.2 = some s') :
    Moves runtime s.lifecycle s'.lifecycle := by
  obtain ⟨env, event⟩ := event
  unfold Undisturbed at hallowed
  unfold step at hstep
  cases event with
  | manifestPrepared manifest plan =>
    dsimp only at hstep
    split at hstep
    · rename_i hpreparing
      obtain rfl := Option.some.inj hstep
      exact moves_finishManifestPreparation hpreparing
    · exact nomatch hstep
  | pause =>
    obtain rfl := Option.some.inj hstep
    exact moves_pause
  | resume =>
    obtain rfl := Option.some.inj hstep
    exact moves_resume
  | cancel options =>
    obtain rfl := Option.some.inj hstep
    exact moves_cancel
  | remoteCommand peer command =>
    obtain rfl := Option.some.inj hstep
    dsimp only
    split
    · rename_i haddressed
      cases command with
      | pause transferId =>
        refine moves_remotePause fun hclosed => ?_
        have hquiet := hallowed hclosed
        by_contra hharm
        simp only [not_or, Bool.not_eq_true, not_forall, not_not] at hharm
        obtain ⟨hpaused, control, hcontrol, hstate⟩ := hharm
        exact hquiet ⟨haddressed, hpaused, control, hcontrol, hstate⟩
      | resume transferId =>
        refine moves_remoteResume fun hclosed => ?_
        have hquiet := hallowed hclosed
        rcases hpaused : s.paused
        · exact .inl rfl
        · refine .inr fun control hcontrol => ?_
          by_contra hharm
          refine hquiet ⟨haddressed, hpaused, control, hcontrol, ?_⟩
          tauto
      | cancel => exact moves_remoteCancel
    · exact .refl
  | peerReady =>
    obtain rfl := Option.some.inj hstep
    exact moves_offerPreparedTransfers
  | offerTimer =>
    dsimp only at hstep
    split at hstep
    · obtain rfl := Option.some.inj hstep
      exact .of_eq moves_offerPreparedTransfers rfl
    · exact nomatch hstep
  | transferAccept peer acceptance =>
    obtain rfl := Option.some.inj hstep
    dsimp only
    split
    · rename_i haddressed
      exact moves_handleTransferAccept fun hclosed haccepts =>
        hallowed hclosed ⟨haddressed, haccepts⟩
    · exact .refl
  | transferReject peer rejection =>
    obtain rfl := Option.some.inj hstep
    dsimp only
    split
    · exact moves_handleTransferReject
    · exact .refl
  | resumeResponse peer response =>
    obtain rfl := Option.some.inj hstep
    dsimp only
    split
    · rename_i haddressed
      exact moves_handleResumeResponse fun hclosed haccepts hreopens =>
        hallowed hclosed ⟨haddressed, haccepts, hreopens⟩
    · exact .refl
  | fileResult peer result =>
    obtain rfl := Option.some.inj hstep
    dsimp only
    split
    · exact moves_handleFileResult
    · exact .refl
  | manifestPageTimer =>
    dsimp only at hstep
    split at hstep
    · obtain rfl := Option.some.inj hstep
      exact .of_eq moves_sendNextManifestPage rfl
    · exact nomatch hstep
  | writeCapacityAvailable =>
    obtain rfl := Option.some.inj hstep
    dsimp only
    split
    · exact .refl
    · exact moves_scheduleSenderPump
  | senderProduces => exact moves_senderProduces hstep
  | senderFinished =>
    refine .of_base fun h => ?_
    dsimp only at hstep
    split at hstep
    · rename_i htask
      obtain rfl := Option.some.inj hstep
      have hprepared : s.preparing = false :=
        h.prepared (.inr (.inr (.inl (Option.isSome_iff_exists.mpr ⟨_, htask⟩))))
      have hdone : Moves runtime s.lifecycle { s with senderTask := none }.lifecycle :=
        moves_sender hprepared
      exact hdone.trans (moves_dispatchSenderPumpResult hprepared)
    · exact nomatch hstep
  | recoverySaveWrites fault => exact moves_recoverySaveWrites hstep
  | recoverySaveFinished =>
    dsimp only at hstep
    split at hstep
    · obtain ⟨result, -, rfl⟩ := Option.map_eq_some_iff.mp hstep
      exact moves_recoverySaveFinished
    · exact nomatch hstep
  | recoveryRemovalErases fault => exact moves_recoveryRemovalErases hstep
  | recoveryRemovalFinished =>
    dsimp only at hstep
    split at hstep
    · rename_i hremoval
      obtain ⟨result, -, rfl⟩ := Option.map_eq_some_iff.mp hstep
      exact moves_recoveryRemovalFinished (Option.isSome_iff_exists.mpr ⟨_, hremoval⟩)
    · exact nomatch hstep
  | connectionLost =>
    obtain rfl := Option.some.inj hstep
    exact moves_markOutgoingConnectionLost

theorem interruptedControl_interrupted {initial : TransferSnapshot}
    {control : TransferControlStateMachine}
    (h : interruptedControl env initial false = some control) :
    control.initialized = true ∧ control.snapshot.state = .interrupted := by
  unfold interruptedControl at h
  simp only [Option.bind_eq_bind, Option.bind_eq_some_iff, Bool.false_eq_true, if_false] at h
  obtain ⟨_, -, _, -, _, -, _, -, sent, hsent, cut, hcut, hlast⟩ := h
  obtain rfl := Option.some.inj hlast
  split at hsent
  · rename_i hsending
    obtain rfl := Option.some.inj hsent
    split at hcut
    · rename_i hok
      obtain rfl := Option.some.inj hcut
      exact ⟨interrupt_initialized.trans
        (advance_initialized.trans (initialized_of_advance_ok hsending)), interrupt_state_of_ok hok⟩
    · exact nomatch hcut
  · exact nomatch hsent

theorem base_fresh {l : Lifecycle} (hlive : l.cancelled = false) (hpending : l.terminalPending = false)
    (hcompletion : l.completion = none)
    (hsave : l.save = none ∧ l.savePending = false) (hopen : isTerminal l.published = false)
    (hcontrol : ∀ control, l.control = some control →
      control.initialized = true ∧ l.published = control.snapshot.state)
    (hpreparing : l.preparing = true → (l.control = none ∧ l.Unoffered ∧
      l.sender = none ∧ l.senderTask = none) ∧ l.published = .preparing) :
    Base runtime l ∧ l.Synced := by
  have hends (control : TransferControlStateMachine) (hsome : l.control = some control)
      (hended : Ended control.snapshot.state) : False := by
    rw [← (hcontrol control hsome).2] at hended
    exact nomatch hended.terminal.symm.trans hopen
  refine ⟨⟨⟨fun control hsome => .inl (hcontrol control hsome).1, fun h => ?_,
    fun control hsome hended => (hends control hsome hended).elim, fun completion hsome => ?_,
    fun _ => hsave.2, fun _ => hsave.1, fun h => ?_, fun _ => hsave⟩, fun h => ?_, fun hended => ?_,
    fun _ _ => hsave⟩, fun control hsome => .inl (hcontrol control hsome).2⟩
  · exact ⟨(hpreparing h).1, fun _ => ⟨hpending, (hpreparing h).2⟩⟩
  · exact nomatch hcompletion.symm.trans hsome
  · exact nomatch hpending.symm.trans h
  · exact nomatch hpending.symm.trans h
  · rcases hended with hcancelled | hterminal
    · exact nomatch hlive.symm.trans hcancelled
    · exact nomatch hopen.symm.trans hterminal

theorem base_start (hstart : (outgoingMachine runtime sources).start s) :
    Base runtime s.lifecycle ∧ s.lifecycle.Synced := by
  rcases hstart with ⟨id, target, items, options, peerName, name, now, rfl⟩ |
    ⟨env, state, manifest, plan, peerName, hhydrate⟩
  · refine base_fresh rfl rfl rfl ⟨rfl, rfl⟩ rfl (fun control hnone => ?_) fun _ => ?_
    · exact nomatch hnone
    · exact ⟨⟨rfl, ⟨rfl, rfl, rfl⟩, rfl, rfl⟩, rfl⟩
  · unfold hydrate at hhydrate
    split at hhydrate
    · exact nomatch hhydrate
    · obtain ⟨control, hcontrol, hs⟩ := Option.map_eq_some_iff.mp hhydrate
      obtain ⟨hinit, hstate⟩ := interruptedControl_interrupted hcontrol
      clear hcontrol hhydrate
      subst hs
      refine base_fresh rfl rfl rfl ⟨rfl, rfl⟩ ?_ (fun other hother => ?_) fun hpreparing => ?_
      · show isTerminal control.snapshot.state = false
        rw [hstate]
        rfl
      · obtain rfl := Option.some.inj hother
        exact ⟨hinit, rfl⟩
      · exact nomatch hpreparing

theorem base_of_reachable
    (hreach : (outgoingMachine runtime sources).Reachable (Undisturbed runtime sources) s) :
    Base runtime s.lifecycle ∧ s.lifecycle.Synced := by
  refine hreach.invariant (fun _ => base_start) fun state event next hinv hallowed hstep => ?_
  have hmoves := moves_step hallowed hstep
  exact ⟨hmoves.base hinv.1, hmoves.synced hinv.1 hinv.2⟩

theorem final_of_run {t : OutgoingState}
    (hreach : (outgoingMachine runtime sources).Reachable (Undisturbed runtime sources) s)
    (hclosed : s.lifecycle.Closed)
    (hrun : (outgoingMachine runtime sources).Run (Undisturbed runtime sources) s t) :
    Final s.lifecycle t.lifecycle := by
  induction hrun with
  | refl => exact .refl hclosed
  | tail hrun hallowed hstep ih =>
    obtain ⟨hbase, hsynced⟩ := base_of_reachable (hreach.run hrun)
    exact ih.trans ((moves_step hallowed hstep).final hbase hsynced ih.closed)

end OutgoingState

/-- **A closed session stays closed.** Once a session was cancelled or came to an end, no undisturbed
event publishes a state that is not terminal, and none writes to the recovery store but a save that
was in flight when the session closed, with the removal still to come. -/
theorem closed_sessions_stay_closed {runtime : FileTransferRuntime} {sources : OutgoingSources}
    {s t t' : OutgoingState} {event : Surroundings × OutgoingEvent}
    (hreach : (outgoingMachine runtime sources).Reachable
      (OutgoingState.Undisturbed runtime sources) s)
    (hclosed : s.lifecycle.Closed)
    (hrun : (outgoingMachine runtime sources).Run (OutgoingState.Undisturbed runtime sources) s t)
    (hallowed : t.Undisturbed runtime sources event)
    (hstep : (outgoingMachine runtime sources).step t event = some t') :
    (t'.snapshot.state = t.snapshot.state ∨ isTerminal t'.snapshot.state = true) ∧
      (t'.stored = t.stored ∨ t'.stored = none ∨ t.terminalPending = true ∧
        ∃ save saved, s.recoverySave = some save ∧ save.state = .ok saved ∧
          t'.stored = some saved) := by
  have hbefore := OutgoingState.final_of_run hreach hclosed hrun
  obtain ⟨hbase, hsynced⟩ := OutgoingState.base_of_reachable (hreach.run hrun)
  have hfinal := (OutgoingState.moves_step hallowed hstep).final hbase hsynced hbefore.closed
  refine ⟨hfinal.published, ?_⟩
  rcases hfinal.stored with hsame | hnone | ⟨save, saved, hsave, hstate, hstored⟩
  · exact .inl hsame
  · exact .inr (.inl hnone)
  · obtain ⟨first, hfirst, hfirstState⟩ := hbefore.saves save hsave
    refine .inr (.inr ⟨?_, first, saved, hfirst, hfirstState.trans hstate, hstored⟩)
    rcases hpending : t.terminalPending
    · exact nomatch hsave.symm.trans (hbase.finished hbefore.closed hpending).1
    · rfl

namespace OutgoingAbc

open Transfer.FileStreaming

/-- Cancelled before the manifest is prepared. -/
def cancelledEarly : OutgoingState := started.cancel runtime ready {}

def cancelledDone : OutgoingState :=
  ((outgoingMachine runtime sources).exec cancelledEarly
    [(ready, .recoveryRemovalErases none), (ready, .recoveryRemovalFinished)]).get
    (by decide +kernel)

def preparedLate : OutgoingState :=
  ((outgoingMachine runtime sources).step cancelledDone
    (ready, .manifestPrepared (.ok manifest) (.ok plan))).get (by decide +kernel)

end OutgoingAbc

theorem closed_sessions_stay_closed_preparedLate :
    (OutgoingAbc.preparedLate.snapshot.state = OutgoingAbc.cancelledDone.snapshot.state ∨
        isTerminal OutgoingAbc.preparedLate.snapshot.state = true) ∧
      (OutgoingAbc.preparedLate.stored = OutgoingAbc.cancelledDone.stored ∨
        OutgoingAbc.preparedLate.stored = none ∨ OutgoingAbc.cancelledDone.terminalPending = true ∧
        ∃ save saved, OutgoingAbc.cancelledEarly.recoverySave = some save ∧
          save.state = .ok saved ∧ OutgoingAbc.preparedLate.stored = some saved) := by
  have hcancel : OutgoingAbc.started.Undisturbed OutgoingAbc.runtime OutgoingAbc.sources
      (OutgoingAbc.ready, .cancel {}) := fun _ h => h
  have hprepared : OutgoingAbc.cancelledDone.Undisturbed OutgoingAbc.runtime OutgoingAbc.sources
      (OutgoingAbc.ready, .manifestPrepared (.ok OutgoingAbc.manifest) (.ok OutgoingAbc.plan)) :=
    fun _ h => h
  refine closed_sessions_stay_closed
    ⟨OutgoingAbc.started, .inl ⟨_, _, _, _, _, _, _, rfl⟩, .tail .refl hcancel rfl⟩
    (.inl (by decide +kernel)) (Machine.run_of_exec_of_allowed ?_ (Option.some_get _).symm)
    hprepared (Option.some_get _).symm
  intro state event hevent _ hdisturbs
  simp only [List.mem_cons, List.not_mem_nil, or_false] at hevent
  rcases hevent with rfl | rfl <;> exact hdisturbs

namespace OutgoingAbc

open Transfer.FileStreaming

def cancelledAsking : OutgoingState :=
  ((outgoingMachine runtime sources).exec started (opening ++
    [(ready, .connectionLost), (ready, .recoverySaveWrites none), (ready, .recoverySaveFinished),
      (ready, .senderProduces), (ready, .senderFinished), (ready, .cancel {}),
      (ready, .recoveryRemovalErases none), (ready, .recoveryRemovalFinished)])).get
    (by decide +kernel)

def answeredLate : OutgoingState :=
  ((outgoingMachine runtime sources).exec cancelledAsking
    [(ready, .resumeResponse peer {
        transferId := abcRequest.transferId, manifestSha256 := manifest.summary.canonicalSha256
        files := [] }),
      (ready, .recoverySaveWrites none)]).get (by decide +kernel)

end OutgoingAbc

/-- A late resume response has a cancelled session saved again. -/
theorem cancelled_session_saved_again :
    (outgoingMachine OutgoingAbc.runtime OutgoingAbc.sources).Reachable (fun _ _ => True)
        OutgoingAbc.cancelledAsking ∧
      OutgoingAbc.cancelledAsking.cancelled = true ∧
      OutgoingAbc.cancelledAsking.snapshot.state = .cancelled ∧
      OutgoingAbc.cancelledAsking.recoverySave.isNone = true ∧
      OutgoingAbc.cancelledAsking.stored.isNone = true ∧
      (outgoingMachine OutgoingAbc.runtime OutgoingAbc.sources).Run (fun _ _ => True)
        OutgoingAbc.cancelledAsking OutgoingAbc.answeredLate ∧
      OutgoingAbc.answeredLate.stored.isSome = true := by
  refine ⟨⟨OutgoingAbc.started, .inl ⟨_, _, _, _, _, _, _, rfl⟩,
    Machine.run_of_exec (Option.some_get _).symm⟩, by decide +kernel, by decide +kernel,
    by decide +kernel, by decide +kernel, Machine.run_of_exec (Option.some_get _).symm,
    by decide +kernel⟩

end DeskflowPlus.App
