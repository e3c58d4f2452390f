import DeskflowPlus.App.FileTransferRuntime

/-!
# Backpressure between the sender, the bridge and the connection

A frame is pulled by the pump, moves to the bridge, and from there to the connection; each of the
three may refuse it for a while. Per worker, the frames the connection took, then the one in the
bridge, then the one in the pump are the frames of a run in which nothing is ever refused.
-/

namespace DeskflowPlus.App

open Transfer FileTransport

namespace OutgoingState

def stream (s : OutgoingState) : List SenderWorkerState × Option SenderTask × List (Nat × Frame) :=
  (s.workers, s.senderTask, s.accepted)

variable {runtime : FileTransferRuntime} {env : Surroundings} {s : OutgoingState}

@[simp]
theorem updateOutgoingProgress_stream : s.updateOutgoingProgress.stream = s.stream := by
  unfold updateOutgoingProgress
  split <;> rfl

@[simp]
theorem finishOutgoingFailure_stream {errorCode : TransferErrorCode} :
    (s.finishOutgoingFailure env errorCode).stream = s.stream := by
  unfold finishOutgoingFailure
  dsimp only
  split
  · rfl
  · split_ifs <;> rfl

@[simp]
theorem publishOperation_stream {operation : TransferOperation}
    {outcome : TransferOperationOutcome} {error : TransferOperationError} {diagnostic : String} :
    (s.publishOperation operation outcome error diagnostic).stream = s.stream := rfl

@[simp]
theorem publishControl_stream {control : TransferControlStateMachine} :
    (s.publishControl control).stream = s.stream := rfl

@[simp]
theorem finishLocalCancel_stream : (s.finishLocalCancel env).stream = s.stream := by
  unfold finishLocalCancel
  dsimp only
  split
  · rfl
  · split_ifs <;> first | rfl | exact finishOutgoingFailure_stream

@[simp]
theorem finishRemoteCancel_stream : (s.finishRemoteCancel env).stream = s.stream := by
  unfold finishRemoteCancel
  split
  · rfl
  · dsimp only
    split_ifs <;> first | rfl | exact finishOutgoingFailure_stream

@[simp]
theorem finishCompletion_stream : (s.finishCompletion env).stream = s.stream := by
  unfold finishCompletion
  split
  · rfl
  · dsimp only
    split_ifs <;> first | rfl | exact finishOutgoingFailure_stream

@[simp]
theorem runRemoveCompletion_stream {completion : RecoveryRemoveCompletion}
    {removed : Except String Unit} :
    (s.runRemoveCompletion env completion removed).stream = s.stream := by
  unfold runRemoveCompletion
  dsimp only
  split <;> simp only [publishOperation_stream, finishOutgoingFailure_stream,
    finishLocalCancel_stream, finishRemoteCancel_stream, finishCompletion_stream] <;> rfl

@[simp]
theorem startOutgoingRecoveryRemoval_stream :
    (s.startOutgoingRecoveryRemoval runtime).stream = s.stream := by
  unfold startOutgoingRecoveryRemoval
  split_ifs <;> rfl

@[simp]
theorem removeOutgoingRecovery_stream {completion : RecoveryRemoveCompletion} :
    (s.removeOutgoingRecovery runtime env completion).stream = s.stream := by
  unfold removeOutgoingRecovery
  dsimp only
  split_ifs
  · rw [startOutgoingRecoveryRemoval_stream]
    rfl
  · rfl
  · rw [runRemoveCompletion_stream]
    rfl

@[simp]
theorem failOutgoing_stream {errorCode : TransferErrorCode} {diagnostic : String} :
    (s.failOutgoing runtime env errorCode diagnostic).stream = s.stream := by
  unfold failOutgoing
  split_ifs
  · rfl
  · rw [removeOutgoingRecovery_stream]
    rfl

@[simp]
theorem startOutgoingRecoverySave_stream :
    (s.startOutgoingRecoverySave runtime env).stream = s.stream := by
  unfold startOutgoingRecoverySave
  split
  · split_ifs
    · rfl
    · split
      · exact failOutgoing_stream
      · rfl
  · rfl

@[simp]
theorem persistOutgoing_stream : (s.persistOutgoing runtime env).stream = s.stream := by
  unfold persistOutgoing
  dsimp only
  split_ifs <;> first | rfl | exact startOutgoingRecoverySave_stream

/-- The frames the connection took from one worker. -/
def sentBy (accepted : List (Nat × Frame)) (id : Nat) : List Frame :=
  (accepted.filter (·.1 = id)).map Prod.snd

variable {accepted : List (Nat × Frame)} {id : Nat} {frame : Frame}

theorem sentBy_append_self :
    sentBy (accepted ++ [(id, frame)]) id = sentBy accepted id ++ [frame] := by
  simp [sentBy]

theorem sentBy_append_other {other : Nat} (hother : other ≠ id) :
    sentBy (accepted ++ [(id, frame)]) other = sentBy accepted other := by
  simp [sentBy, hother.symm]

theorem sentBy_fresh (h : ∀ sent ∈ accepted, sent.1 < id) : sentBy accepted id = [] := by
  have hnone : accepted.filter (·.1 = id) = [] := by
    rw [List.filter_eq_nil_iff]
    intro sent hsent
    have := h sent hsent
    simp only [decide_eq_true_eq]
    omega
  rw [sentBy, hnone, List.map_nil]

variable (sources : OutgoingSources)

structure WorkerOrder (id : Nat) (sent : List Frame) (worker : SenderWorkerState) : Prop where
  mirrors : TransferSenderPump.Mirrors sources.qt sources.sha (sources.views id)
    worker.pump.sender.request worker.limits worker.pump (sent ++ worker.bridge.held)
  held : worker.bridge.held.length + worker.pump.pendingFrame.toList.length ≤ 1

theorem WorkerOrder.updateTransportQueuedBytes {id bytes : Nat} {sent : List Frame}
    {worker : SenderWorkerState} (h : WorkerOrder sources id sent worker) :
    WorkerOrder sources id sent (worker.updateTransportQueuedBytes bytes) :=
  ⟨h.mirrors, h.held⟩

variable {worker : SenderWorkerState}

theorem WorkerOrder.consumePendingFrame {sent : List Frame} (h : WorkerOrder sources id sent worker)
    (hframe : worker.pendingFrame = some frame) :
    WorkerOrder sources id (sent ++ [frame]) worker.consumePendingFrame := by
  have hheld : worker.bridge.held = [frame] := by
    rw [SenderFrameBridge.held, show worker.bridge.frame = some frame from hframe]
    rfl
  have hmirrors := h.mirrors
  have hone := h.held
  rw [hheld] at hmirrors hone
  refine ⟨?_, ?_⟩
  · change TransferSenderPump.Mirrors _ _ _ _ _ _ ((sent ++ [frame]) ++ [])
    rw [List.append_nil]
    exact hmirrors
  · change 0 + worker.pump.pendingFrame.toList.length ≤ 1
    rw [List.length_singleton] at hone
    omega

theorem WorkerOrder.produce {sent : List Frame} (h : WorkerOrder sources id sent worker)
    (hempty : worker.bridge.frame = none) :
    WorkerOrder sources id sent
      (worker.produce sources.qt sources.sha (sources.views id)).2 := by
  have hheld : worker.bridge.held = [] := by rw [SenderFrameBridge.held, hempty]; rfl
  refine ⟨?_, TransferSenderPump.held_le_one SenderFrameBridge.sink_holds hheld⟩
  have hrequest :
      (worker.produce sources.qt sources.sha (sources.views id)).2.pump.sender.request =
        worker.pump.sender.request :=
    TransferSenderPump.pump_request SenderFrameBridge.sink_holds worker.pump worker.bridge
  rw [hrequest]
  exact h.mirrors.pump SenderFrameBridge.sink_holds

structure StreamOrder
    (stream : List SenderWorkerState × Option SenderTask × List (Nat × Frame)) : Prop where
  workers : ∀ id worker, stream.1[id]? = some worker →
    WorkerOrder sources id (sentBy stream.2.2 id) worker
  known : ∀ sent ∈ stream.2.2, sent.1 < stream.1.length
  /-- A call that waits for its turn finds an empty bridge. -/
  empty : ∀ id generation worker,
    stream.2.1 = some { worker := id, generation, result := none } →
      stream.1[id]? = some worker → worker.bridge.frame = none

def InOrder (s : OutgoingState) : Prop := StreamOrder sources s.stream

variable {sources}

variable {s' : OutgoingState}

theorem InOrder.of_stream_eq (hstream : s'.stream = s.stream) (h : InOrder sources s) :
    InOrder sources s' := by
  unfold InOrder
  rw [hstream]
  exact h

theorem InOrder.modifyWorker {change : SenderWorkerState → SenderWorkerState}
    (h : InOrder sources s)
    (hchange : ∀ worker, s.workers[id]? = some worker →
      WorkerOrder sources id (sentBy s.accepted id) (change worker))
    (hempty : ∀ worker : SenderWorkerState, worker.bridge.frame = none →
      (change worker).bridge.frame = none) :
    InOrder sources (s.modifyWorker id change) where
  workers other worker hworker := by
    rw [show (s.modifyWorker id change).stream.1 = s.workers.modify id change from rfl,
      List.getElem?_modify] at hworker
    obtain ⟨old, hold, hworker⟩ := Option.map_eq_some_iff.mp hworker
    by_cases hid : id = other
    · subst hid
      rw [if_pos rfl] at hworker
      subst hworker
      exact hchange old hold
    · rw [if_neg hid] at hworker
      subst hworker
      exact h.workers other old hold
  known sent hsent := by
    rw [show (s.modifyWorker id change).stream.1 = s.workers.modify id change from rfl,
      List.length_modify]
    exact h.known sent hsent
  empty other generation worker htask hworker := by
    rw [show (s.modifyWorker id change).stream.1 = s.workers.modify id change from rfl,
      List.getElem?_modify] at hworker
    obtain ⟨old, hold, hworker⟩ := Option.map_eq_some_iff.mp hworker
    have hbefore := h.empty other generation old htask hold
    by_cases hid : id = other
    · rw [if_pos hid] at hworker
      subst hworker
      exact hempty old hbefore
    · rw [if_neg hid] at hworker
      subst hworker
      exact hbefore

theorem InOrder.updateTransportQueuedBytes {s : OutgoingState} {id bytes : Nat}
    (h : InOrder sources s) :
    InOrder sources (s.modifyWorker id (·.updateTransportQueuedBytes bytes)) :=
  h.modifyWorker
    (fun worker hworker => (h.workers id worker hworker).updateTransportQueuedBytes)
    fun _ hempty => hempty

theorem InOrder.startSenderTask {connection : FileTlsConnection} (h : InOrder sources s)
    (hempty : ∀ worker, s.workers[id]? = some worker → worker.bridge.frame = none) :
    InOrder sources (s.startSenderTask connection id) := by
  unfold OutgoingState.startSenderTask
  dsimp only
  have hupdated := @InOrder.updateTransportQueuedBytes sources s id
    connection.queuedWriteBytes h
  split_ifs
  · refine ⟨hupdated.workers, hupdated.known, ?_⟩
    intro other generation worker htask hworker
    obtain rfl : id = other := congrArg SenderTask.worker (Option.some.inj htask)
    change (s.workers.modify id _)[id]? = some worker at hworker
    rw [List.getElem?_modify] at hworker
    obtain ⟨old, hold, hworker⟩ := Option.map_eq_some_iff.mp hworker
    rw [if_pos rfl] at hworker
    subst hworker
    exact hempty old hold
  · exact hupdated

theorem InOrder.frameAccepted (h : InOrder sources s) (hworker : s.workers[id]? = some worker)
    (hframe : worker.pendingFrame = some frame) :
    InOrder sources (s.frameAccepted id frame) := by
  have hknown := h.known
  have hmoved : StreamOrder sources
      (s.workers.modify id SenderWorkerState.consumePendingFrame, s.senderTask,
        s.accepted ++ [(id, frame)]) := by
    refine ⟨?_, ?_, ?_⟩
    · intro other changed hchanged
      dsimp only at hchanged ⊢
      rw [List.getElem?_modify] at hchanged
      obtain ⟨old, hold, hchanged⟩ := Option.map_eq_some_iff.mp hchanged
      by_cases hid : id = other
      · subst hid
        rw [if_pos rfl] at hchanged
        obtain rfl : worker = old := Option.some.inj (hworker.symm.trans hold)
        subst hchanged
        rw [sentBy_append_self]
        exact (h.workers id worker hworker).consumePendingFrame sources hframe
      · rw [if_neg hid] at hchanged
        subst hchanged
        rw [sentBy_append_other (Ne.symm hid)]
        exact h.workers other old hold
    · intro sent hsent
      dsimp only at hsent ⊢
      rw [List.length_modify]
      rcases List.mem_append.mp hsent with hbefore | hnow
      · exact hknown sent hbefore
      · obtain rfl := List.mem_singleton.mp hnow
        exact (List.getElem?_eq_some_iff.mp hworker).1
    · intro other generation changed htask hchanged
      dsimp only at hchanged
      rw [List.getElem?_modify] at hchanged
      obtain ⟨old, hold, hchanged⟩ := Option.map_eq_some_iff.mp hchanged
      have hbefore := h.empty other generation old htask hold
      by_cases hid : id = other
      · rw [if_pos hid] at hchanged
        subst hchanged
        rfl
      · rw [if_neg hid] at hchanged
        subst hchanged
        exact hbefore
  unfold OutgoingState.frameAccepted
  dsimp only
  split_ifs
  · exact InOrder.of_stream_eq updateOutgoingProgress_stream hmoved
  · exact hmoved

theorem pendingFrame_eq (hsender : s.sender = some id) :
    s.pendingFrame = (s.workers[id]?).bind SenderWorkerState.pendingFrame := by
  rw [OutgoingState.pendingFrame, hsender, Option.bind_some]

theorem workers_frameAccepted :
    (s.frameAccepted id frame).workers =
      s.workers.modify id SenderWorkerState.consumePendingFrame := by
  unfold OutgoingState.frameAccepted
  dsimp only
  split_ifs
  · exact congrArg Prod.fst updateOutgoingProgress_stream
  · rfl

/-- **Draining the bridge and starting the next call keep the order.** -/
theorem InOrder.scheduleSenderPump (h : InOrder sources s) :
    InOrder sources (s.scheduleSenderPump runtime env) := by
  unfold OutgoingState.scheduleSenderPump
  split
  · exact h
  rename_i id hsender
  split_ifs with hbusy
  · exact h
  split
  · rename_i connection hconnection hready
    have hupdated := @InOrder.updateTransportQueuedBytes sources s id
      connection.queuedWriteBytes h
    have hstill : (s.modifyWorker id
      (·.updateTransportQueuedBytes connection.queuedWriteBytes)).sender = some id := hsender
    dsimp only
    generalize s.modifyWorker id
      (·.updateTransportQueuedBytes connection.queuedWriteBytes) = now at hupdated hstill ⊢
    have hpending := pendingFrame_eq hstill
    split
    · rename_i hnone
      rw [hnone] at hpending
      refine hupdated.startSenderTask fun worker hworker => ?_
      rw [hworker] at hpending
      exact hpending.symm
    · rename_i frame hframe
      rw [hframe] at hpending
      obtain ⟨worker, hworker, hheld⟩ := Option.bind_eq_some_iff.mp hpending.symm
      split
      · split_ifs
        · exact hupdated.of_stream_eq failOutgoing_stream
        · exact hupdated
      · exact hupdated.of_stream_eq failOutgoing_stream
      · have haccepted := hupdated.frameAccepted hworker hheld
        split_ifs
        · exact haccepted.of_stream_eq rfl
        · refine haccepted.startSenderTask fun drained hdrained => ?_
          rw [workers_frameAccepted, List.getElem?_modify, hworker] at hdrained
          obtain rfl : worker.consumePendingFrame = drained := by simpa using hdrained
          rfl
  · exact h.of_stream_eq failOutgoing_stream

@[simp]
theorem commitOutgoing_stream : (s.commitOutgoing runtime env).stream = s.stream := by
  unfold commitOutgoing
  split
  · rfl
  · dsimp only
    split
    · exact failOutgoing_stream
    · exact removeOutgoingRecovery_stream

@[simp]
theorem completeOutgoing_stream : (s.completeOutgoing runtime env).stream = s.stream := by
  unfold completeOutgoing
  split
  · rfl
  · exact commitOutgoing_stream.trans updateOutgoingProgress_stream

theorem InOrder.append {request : TransferSenderRequest} {limits : SenderBackpressureLimits}
    (h : InOrder sources s) :
    StreamOrder sources
      (s.workers ++ [SenderWorkerState.create request limits], s.senderTask, s.accepted) := by
  have hcases (id : Nat) (worker : SenderWorkerState)
      (hworker : (s.workers ++ [SenderWorkerState.create request limits])[id]? = some worker) :
      s.workers[id]? = some worker ∨
        (id = s.workers.length ∧ worker = .create request limits) := by
    rcases Nat.lt_or_ge id s.workers.length with hold | hnew
    · rw [List.getElem?_append_left hold] at hworker
      exact .inl hworker
    · rw [List.getElem?_append_right hnew, List.getElem?_singleton] at hworker
      split_ifs at hworker with hzero
      exact .inr ⟨by omega, (Option.some.inj hworker).symm⟩
  refine ⟨?_, ?_, ?_⟩
  · intro id worker hworker
    rcases hcases id worker hworker with hold | ⟨rfl, rfl⟩
    · exact h.workers id worker hold
    · have hnone : sentBy s.accepted s.workers.length = [] := sentBy_fresh h.known
      dsimp only
      rw [hnone]
      exact ⟨TransferSenderPump.mirrors_create, Nat.zero_le 1⟩
  · intro sent hsent
    dsimp only
    rw [List.length_append]
    exact Nat.lt_add_right _ (h.known sent hsent)
  · intro id generation worker htask hworker
    rcases hcases id worker hworker with hold | ⟨rfl, rfl⟩
    · exact h.empty id generation worker htask hold
    · rfl

theorem InOrder.startNextOutgoingFile (h : InOrder sources s) :
    InOrder sources (s.startNextOutgoingFile runtime env) := by
  unfold OutgoingState.startNextOutgoingFile
  split
  · split
    · exact h
    dsimp only
    split
    · exact h.of_stream_eq completeOutgoing_stream
    · split
      · split
        · exact InOrder.of_stream_eq failOutgoing_stream h.append
        · exact InOrder.scheduleSenderPump
            (InOrder.of_stream_eq updateOutgoingProgress_stream h.append)
      · exact h.of_stream_eq failOutgoing_stream
  · exact h

theorem InOrder.pause (h : InOrder sources s) :
    InOrder sources (s.pause runtime env) := by
  unfold OutgoingState.pause
  dsimp only
  split
  · exact h
  split
  · exact h
  split
  · exact h
  split
  · exact h
  split
  · exact h.of_stream_eq failOutgoing_stream
  · exact h

theorem InOrder.resume (h : InOrder sources s) :
    InOrder sources (s.resume runtime env) := by
  unfold OutgoingState.resume
  dsimp only
  split
  · exact h
  split
  · exact h
  split
  · exact h
  split
  · exact h
  split
  · exact h.of_stream_eq failOutgoing_stream
  · exact InOrder.scheduleSenderPump (h.of_stream_eq rfl)

theorem cancel_stream {options : TransferCancelOptions} :
    (s.cancel runtime env options).stream = s.stream := by
  unfold OutgoingState.cancel
  split_ifs <;> first | rfl | exact removeOutgoingRecovery_stream

theorem InOrder.applyRemoteCommand {command : TransferCommandMessage} (h : InOrder sources s) :
    InOrder sources (s.applyRemoteCommand runtime env command) := by
  unfold OutgoingState.applyRemoteCommand
  split
  · exact h
  rename_i control hcontrol
  cases command with
  | pause id =>
    dsimp only
    split
    · exact h
    · split <;> exact h
  | resume id =>
    dsimp only
    split
    · exact h
    split
    · exact h
    · rename_i resumed hresumed
      have hpumped : InOrder sources
          ({ s with paused := false, control := some resumed }.scheduleSenderPump runtime env) :=
        InOrder.scheduleSenderPump (h.of_stream_eq rfl)
      split <;> exact hpumped
  | cancel id reason keepPartial =>
    dsimp only
    split
    · exact h
    split
    · exact h
    · exact h.of_stream_eq removeOutgoingRecovery_stream

theorem sendOffer_stream : (s.sendOffer runtime env).stream = s.stream := by
  unfold OutgoingState.sendOffer
  split
  · split
    · exact failOutgoing_stream
    dsimp only
    split
    · exact failOutgoing_stream
    split
    · exact failOutgoing_stream
    split
    · exact failOutgoing_stream
    · rfl
  · rfl

theorem finishManifestPreparation_stream {manifest : Except String TransferManifest}
    {plan : Except String ManifestPagePlan} :
    (s.finishManifestPreparation runtime env manifest plan).stream = s.stream := by
  unfold OutgoingState.finishManifestPreparation
  split
  · rfl
  split
  · exact failOutgoing_stream
  dsimp only
  split
  · exact failOutgoing_stream
  split
  · exact failOutgoing_stream
  split
  · exact failOutgoing_stream
  split
  · exact sendOffer_stream
  · rfl

theorem sendResumeQuery_stream : (s.sendResumeQuery runtime env).stream = s.stream := by
  unfold OutgoingState.sendResumeQuery
  split
  · split
    · rfl
    split
    · exact failOutgoing_stream
    dsimp only
    split
    · split
      · exact failOutgoing_stream
      · rfl
    · rfl
  · rfl

theorem offerPreparedTransfers_stream :
    (s.offerPreparedTransfers runtime env).stream = s.stream := by
  unfold OutgoingState.offerPreparedTransfers
  split
  · split
    · rfl
    · exact sendResumeQuery_stream
  split
  · exact sendOffer_stream
  · rfl

theorem continueResumed_stream : (s.continueResumed runtime env).stream = s.stream := by
  unfold OutgoingState.continueResumed
  exact persistOutgoing_stream.trans updateOutgoingProgress_stream

theorem handleResumeResponse_stream {response : ResumeResponseMessage} :
    (s.handleResumeResponse runtime env response).stream = s.stream := by
  unfold OutgoingState.handleResumeResponse
  split
  · split
    · rfl
    split
    · exact failOutgoing_stream
    dsimp only
    split
    · exact continueResumed_stream
    split
    · exact failOutgoing_stream
    · exact continueResumed_stream
  · rfl

theorem handleTransferAccept_stream {qt : QtText} {acceptance : TransferAccept} :
    (s.handleTransferAccept runtime env qt acceptance).stream = s.stream := by
  unfold OutgoingState.handleTransferAccept
  split
  · dsimp only
    split
    · exact failOutgoing_stream
    split
    · exact failOutgoing_stream
    split
    · rfl
    · exact persistOutgoing_stream
  · rfl

theorem handleTransferReject_stream {rejection : TransferReject} :
    (s.handleTransferReject env rejection).stream = s.stream := by
  unfold OutgoingState.handleTransferReject
  split <;> rfl

theorem InOrder.sendNextManifestPage (h : InOrder sources s) :
    InOrder sources (s.sendNextManifestPage runtime env) := by
  unfold OutgoingState.sendNextManifestPage
  split
  · split
    · exact h
    split
    · exact h.of_stream_eq failOutgoing_stream
    split
    · exact h
    · exact h.startNextOutgoingFile
  · exact h

theorem InOrder.dispatchSenderPumpResult {generation : Nat} {result : SenderPumpResult}
    (h : InOrder sources s) :
    InOrder sources (s.dispatchSenderPumpResult runtime env generation result) := by
  unfold OutgoingState.dispatchSenderPumpResult
  split
  · split
    · exact h.of_stream_eq offerPreparedTransfers_stream
    · exact h
  split
  · exact h
  split
  · exact h.of_stream_eq failOutgoing_stream
  dsimp only
  split
  · exact h
  · exact InOrder.scheduleSenderPump (h.of_stream_eq rfl)

theorem InOrder.handleFileResult {result : FileResultMessage} (h : InOrder sources s) :
    InOrder sources (s.handleFileResult runtime env result) := by
  unfold OutgoingState.handleFileResult
  split
  · exact h
  split
  · exact h
  split
  · exact h.of_stream_eq failOutgoing_stream
  · exact InOrder.startNextOutgoingFile (h.of_stream_eq updateOutgoingProgress_stream)

theorem recoverySaveFinished_stream {save : RecoverySave} {result : Except String Unit} :
    (s.recoverySaveFinished runtime env save result).stream = s.stream := by
  unfold OutgoingState.recoverySaveFinished
  dsimp only
  split
  · exact startOutgoingRecoveryRemoval_stream
  split
  · exact startOutgoingRecoverySave_stream
  split
  · exact failOutgoing_stream
  split
  · rfl
  split <;> rfl

theorem recoveryRemovalFinished_stream {result : Except String Unit} :
    (s.recoveryRemovalFinished env result).stream = s.stream := by
  unfold OutgoingState.recoveryRemovalFinished
  dsimp only
  split
  · rfl
  · exact runRemoveCompletion_stream

theorem markOutgoingConnectionLost_stream :
    (s.markOutgoingConnectionLost runtime env).stream = s.stream := by
  unfold OutgoingState.markOutgoingConnectionLost
  split
  · rfl
  dsimp only
  split
  · exact failOutgoing_stream
  split
  · exact failOutgoing_stream
  · exact persistOutgoing_stream

theorem InOrder.senderProduces (h : InOrder sources s) (hstep : s.senderProduces sources = some s')
    : InOrder sources s' := by
  unfold OutgoingState.senderProduces at hstep
  split at hstep
  · rename_i id generation htask
    obtain ⟨worker, hworker, rfl⟩ := Option.map_eq_some_iff.mp hstep
    have hempty := h.empty id generation worker htask hworker
    have hproduced := (h.workers id worker hworker).produce sources hempty
    refine ⟨?_, ?_, ?_⟩
    · intro other changed hchanged
      by_cases hid : id = other
      · subst hid
        change (s.workers.set id _)[id]? = some changed at hchanged
        rw [List.getElem?_set_self (List.getElem?_eq_some_iff.mp hworker).1] at hchanged
        obtain rfl := Option.some.inj hchanged
        exact hproduced
      · change (s.workers.set id _)[other]? = some changed at hchanged
        rw [List.getElem?_set_ne hid] at hchanged
        exact h.workers other changed hchanged
    · intro sent hsent
      change sent.1 < (s.workers.set id _).length
      rw [List.length_set]
      exact h.known sent hsent
    · intro other generation' changed hran
      exact nomatch congrArg SenderTask.result (Option.some.inj hran)
  · exact nomatch hstep

theorem recoverySaveWrites_stream {fault : Option String}
    (hstep : s.recoverySaveWrites fault = some s') : s'.stream = s.stream := by
  unfold OutgoingState.recoverySaveWrites at hstep
  split at hstep
  · split at hstep <;> obtain rfl := Option.some.inj hstep <;> rfl
  · exact nomatch hstep

theorem recoveryRemovalErases_stream {fault : Option String}
    (hstep : s.recoveryRemovalErases fault = some s') : s'.stream = s.stream := by
  unfold OutgoingState.recoveryRemovalErases at hstep
  split at hstep
  · split at hstep <;> obtain rfl := Option.some.inj hstep <;> rfl
  · exact nomatch hstep

theorem InOrder.step {event : OutgoingEvent} (h : InOrder sources s)
    (hstep : s.step runtime sources env event = some s') : InOrder sources s' := by
  have hframe (peer : DeviceId) (id : TransferId) {handled : OutgoingState}
      (hhandled : InOrder sources handled) :
      InOrder sources (if s.addressed peer id then handled else s) := by
    split
    · exact hhandled
    · exact h
  cases event with
  | manifestPrepared manifest plan =>
    dsimp only [OutgoingState.step] at hstep
    split at hstep <;> [skip; exact nomatch hstep]
    obtain rfl := Option.some.inj hstep
    exact h.of_stream_eq finishManifestPreparation_stream
  | pause =>
    obtain rfl := Option.some.inj hstep
    exact h.pause
  | resume =>
    obtain rfl := Option.some.inj hstep
    exact h.resume
  | cancel options =>
    obtain rfl := Option.some.inj hstep
    exact h.of_stream_eq cancel_stream
  | remoteCommand peer command =>
    obtain rfl := Option.some.inj hstep
    exact hframe peer command.transferId h.applyRemoteCommand
  | peerReady =>
    obtain rfl := Option.some.inj hstep
    exact h.of_stream_eq offerPreparedTransfers_stream
  | offerTimer =>
    dsimp only [OutgoingState.step] at hstep
    split at hstep <;> [skip; exact nomatch hstep]
    obtain rfl := Option.some.inj hstep
    exact h.of_stream_eq offerPreparedTransfers_stream
  | transferAccept peer acceptance =>
    obtain rfl := Option.some.inj hstep
    exact hframe peer acceptance.transferId (h.of_stream_eq handleTransferAccept_stream)
  | transferReject peer rejection =>
    obtain rfl := Option.some.inj hstep
    exact hframe peer rejection.transferId (h.of_stream_eq handleTransferReject_stream)
  | resumeResponse peer response =>
    obtain rfl := Option.some.inj hstep
    exact hframe peer response.transferId (h.of_stream_eq handleResumeResponse_stream)
  | fileResult peer result =>
    obtain rfl := Option.some.inj hstep
    exact hframe peer result.transferId h.handleFileResult
  | manifestPageTimer =>
    dsimp only [OutgoingState.step] at hstep
    split at hstep <;> [skip; exact nomatch hstep]
    obtain rfl := Option.some.inj hstep
    exact InOrder.sendNextManifestPage (h.of_stream_eq rfl)
  | writeCapacityAvailable =>
    obtain rfl := Option.some.inj hstep
    split
    · exact h
    · exact h.scheduleSenderPump
  | senderProduces => exact h.senderProduces hstep
  | senderFinished =>
    dsimp only [OutgoingState.step] at hstep
    split at hstep <;> [skip; exact nomatch hstep]
    obtain rfl := Option.some.inj hstep
    exact InOrder.dispatchSenderPumpResult ⟨h.workers, h.known, fun _ _ _ hnone => nomatch hnone⟩
  | recoverySaveWrites fault => exact h.of_stream_eq (recoverySaveWrites_stream hstep)
  | recoverySaveFinished =>
    dsimp only [OutgoingState.step] at hstep
    split at hstep <;> [skip; exact nomatch hstep]
    obtain ⟨result, -, rfl⟩ := Option.map_eq_some_iff.mp hstep
    exact h.of_stream_eq recoverySaveFinished_stream
  | recoveryRemovalErases fault => exact h.of_stream_eq (recoveryRemovalErases_stream hstep)
  | recoveryRemovalFinished =>
    dsimp only [OutgoingState.step] at hstep
    split at hstep <;> [skip; exact nomatch hstep]
    obtain ⟨result, -, rfl⟩ := Option.map_eq_some_iff.mp hstep
    exact h.of_stream_eq recoveryRemovalFinished_stream
  | connectionLost =>
    obtain rfl := Option.some.inj hstep
    exact h.of_stream_eq markOutgoingConnectionLost_stream

theorem inOrder_start (hstart : (outgoingMachine runtime sources).start s) :
    InOrder sources s := by
  have hidle : s.stream = ([], none, []) := by
    rcases hstart with ⟨id, target, localItems, options, peerDisplayName, displayName, now, rfl⟩ |
      ⟨env, state, manifest, plan, peerDisplayName, hhydrate⟩
    · rfl
    · unfold hydrate at hhydrate
      split at hhydrate
      · exact nomatch hhydrate
      · obtain ⟨control, -, rfl⟩ := Option.map_eq_some_iff.mp hhydrate
        rfl
  unfold InOrder
  rw [hidle]
  refine ⟨?_, ?_, ?_⟩
  · intro id worker hworker
    exact nomatch hworker
  · intro sent hsent
    exact nomatch hsent
  · intro id generation worker htask
    exact nomatch htask

theorem inOrder_of_reachable {allowed : OutgoingState → Surroundings × OutgoingEvent → Prop}
    (hreach : (outgoingMachine runtime sources).Reachable allowed s) :
    InOrder sources s :=
  hreach.invariant (fun _ hstart => inOrder_start hstart)
    fun _ _ _ hinv _ hstep => InOrder.step hinv hstep

end OutgoingState

/-- **Backpressure loses nothing.** In every order of events, refusals and scheduling, the frames the
connection took from a sending file, then the one in the bridge, then the one in the pump are the
frames the same sender hands to a sink that takes everything; the frames taken are so a prefix of
them, and at most one frame is held. -/
theorem accepted_frames_in_order {runtime : FileTransferRuntime} {sources : OutgoingSources}
    {s : OutgoingState}
    (hreach : (outgoingMachine runtime sources).Reachable (fun _ _ => True) s)
    {id : Nat} {worker : SenderWorkerState} (hworker : s.workers[id]? = some worker) :
    let unrefused := (TransferSenderPump.pumpAccepting sources.qt sources.sha (sources.views id)
      worker.pump.sender.request worker.limits worker.pump.sourcePulls).2
    OutgoingState.sentBy s.accepted id ++ worker.bridge.frame.toList ++
        worker.pump.pendingFrame.toList = unrefused ∧
      OutgoingState.sentBy s.accepted id <+: unrefused ∧
      worker.bridge.frame.toList.length + worker.pump.pendingFrame.toList.length ≤ 1 := by
  have horder := (OutgoingState.inOrder_of_reachable hreach).workers id worker hworker
  refine ⟨horder.mirrors.frames.symm, ?_, horder.held⟩
  rw [horder.mirrors.frames, List.append_assoc]
  exact List.prefix_append _ _

namespace OutgoingAbc

/-- The connection refuses the first frame, takes it later, and the next one waits in the bridge. -/
def refusedOnce : OutgoingState :=
  ((outgoingMachine runtime sources).exec started (opening ++
    [(ready, .senderProduces), (full, .senderFinished), (ready, .writeCapacityAvailable),
      (ready, .senderProduces)])).get (by decide +kernel)

theorem refusedOnce_reachable :
    (outgoingMachine runtime sources).Reachable (fun _ _ => True) refusedOnce :=
  ⟨started, .inl ⟨_, _, _, _, _, _, _, rfl⟩, Machine.run_of_exec (Option.some_get _).symm⟩

end OutgoingAbc

theorem accepted_frames_in_order_refusedOnce :
    ∃ worker, OutgoingAbc.refusedOnce.workers[0]? = some worker ∧
      (OutgoingState.sentBy OutgoingAbc.refusedOnce.accepted 0).length = 1 ∧
      OutgoingState.sentBy OutgoingAbc.refusedOnce.accepted 0 <+:
        (TransferSenderPump.pumpAccepting .ascii FileStreaming.abcSha256
          (fun _ => FileStreaming.abcView) worker.pump.sender.request worker.limits
          worker.pump.sourcePulls).2 := by
  have hsome : (OutgoingAbc.refusedOnce.workers[0]?).isSome := by decide +kernel
  obtain ⟨worker, hworker⟩ := Option.isSome_iff_exists.mp hsome
  refine ⟨worker, hworker, by decide +kernel, ?_⟩
  exact (accepted_frames_in_order OutgoingAbc.refusedOnce_reachable hworker).2.1

end DeskflowPlus.App
