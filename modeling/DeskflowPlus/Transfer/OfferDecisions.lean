import DeskflowPlus.Transfer.TransferOfferStateMachine

/-!
# One decision for each offer

Any calls of the machine, in any order. The calls it takes about one offer are the opening and at
most one answer, and the snapshot is what these two made it. All that holds of a decided offer
follows from the answer's own checks.
-/

namespace DeskflowPlus.Transfer

inductive OfferCall where
  | beginOutgoing (offer : TransferOffer)
  | receiveIncoming (offer : TransferOffer)
  | receiveAccept (acceptance : TransferAccept)
  | receiveReject (rejection : TransferReject)
  | acceptIncoming (effectivePolicy : ConflictPolicy) (logicalDestination : QString)
      (freeBytes : Nat) (origin : AcceptanceOrigin)
  | rejectIncoming (reason : RejectReason) (diagnostic : QString)
  | fail (errorCode : TransferErrorCode)
  | reset

namespace OfferCall

def decides : OfferCall → Bool
  | .receiveAccept _ | .receiveReject _ | .acceptIncoming .. | .rejectIncoming .. => true
  | _ => false

def opening (direction : OfferDirection) (offer : TransferOffer) : OfferCall :=
  match direction with
  | .outgoing => .beginOutgoing offer
  | .incoming => .receiveIncoming offer

end OfferCall

namespace TransferOfferStateMachine

def reset (machine : TransferOfferStateMachine) : TransferOfferStateMachine :=
  { machine with snapshot := none }

variable (qt : QtText)

def perform (machine : TransferOfferStateMachine) :
    OfferCall → OfferStateResult × TransferOfferStateMachine
  | .beginOutgoing offer => machine.beginOutgoing offer
  | .receiveIncoming offer => machine.receiveIncoming offer
  | .receiveAccept acceptance => machine.receiveAccept qt acceptance
  | .receiveReject rejection => machine.receiveReject rejection
  | .acceptIncoming policy destination freeBytes origin =>
    machine.acceptIncoming qt policy destination freeBytes origin
  | .rejectIncoming reason diagnostic => machine.rejectIncoming reason diagnostic
  | .fail errorCode => machine.fail errorCode
  | .reset => ({}, machine.reset)

def awaiting : OfferDirection → OfferState
  | .outgoing => .awaitingPeerDecision
  | .incoming => .awaitingLocalDecision

def openedSnapshot (direction : OfferDirection) (offer : TransferOffer) : OfferSnapshot :=
  { transferId := offer.transferId, direction, state := awaiting direction
    displayName := offer.displayName, totalBytes := offer.totalBytes
    fileCount := offer.fileCount, directoryCount := offer.directoryCount
    requestedConflictPolicy := offer.requestedConflictPolicy }

inductive Answers (capabilities : NegotiatedCapabilities) (snapshot : OfferSnapshot) :
    OfferCall → OfferSnapshot → Prop
  | receiveAccept {acceptance : TransferAccept} (hdirection : snapshot.direction = .outgoing)
      (hid : acceptance.transferId = snapshot.transferId)
      (hpolicy : acceptance.effectiveConflictPolicy ∈ capabilities.conflictPolicies) :
      Answers capabilities snapshot (.receiveAccept acceptance)
        { snapshot with acceptance := some acceptance, state := .accepted }
  | receiveReject {rejection : TransferReject} (hid : rejection.transferId = snapshot.transferId) :
      Answers capabilities snapshot (.receiveReject rejection)
        { snapshot with rejection := some rejection, state := .rejected }
  | acceptIncoming {policy : ConflictPolicy} {destination : QString} {freeBytes : Nat}
      {origin : AcceptanceOrigin} (hpolicy : policy ∈ capabilities.conflictPolicies)
      (hfree : snapshot.totalBytes ≤ freeBytes) :
      Answers capabilities snapshot (.acceptIncoming policy destination freeBytes origin)
        { snapshot with
          acceptance := some {
            transferId := snapshot.transferId, effectiveConflictPolicy := policy
            logicalDestination := qt.trimmed destination, freeBytes
            autoAccepted := origin = .trustedDevicePolicy }
          state := .accepted }
  | rejectIncoming {reason : RejectReason} {diagnostic : QString} :
      Answers capabilities snapshot (.rejectIncoming reason diagnostic)
        { snapshot with
          rejection := some { transferId := snapshot.transferId, reason, diagnostic }
          state := .rejected }
  | fail {errorCode : TransferErrorCode} :
      Answers capabilities snapshot (.fail errorCode)
        { snapshot with state := .failed, errorCode }

/-- What an accepted call does: it opens an offer where none waits, answers the one that waits, or
drops it. -/
inductive Moves (machine : TransferOfferStateMachine) :
    OfferCall → TransferOfferStateMachine → Prop
  | opened {direction : OfferDirection} {offer : TransferOffer} :
      Moves machine (.opening direction offer)
        { machine with snapshot := some (openedSnapshot direction offer) }
  | answered {snapshot next : OfferSnapshot} {answer : OfferCall}
      (hsnapshot : machine.snapshot = some snapshot) (hwaits : isTerminal snapshot.state = false)
      (hanswers : Answers qt machine.capabilities snapshot answer next) :
      Moves machine answer { machine with snapshot := some next }
  | reset : Moves machine .reset machine.reset

variable {qt} {machine : TransferOfferStateMachine}

/-- A call is refused and changes nothing, or it is accepted. -/
def Settles (qt : QtText) (machine : TransferOfferStateMachine) (call : OfferCall)
    (outcome : OfferStateResult × TransferOfferStateMachine) : Prop :=
  outcome.1.ok = false ∧ outcome.2 = machine ∨ outcome.1.ok = true ∧ Moves qt machine call outcome.2

theorem settles_failure {call : OfferCall} {error : OfferStateError} (diagnostic : String)
    (h : error ≠ .none) : Settles qt machine call (failure error diagnostic, machine) :=
  .inl ⟨decide_eq_false h, rfl⟩

variable {snapshot : OfferSnapshot}

theorem waiting_eq_some {direction : OfferDirection} {state : OfferState}
    (h : machine.waiting direction state = some snapshot) :
    machine.snapshot = some snapshot ∧ snapshot.direction = direction ∧ snapshot.state = state := by
  obtain ⟨hsnapshot, hmatches⟩ := Option.filter_eq_some_iff.mp h
  rw [Bool.and_eq_true, decide_eq_true_iff, decide_eq_true_iff] at hmatches
  exact ⟨hsnapshot, hmatches⟩

theorem settles_openOffer (direction : OfferDirection) (offer : TransferOffer) :
    Settles qt machine (.opening direction offer)
      (openOffer direction (awaiting direction) machine offer) := by
  unfold openOffer
  split
  · exact settles_failure _ nofun
  · dsimp only
    split
    · rename_i hvalid
      exact .inl ⟨Bool.not_eq_true _ |>.mp hvalid, rfl⟩
    · exact .inr ⟨rfl, .opened⟩

theorem settles_receiveAccept (acceptance : TransferAccept) :
    Settles qt machine (.receiveAccept acceptance) (machine.receiveAccept qt acceptance) := by
  unfold receiveAccept
  split
  · exact settles_failure _ nofun
  · rename_i snapshot hwaiting
    obtain ⟨hsnapshot, hdirection, hstate⟩ := waiting_eq_some hwaiting
    split_ifs with hid hpolicy hdestination
    · exact settles_failure _ nofun
    · exact settles_failure _ nofun
    · refine .inr ⟨rfl, .answered hsnapshot (by rw [hstate]; rfl) ?_⟩
      exact .receiveAccept hdirection (not_not.mp hid) (of_decide_eq_true hpolicy)
    · exact settles_failure _ nofun

theorem settles_receiveReject (rejection : TransferReject) :
    Settles qt machine (.receiveReject rejection) (machine.receiveReject rejection) := by
  unfold receiveReject
  split
  · exact settles_failure _ nofun
  · rename_i snapshot hwaiting
    obtain ⟨hsnapshot, -, hstate⟩ := waiting_eq_some hwaiting
    split_ifs with hid hreason
    · exact settles_failure _ nofun
    · exact settles_failure _ nofun
    · refine .inr ⟨rfl, .answered hsnapshot (by rw [hstate]; rfl) ?_⟩
      exact .receiveReject (not_not.mp hid)

theorem settles_acceptIncoming (policy : ConflictPolicy) (destination : QString) (freeBytes : Nat)
    (origin : AcceptanceOrigin) :
    Settles qt machine (.acceptIncoming policy destination freeBytes origin)
      (machine.acceptIncoming qt policy destination freeBytes origin) := by
  unfold acceptIncoming
  split
  · exact settles_failure _ nofun
  · rename_i snapshot hwaiting
    obtain ⟨hsnapshot, -, hstate⟩ := waiting_eq_some hwaiting
    dsimp only
    split_ifs with hpolicy hdestination hfree
    · exact settles_failure _ nofun
    · exact settles_failure _ nofun
    · refine .inr ⟨rfl, .answered hsnapshot (by rw [hstate]; rfl) ?_⟩
      exact .acceptIncoming (of_decide_eq_true hpolicy) (Nat.le_of_not_lt hfree)
    · exact settles_failure _ nofun

theorem settles_rejectIncoming (reason : RejectReason) (diagnostic : QString) :
    Settles qt machine (.rejectIncoming reason diagnostic)
      (machine.rejectIncoming reason diagnostic) := by
  unfold rejectIncoming
  split
  · exact settles_failure _ nofun
  · rename_i snapshot hwaiting
    obtain ⟨hsnapshot, -, hstate⟩ := waiting_eq_some hwaiting
    split_ifs with hreason
    · exact settles_failure _ nofun
    · exact .inr ⟨rfl, .answered hsnapshot (by rw [hstate]; rfl) .rejectIncoming⟩

theorem settles_fail (errorCode : TransferErrorCode) :
    Settles qt machine (.fail errorCode) (machine.fail errorCode) := by
  unfold fail
  split
  · exact settles_failure _ nofun
  · rename_i snapshot hwaiting
    obtain ⟨hsnapshot, hwaits⟩ := Option.filter_eq_some_iff.mp hwaiting
    split_ifs with hcode
    · exact .inr ⟨rfl, .answered hsnapshot (Bool.not_eq_true' _ |>.mp hwaits) .fail⟩
    · exact settles_failure _ nofun

theorem settles_perform (call : OfferCall) :
    Settles qt machine call (machine.perform qt call) := by
  cases call with
  | beginOutgoing offer => exact settles_openOffer .outgoing offer
  | receiveIncoming offer => exact settles_openOffer .incoming offer
  | receiveAccept acceptance => exact settles_receiveAccept acceptance
  | receiveReject rejection => exact settles_receiveReject rejection
  | acceptIncoming policy destination freeBytes origin =>
    exact settles_acceptIncoming policy destination freeBytes origin
  | rejectIncoming reason diagnostic => exact settles_rejectIncoming reason diagnostic
  | fail errorCode => exact settles_fail errorCode
  | reset => exact .inr ⟨rfl, .reset⟩

variable {capabilities : NegotiatedCapabilities} {answer : OfferCall}

theorem Answers.isTerminal {next : OfferSnapshot} (h : Answers qt capabilities snapshot answer next) :
    isTerminal next.state = true := by
  cases h <;> rfl

inductive Life (qt : QtText) (capabilities : NegotiatedCapabilities) :
    Option OfferSnapshot → List OfferCall → Prop
  | idle : Life qt capabilities none []
  | opened (direction : OfferDirection) (offer : TransferOffer) :
      Life qt capabilities (some (openedSnapshot direction offer)) [.opening direction offer]
  | answered {direction : OfferDirection} {offer : TransferOffer} {answer : OfferCall}
      {snapshot : OfferSnapshot}
      (hanswers : Answers qt capabilities (openedSnapshot direction offer) answer snapshot) :
      Life qt capabilities (some snapshot) [.opening direction offer, answer]

structure OfferRun where
  machine : TransferOfferStateMachine
  calls : List OfferCall := []

def callsAfter (calls : List OfferCall) : OfferCall → List OfferCall
  | .beginOutgoing offer => [.beginOutgoing offer]
  | .receiveIncoming offer => [.receiveIncoming offer]
  | .reset => []
  | answer => calls ++ [answer]

def OfferRun.step (qt : QtText) (run : OfferRun) (call : OfferCall) : OfferRun :=
  let (result, machine) := run.machine.perform qt call
  { machine, calls := if result.ok then callsAfter run.calls call else run.calls }

def OfferRun.start (capabilities : NegotiatedCapabilities) : OfferRun := ⟨{ capabilities }, []⟩

structure OfferRun.Inv (qt : QtText) (capabilities : NegotiatedCapabilities) (run : OfferRun) :
    Prop where
  negotiated : run.machine.capabilities = capabilities
  life : Life qt capabilities run.machine.snapshot run.calls

theorem callsAfter_opening (calls : List OfferCall) (direction : OfferDirection)
    (offer : TransferOffer) :
    callsAfter calls (.opening direction offer) = [.opening direction offer] := by
  cases direction <;> rfl

theorem Answers.callsAfter {next : OfferSnapshot} (h : Answers qt capabilities snapshot answer next)
    (calls : List OfferCall) : callsAfter calls answer = calls ++ [answer] := by
  cases h <;> rfl

variable {calls : List OfferCall}

theorem Life.eq_opened (h : Life qt capabilities (some snapshot) calls)
    (hwaits : TransferOfferStateMachine.isTerminal snapshot.state = false) :
    ∃ direction offer, snapshot = openedSnapshot direction offer ∧
      calls = [.opening direction offer] := by
  cases h with
  | opened direction offer => exact ⟨direction, offer, rfl, rfl⟩
  | answered hanswers =>
    rw [hanswers.isTerminal] at hwaits
    cases hwaits

theorem OfferRun.Inv.step {run : OfferRun} (h : run.Inv qt capabilities) (call : OfferCall) :
    (run.step qt call).Inv qt capabilities := by
  rcases @settles_perform qt run.machine call with ⟨hresult, hmachine⟩ | ⟨hresult, hmoves⟩
  · have hstep : run.step qt call = run := by
      unfold OfferRun.step
      dsimp only
      rw [hresult, hmachine]
      rfl
    rwa [hstep]
  · have hstep : run.step qt call =
        ⟨(run.machine.perform qt call).2, callsAfter run.calls call⟩ := by
      unfold OfferRun.step
      dsimp only
      rw [hresult]
      rfl
    rw [hstep]
    generalize (run.machine.perform qt call).2 = machine at hmoves
    cases hmoves with
    | opened =>
      refine ⟨h.negotiated, ?_⟩
      rw [callsAfter_opening]
      exact .opened _ _
    | answered hsnapshot hwaits hanswers =>
      refine ⟨h.negotiated, ?_⟩
      have hlife := h.life
      rw [hsnapshot] at hlife
      obtain ⟨direction, offer, rfl, hcalls⟩ := hlife.eq_opened hwaits
      rw [hanswers.callsAfter, hcalls]
      rw [h.negotiated] at hanswers
      exact .answered hanswers
    | reset => exact ⟨h.negotiated, .idle⟩

theorem OfferRun.Inv.run (calls : List OfferCall) :
    (calls.foldl (OfferRun.step qt) (.start capabilities)).Inv qt capabilities := by
  induction calls using List.reverseRecOn with
  | nil => exact ⟨rfl, .idle⟩
  | append_singleton calls call ih =>
    rw [List.foldl_concat]
    exact ih.step call

/-- What an answer leaves in the snapshot. -/
structure Recorded (capabilities : NegotiatedCapabilities) (direction : OfferDirection)
    (offer : TransferOffer) (snapshot : OfferSnapshot) : Prop where
  sameDirection : snapshot.direction = direction
  acceptance : ∀ acceptance, snapshot.acceptance = some acceptance →
    acceptance.transferId = offer.transferId ∧
      acceptance.effectiveConflictPolicy ∈ capabilities.conflictPolicies ∧
      (direction = .incoming → offer.totalBytes ≤ acceptance.freeBytes)
  accepted : snapshot.state = .accepted ↔ snapshot.acceptance.isSome = true
  rejected : snapshot.state = .rejected ↔ snapshot.rejection.isSome = true

theorem recorded_openedSnapshot (capabilities : NegotiatedCapabilities)
    (direction : OfferDirection) (offer : TransferOffer) :
    Recorded capabilities direction offer (openedSnapshot direction offer) := by
  refine ⟨rfl, nofun, ?_, ?_⟩
  · cases direction <;> exact iff_of_false nofun nofun
  · cases direction <;> exact iff_of_false nofun nofun

theorem Answers.recorded {direction : OfferDirection} {offer : TransferOffer}
    (h : Answers qt capabilities (openedSnapshot direction offer) answer snapshot) :
    Recorded capabilities direction offer snapshot := by
  cases h with
  | receiveAccept hdirection hid hpolicy =>
    refine ⟨rfl, ?_, iff_of_true rfl rfl, iff_of_false nofun nofun⟩
    rintro acceptance ⟨⟩
    refine ⟨hid, hpolicy, fun hincoming => ?_⟩
    cases hincoming.symm.trans hdirection
  | receiveReject hid => exact ⟨rfl, nofun, iff_of_false nofun nofun, iff_of_true rfl rfl⟩
  | acceptIncoming hpolicy hfree =>
    refine ⟨rfl, ?_, iff_of_true rfl rfl, iff_of_false nofun nofun⟩
    rintro acceptance ⟨⟩
    exact ⟨rfl, hpolicy, fun _ => hfree⟩
  | rejectIncoming => exact ⟨rfl, nofun, iff_of_false nofun nofun, iff_of_true rfl rfl⟩
  | fail => exact ⟨rfl, nofun, iff_of_false nofun nofun, iff_of_false nofun nofun⟩

/-- The offer has had at most one decision, which its snapshot records, and a call that fails
changes nothing. -/
structure DecidedOnce (qt : QtText) (capabilities : NegotiatedCapabilities) (run : OfferRun) :
    Prop where
  once : run.calls.countP OfferCall.decides ≤ 1
  accepted : ∀ snapshot, run.machine.snapshot = some snapshot → snapshot.state = .accepted →
    ∃ offer acceptance, run.calls.head? = some (.opening snapshot.direction offer) ∧
      snapshot.acceptance = some acceptance ∧ acceptance.transferId = offer.transferId ∧
      acceptance.effectiveConflictPolicy ∈ capabilities.conflictPolicies ∧
      (snapshot.direction = .incoming → offer.totalBytes ≤ acceptance.freeBytes)
  exclusive : ∀ snapshot, run.machine.snapshot = some snapshot →
    (snapshot.state = .accepted ↔ snapshot.acceptance.isSome = true) ∧
      (snapshot.state = .rejected ↔ snapshot.rejection.isSome = true)
  unchanged : ∀ call, (run.machine.perform qt call).1.ok = false →
    (run.machine.perform qt call).2 = run.machine

theorem Life.exists_recorded (h : Life qt capabilities (some snapshot) calls) :
    ∃ direction offer, calls.head? = some (.opening direction offer) ∧
      Recorded capabilities direction offer snapshot := by
  cases h with
  | opened direction offer =>
    exact ⟨direction, offer, rfl, recorded_openedSnapshot capabilities direction offer⟩
  | answered hanswers => exact ⟨_, _, rfl, hanswers.recorded⟩

theorem Life.countP_decides_le {snapshot : Option OfferSnapshot}
    (h : Life qt capabilities snapshot calls) : calls.countP OfferCall.decides ≤ 1 := by
  have hopening (direction : OfferDirection) (offer : TransferOffer) :
      (OfferCall.opening direction offer).decides = false := by
    cases direction <;> rfl
  cases h with
  | idle => exact Nat.zero_le 1
  | opened direction offer =>
    rw [List.countP_singleton, hopening]
    exact Nat.zero_le 1
  | answered hanswers =>
    rw [List.countP_cons_of_neg (by rw [hopening]; nofun)]
    exact List.countP_le_length

/-- After any calls, each offer has had at most one decision, and the snapshot records it. -/
theorem decidedOnce_run (qt : QtText) (capabilities : NegotiatedCapabilities)
    (calls : List OfferCall) :
    DecidedOnce qt capabilities (calls.foldl (OfferRun.step qt) (.start capabilities)) := by
  have hinv : (calls.foldl (OfferRun.step qt) (.start capabilities)).Inv qt capabilities :=
    OfferRun.Inv.run calls
  generalize calls.foldl (OfferRun.step qt) (.start capabilities) = run at hinv
  refine ⟨hinv.life.countP_decides_le, fun snapshot hsnapshot haccepted => ?_,
    fun snapshot hsnapshot => ?_, fun call hresult => ?_⟩
  · have hlife := hinv.life
    rw [hsnapshot] at hlife
    obtain ⟨direction, offer, hhead, hrecorded⟩ := hlife.exists_recorded
    obtain ⟨acceptance, hacceptance⟩ :=
      Option.isSome_iff_exists.mp (hrecorded.accepted.mp haccepted)
    obtain ⟨hid, hpolicy, hfree⟩ := hrecorded.acceptance acceptance hacceptance
    rw [hrecorded.sameDirection]
    exact ⟨offer, acceptance, hhead, hacceptance, hid, hpolicy, hfree⟩
  · have hlife := hinv.life
    rw [hsnapshot] at hlife
    obtain ⟨direction, offer, -, hrecorded⟩ := hlife.exists_recorded
    exact ⟨hrecorded.accepted, hrecorded.rejected⟩
  · rcases @settles_perform qt run.machine call with ⟨-, hmachine⟩ | ⟨hok, -⟩
    · exact hmachine
    · rw [hok] at hresult
      cases hresult

end TransferOfferStateMachine

end DeskflowPlus.Transfer
