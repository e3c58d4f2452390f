import DeskflowPlus.Transfer.TransferSender

/-!
# The sender pump

The pump moves frames from one sender to a sink, one frame a call. A frame the sink refuses for
backpressure stays with the pump and is offered again before the source is read further.
-/

namespace DeskflowPlus.Transfer

def kDefaultSenderHighWaterBytes : Nat := 16 * 1024 * 1024
def kDefaultSenderLowWaterBytes : Nat := 8 * 1024 * 1024

inductive SenderFrameSinkStatus where
  | accepted
  | backpressured
  | failed
  deriving DecidableEq

structure SenderFrameSinkResult where
  status : SenderFrameSinkStatus := .failed
  diagnostic : String := ""

/-- What a pump sees of a sink: its backlog, and its answer to a frame. -/
structure TransferFrameSink (Sink : Type) where
  queuedBytes : Sink → Nat
  submit : Sink → Frame → SenderFrameSinkResult × Sink

/-- `content` is what a sink holds: it grows by the frames the sink accepts, and by no others. -/
def TransferFrameSink.Holds {Sink : Type} (output : TransferFrameSink Sink)
    (content : Sink → List Frame) : Prop :=
  ∀ sink frame, content (output.submit sink frame).2 = content sink ++
    if (output.submit sink frame).1.status = .accepted then [frame] else []

structure SenderBackpressureLimits where
  highWaterBytes : Nat := kDefaultSenderHighWaterBytes
  lowWaterBytes : Nat := kDefaultSenderLowWaterBytes

inductive SenderPumpStatus where
  | progressed
  | backpressured
  | finished
  | failed
  deriving DecidableEq

structure SenderPumpResult where
  status : SenderPumpStatus := .failed
  senderError : TransferSenderError := .none
  diagnostic : String := ""

structure TransferSenderPump where
  sender : TransferSender
  limits : SenderBackpressureLimits
  pendingFrame : Option Frame := none
  sourcePulls : Nat := 0
  isPaused : Bool := false
  isFailed : Bool := false

namespace TransferSenderPump

def create (request : TransferSenderRequest) (limits : SenderBackpressureLimits) :
    TransferSenderPump :=
  { sender := { request }, limits }

variable {Sink : Type} (output : TransferFrameSink Sink)

def submitPending (pump : TransferSenderPump) (frame : Frame) (sink : Sink) :
    SenderPumpResult × TransferSenderPump × Sink :=
  let pump := { pump with pendingFrame := some frame }
  let (submitted, sink) := output.submit sink frame
  match submitted.status with
  | .accepted =>
    let pump := { pump with pendingFrame := none }
    if pump.sender.finished then ({ status := .finished }, pump, sink)
    else if output.queuedBytes sink ≥ pump.limits.highWaterBytes then
      ({ status := .backpressured }, { pump with isPaused := true }, sink)
    else ({ status := .progressed }, pump, sink)
  | .backpressured =>
    ({ status := .backpressured, diagnostic := submitted.diagnostic },
      { pump with isPaused := true }, sink)
  | .failed =>
    ({ status := .failed, senderError := .protocolError, diagnostic := submitted.diagnostic },
      { pump with isFailed := true }, sink)

variable (qt : QtText) (sha : Sha256)

def sourceFailure (produced : SenderFrameResult) : SenderPumpResult :=
  { status := .failed, senderError := produced.error, diagnostic := produced.diagnostic }

/-- The next frame of the source, which the source shows as `view` during the call. -/
def pullSource (view : SourceView) (pump : TransferSenderPump) (sink : Sink) :
    SenderPumpResult × TransferSenderPump × Sink :=
  let (produced, sender) := pump.sender.nextFrame qt sha view
  let pump := { pump with sender, sourcePulls := pump.sourcePulls + 1 }
  if produced.status = .preparing then ({ status := .progressed }, pump, sink)
  else if produced.status = .finished then ({ status := .finished }, pump, sink)
  else
    match produced.frame with
    | some frame =>
      if produced.ready then submitPending output pump frame sink
      else (sourceFailure produced, { pump with isFailed := true }, sink)
    | none => (sourceFailure produced, { pump with isFailed := true }, sink)

def pump (views : Nat → SourceView) (pump : TransferSenderPump) (sink : Sink) :
    SenderPumpResult × TransferSenderPump × Sink :=
  let queued := output.queuedBytes sink
  if pump.isFailed then
    ({ status := .failed, senderError := .alreadyFinished
       diagnostic := "sender pump is in a terminal failed state" }, pump, sink)
  else if pump.sender.finished ∧ pump.pendingFrame.isNone then
    ({ status := .finished }, pump, sink)
  else if pump.limits.highWaterBytes = 0 ∨
      pump.limits.lowWaterBytes ≥ pump.limits.highWaterBytes then
    ({ status := .failed, senderError := .invalidRequest
       diagnostic := "sender high/low watermarks are invalid" },
      { pump with isFailed := true }, sink)
  else if pump.isPaused ∧ queued > pump.limits.lowWaterBytes then
    ({ status := .backpressured }, pump, sink)
  else
    let pump := { pump with isPaused := false }
    match pump.pendingFrame with
    | some frame => submitPending output pump frame sink
    | none =>
      if queued ≥ pump.limits.highWaterBytes then
        ({ status := .backpressured }, { pump with isPaused := true }, sink)
      else pullSource output qt sha (views pump.sourcePulls) pump sink

/-- Frames pile up, and the backlog always looks empty. -/
def acceptingSink : TransferFrameSink (List Frame) where
  queuedBytes _ := 0
  submit frames frame := ({ status := .accepted }, frames ++ [frame])

def pumpAccepting (views : Nat → SourceView) (request : TransferSenderRequest)
    (limits : SenderBackpressureLimits) : Nat → TransferSenderPump × List Frame
  | 0 => (create request limits, [])
  | calls + 1 =>
    let (pump, frames) := pumpAccepting views request limits calls
    (TransferSenderPump.pump acceptingSink qt sha views pump frames).2

section Calls

variable {Sink : Type} {output : TransferFrameSink Sink} {qt : QtText} {sha : Sha256}

/-- A call leaves the sink alone, offers the held frame again, or pulls from the source. -/
theorem pump_cases (output : TransferFrameSink Sink) (qt : QtText) (sha : Sha256)
    (views : Nat → SourceView) (pump : TransferSenderPump) (sink : Sink) :
    (∃ result isPaused isFailed, (isFailed = false → pump.isFailed = false) ∧
        pump.pump output qt sha views sink = (result, { pump with isPaused, isFailed }, sink)) ∨
      (∃ frame, pump.isFailed = false ∧ pump.pendingFrame = some frame ∧
        pump.pump output qt sha views sink =
          submitPending output { pump with isPaused := false } frame sink) ∨
      (pump.isFailed = false ∧ pump.pendingFrame = none ∧ pump.sender.finished = false ∧
        ¬ (pump.limits.highWaterBytes = 0 ∨
          pump.limits.lowWaterBytes ≥ pump.limits.highWaterBytes) ∧
        pump.pump output qt sha views sink =
          pullSource output qt sha (views pump.sourcePulls) { pump with isPaused := false }
            sink) := by
  unfold TransferSenderPump.pump
  dsimp only
  by_cases hfailed : pump.isFailed
  · exact .inl ⟨_, pump.isPaused, pump.isFailed, id, if_pos hfailed⟩
  rw [if_neg hfailed]
  have hlive : pump.isFailed = false := by simpa using hfailed
  by_cases hdone : pump.sender.finished ∧ pump.pendingFrame.isNone
  · exact .inl ⟨_, pump.isPaused, pump.isFailed, id, if_pos hdone⟩
  rw [if_neg hdone]
  by_cases hlimits : pump.limits.highWaterBytes = 0 ∨
      pump.limits.lowWaterBytes ≥ pump.limits.highWaterBytes
  · exact .inl ⟨_, pump.isPaused, true, (fun h => nomatch h), if_pos hlimits⟩
  rw [if_neg hlimits]
  by_cases hwaiting : pump.isPaused ∧ output.queuedBytes sink > pump.limits.lowWaterBytes
  · exact .inl ⟨_, pump.isPaused, pump.isFailed, id, if_pos hwaiting⟩
  rw [if_neg hwaiting]
  cases hpending : pump.pendingFrame with
  | some frame => exact .inr (.inl ⟨frame, hlive, rfl, rfl⟩)
  | none =>
    have hunfinished : pump.sender.finished = false := by simpa [hpending] using hdone
    by_cases hhigh : output.queuedBytes sink ≥ pump.limits.highWaterBytes
    · refine .inl ⟨{ status := .backpressured }, true, pump.isFailed, id, ?_⟩
      simp [hhigh]
    · refine .inr (.inr ⟨hlive, rfl, hunfinished, hlimits, ?_⟩)
      simp [hhigh]

theorem pullSource_cases (qt : QtText) (sha : Sha256) (view : SourceView)
    (pump : TransferSenderPump) :
    ∃ sender, sender.request = pump.sender.request ∧
      ((∃ result isFailed, (isFailed = false → pump.isFailed = false) ∧
        ∀ (Sink : Type) (output : TransferFrameSink Sink) (sink : Sink),
          pump.pullSource output qt sha view sink =
            (result, { pump with sender, sourcePulls := pump.sourcePulls + 1, isFailed }, sink)) ∨
      ∃ frame, ∀ (Sink : Type) (output : TransferFrameSink Sink) (sink : Sink),
        pump.pullSource output qt sha view sink =
          submitPending output { pump with sender, sourcePulls := pump.sourcePulls + 1 }
            frame sink) := by
  refine ⟨(pump.sender.nextFrame qt sha view).2, TransferSender.nextFrame_request .., ?_⟩
  by_cases hpreparing : (pump.sender.nextFrame qt sha view).1.status = .preparing
  · refine .inl ⟨{ status := .progressed }, pump.isFailed, id, fun Sink output sink => ?_⟩
    simp only [pullSource, hpreparing, if_true]
  by_cases hfinished : (pump.sender.nextFrame qt sha view).1.status = .finished
  · refine .inl ⟨{ status := .finished }, pump.isFailed, id, fun Sink output sink => ?_⟩
    simp only [pullSource, hfinished, reduceCtorEq, if_true, if_false]
  cases hframe : (pump.sender.nextFrame qt sha view).1.frame with
  | none =>
    refine .inl ⟨sourceFailure (pump.sender.nextFrame qt sha view).1, true, (fun h => nomatch h), fun Sink output sink => ?_⟩
    simp only [pullSource, hpreparing, hfinished, hframe, if_false]
  | some frame =>
    by_cases hready : (pump.sender.nextFrame qt sha view).1.ready
    · refine .inr ⟨frame, fun Sink output sink => ?_⟩
      simp only [pullSource, hpreparing, hfinished, hframe, hready, if_true, if_false]
    · refine .inl ⟨sourceFailure (pump.sender.nextFrame qt sha view).1, true, (fun h => nomatch h), fun Sink output sink => ?_⟩
      simp only [pullSource, hpreparing, hfinished, hframe, hready, if_false, Bool.false_eq_true]

end Calls

section Order

variable (qt : QtText) (sha : Sha256) (views : Nat → SourceView) (request : TransferSenderRequest)
  (limits : SenderBackpressureLimits)

/-- The pump is where a sink that takes everything would have it after as many pulls, and the
frames it handed over, with the one it holds, are the frames of that run. -/
structure Mirrors (pump : TransferSenderPump) (handed : List Frame) : Prop where
  limits_eq : pump.limits = limits
  live : pump.isFailed = false →
    (pumpAccepting qt sha views request limits pump.sourcePulls).1 =
      { sender := pump.sender, limits, sourcePulls := pump.sourcePulls }
  frames : (pumpAccepting qt sha views request limits pump.sourcePulls).2 =
    handed ++ pump.pendingFrame.toList

variable {qt sha views request limits}

theorem mirrors_create : Mirrors qt sha views request limits (create request limits) [] where
  limits_eq := rfl
  live _ := rfl
  frames := rfl

theorem Mirrors.setFlags {pump : TransferSenderPump} {handed : List Frame}
    (h : Mirrors qt sha views request limits pump handed) {isPaused isFailed : Bool}
    (hlive : isFailed = false → pump.isFailed = false) :
    Mirrors qt sha views request limits { pump with isPaused, isFailed } handed where
  limits_eq := h.limits_eq
  live hfailed := h.live (hlive hfailed)
  frames := h.frames

variable {Sink : Type} {output : TransferFrameSink Sink} {content : Sink → List Frame}

theorem submitPending_keeps
    (hsink : output.Holds content)
    (pump : TransferSenderPump) (frame : Frame) (sink : Sink) :
    ∃ isPaused isFailed pendingFrame, (isFailed = false → pump.isFailed = false) ∧
      (pump.submitPending output frame sink).2.1 =
        { pump with isPaused, isFailed, pendingFrame } ∧
      content (pump.submitPending output frame sink).2.2 ++ pendingFrame.toList =
        content sink ++ [frame] := by
  have hcontent := hsink sink frame
  unfold TransferSenderPump.submitPending
  dsimp only
  cases hstatus : (output.submit sink frame).1.status with
  | accepted =>
    rw [if_pos hstatus] at hcontent
    dsimp only
    split_ifs
    · exact ⟨_, _, none, id, rfl, by simpa using hcontent⟩
    · exact ⟨_, _, none, id, rfl, by simpa using hcontent⟩
    · exact ⟨_, _, none, id, rfl, by simpa using hcontent⟩
  | backpressured =>
    rw [if_neg (by simp [hstatus]), List.append_nil] at hcontent
    exact ⟨true, _, some frame, id, rfl, by simp [hcontent]⟩
  | failed =>
    rw [if_neg (by simp [hstatus]), List.append_nil] at hcontent
    exact ⟨_, true, some frame, (fun hfailed => nomatch hfailed), rfl, by simp [hcontent]⟩

variable {sink : Sink}

theorem Mirrors.submitPending (hsink : output.Holds content) {pump : TransferSenderPump}
    {frame : Frame} {log : List Frame}
    (h : Mirrors qt sha views request limits { pump with pendingFrame := some frame }
      (log ++ content sink)) :
    Mirrors qt sha views request limits (pump.submitPending output frame sink).2.1
      (log ++ content (pump.submitPending output frame sink).2.2) := by
  obtain ⟨isPaused, isFailed, pendingFrame, hfailed, hpump, hcontent⟩ :=
    submitPending_keeps hsink pump frame sink
  rw [hpump]
  refine ⟨h.limits_eq, fun hlive => h.live (hfailed hlive), ?_⟩
  rw [List.append_assoc, hcontent, ← List.append_assoc]
  exact h.frames

theorem submitPending_accepting {pump : TransferSenderPump} {frame : Frame} {frames : List Frame}
    (hhigh : pump.limits.highWaterBytes ≠ 0) :
    (pump.submitPending acceptingSink frame frames).2 =
      ({ pump with pendingFrame := none }, frames ++ [frame]) := by
  have hroom : ¬ 0 ≥ pump.limits.highWaterBytes := by omega
  unfold TransferSenderPump.submitPending acceptingSink
  dsimp only
  rw [if_neg hroom]
  split_ifs <;> rfl

theorem pumpAccepting_succ {pump : TransferSenderPump} {handed : List Frame}
    (h : Mirrors qt sha views request limits pump handed) (hlive : pump.isFailed = false)
    (hunfinished : pump.sender.finished = false)
    (hlimits : ¬ (pump.limits.highWaterBytes = 0 ∨
      pump.limits.lowWaterBytes ≥ pump.limits.highWaterBytes)) :
    pumpAccepting qt sha views request limits (pump.sourcePulls + 1) =
      (pullSource acceptingSink qt sha (views pump.sourcePulls)
        { sender := pump.sender, limits, sourcePulls := pump.sourcePulls }
        (pumpAccepting qt sha views request limits pump.sourcePulls).2).2 := by
  have hhigh : ¬ 0 ≥ limits.highWaterBytes := by
    rw [h.limits_eq, not_or] at hlimits
    omega
  rw [h.limits_eq] at hlimits
  change (TransferSenderPump.pump acceptingSink qt sha views
    (pumpAccepting qt sha views request limits pump.sourcePulls).1
    (pumpAccepting qt sha views request limits pump.sourcePulls).2).2 = _
  rw [h.live hlive]
  unfold TransferSenderPump.pump
  dsimp only
  rw [if_neg Bool.false_ne_true, if_neg (by simp [hunfinished]), if_neg hlimits,
    if_neg (by simp)]
  exact congrArg Prod.snd (if_neg hhigh)

theorem Mirrors.pullSource (hsink : output.Holds content) {pump : TransferSenderPump}
    {log : List Frame} (h : Mirrors qt sha views request limits pump (log ++ content sink))
    (hidle : pump.isPaused = false) (hlive : pump.isFailed = false)
    (hpending : pump.pendingFrame = none) (hunfinished : pump.sender.finished = false)
    (hlimits : ¬ (pump.limits.highWaterBytes = 0 ∨
      pump.limits.lowWaterBytes ≥ pump.limits.highWaterBytes)) :
    Mirrors qt sha views request limits
      (pump.pullSource output qt sha (views pump.sourcePulls) sink).2.1
      (log ++ content (pump.pullSource output qt sha (views pump.sourcePulls) sink).2.2) := by
  have hnext := pumpAccepting_succ h hlive hunfinished hlimits
  have hframes := h.frames
  rw [hpending, Option.toList_none, List.append_nil] at hframes
  have hreference : pump =
      { sender := pump.sender, limits, sourcePulls := pump.sourcePulls } := by
    have hlimits_eq := h.limits_eq
    cases pump
    simp_all
  rw [← hreference] at hnext
  obtain ⟨sender, -, ⟨result, isFailed, hfailed, hpull⟩ | ⟨frame, hpull⟩⟩ :=
    pullSource_cases qt sha (views pump.sourcePulls) pump
  · rw [hpull] at hnext ⊢
    refine ⟨h.limits_eq, fun hstill => ?_, ?_⟩
    · rw [hnext, hreference]
      dsimp only at hstill
      simp [hstill]
    · rw [hnext, hpending]
      simpa using hframes
  · rw [hpull] at hnext ⊢
    have hhigh : pump.limits.highWaterBytes ≠ 0 := fun hzero => hlimits (.inl hzero)
    rw [submitPending_accepting (by exact hhigh)] at hnext
    refine Mirrors.submitPending hsink ⟨h.limits_eq, fun _ => ?_, ?_⟩
    · rw [hnext, hreference]
    · rw [hnext, hframes]
      rfl

/-- **A sink may refuse as it likes.** One call keeps the frames handed over, with the frame held, in
the order of a run without refusals. -/
theorem Mirrors.pump (hsink : output.Holds content) {pump : TransferSenderPump} {log : List Frame}
    (h : Mirrors qt sha views request limits pump (log ++ content sink)) :
    Mirrors qt sha views request limits (pump.pump output qt sha views sink).2.1
      (log ++ content (pump.pump output qt sha views sink).2.2) := by
  rcases pump_cases output qt sha views pump sink with
    ⟨result, isPaused, isFailed, hfailed, hcall⟩ | ⟨frame, hlive, hpending, hcall⟩ |
    ⟨hlive, hpending, hunfinished, hlimits, hcall⟩
  · rw [hcall]
    exact h.setFlags hfailed
  · rw [hcall]
    refine Mirrors.submitPending hsink ?_
    rw [← hpending]
    exact h.setFlags id
  · rw [hcall]
    exact (h.setFlags id).pullSource hsink rfl hlive hpending hunfinished hlimits

theorem pump_request
    (hsink : output.Holds content)
    (pump : TransferSenderPump) (sink : Sink) :
    (pump.pump output qt sha views sink).2.1.sender.request = pump.sender.request := by
  have hsubmit (pump : TransferSenderPump) (frame : Frame) :
      (pump.submitPending output frame sink).2.1.sender = pump.sender := by
    obtain ⟨isPaused, isFailed, pendingFrame, -, hpump, -⟩ :=
      submitPending_keeps hsink pump frame sink
    rw [hpump]
  rcases pump_cases output qt sha views pump sink with
    ⟨result, isPaused, isFailed, hfailed, hcall⟩ | ⟨frame, hlive, hpending, hcall⟩ |
    ⟨hlive, hpending, hunfinished, hlimits, hcall⟩
  · rw [hcall]
  · rw [hcall, hsubmit]
  · rw [hcall]
    obtain ⟨sender, hrequest, ⟨result, isFailed, hfailed, hpull⟩ | ⟨frame, hpull⟩⟩ :=
      pullSource_cases qt sha (views pump.sourcePulls) { pump with isPaused := false }
    · rw [hpull, hrequest]
    · rw [hpull, hsubmit, hrequest]

theorem held_le_one (hsink : output.Holds content) {pump : TransferSenderPump}
    (hempty : content sink = []) :
    (content (pump.pump output qt sha views sink).2.2).length +
      (pump.pump output qt sha views sink).2.1.pendingFrame.toList.length ≤ 1 := by
  have hsubmit (pump : TransferSenderPump) (frame : Frame) :
      (content (pump.submitPending output frame sink).2.2).length +
        (pump.submitPending output frame sink).2.1.pendingFrame.toList.length ≤ 1 := by
    obtain ⟨isPaused, isFailed, pendingFrame, -, hpump, hcontent⟩ :=
      submitPending_keeps hsink pump frame sink
    have hlength := congrArg List.length hcontent
    rw [hempty, List.length_append] at hlength
    rw [hpump]
    exact hlength.le
  rcases pump_cases output qt sha views pump sink with
    ⟨result, isPaused, isFailed, hfailed, hcall⟩ | ⟨frame, hlive, hpending, hcall⟩ |
    ⟨hlive, hpending, hunfinished, hlimits, hcall⟩
  · rw [hcall, hempty]
    simp [Option.length_toList_le]
  · rw [hcall]
    exact hsubmit _ frame
  · rw [hcall]
    obtain ⟨sender, -, ⟨result, isFailed, hfailed, hpull⟩ | ⟨frame, hpull⟩⟩ :=
      pullSource_cases qt sha (views pump.sourcePulls) { pump with isPaused := false }
    · rw [hpull, hempty]
      simp [Option.length_toList_le]
    · rw [hpull]
      exact hsubmit _ frame

end Order

end TransferSenderPump

end DeskflowPlus.Transfer
