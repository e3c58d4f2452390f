import DeskflowPlus.FileTransport.FileTlsFrameSink

/-!
# The bridge between the sender's worker and the socket's thread

The worker's pump submits into a bridge that holds one frame; the thread that owns the socket drains
it. The bridge refuses a frame for backpressure by what it was last told of the socket's backlog.
-/

namespace DeskflowPlus.App

open Transfer FileTransport

def frameMemoryBytes (frame : Frame) : Nat :=
  let metadataBytes := frame.metadata.length
  let payloadBytes := frame.payload.length
  if metadataBytes > quint64Max - kFixedHeaderBytes ∨
      payloadBytes > quint64Max - kFixedHeaderBytes - metadataBytes then quint64Max
  else kFixedHeaderBytes + metadataBytes + payloadBytes

def senderBackpressureLimits (connection : FileTlsConnection) : SenderBackpressureLimits :=
  let highWaterBytes := connection.writeHighWaterBytes
  { highWaterBytes
    lowWaterBytes :=
      if highWaterBytes = 0 then 0 else min kDefaultSenderLowWaterBytes (highWaterBytes - 1) }

structure SenderFrameBridge where
  limits : SenderBackpressureLimits
  transportQueuedBytes : Nat := 0
  frameBytes : Nat := 0
  frame : Option Frame := none

namespace SenderFrameBridge

def queuedBytes (bridge : SenderFrameBridge) : Nat :=
  if bridge.frameBytes > quint64Max - bridge.transportQueuedBytes then quint64Max
  else bridge.transportQueuedBytes + bridge.frameBytes

def submit (bridge : SenderFrameBridge) (frame : Frame) :
    SenderFrameSinkResult × SenderFrameBridge :=
  let bytes := frameMemoryBytes frame
  if bridge.frame.isSome then
    ({ status := .failed
       diagnostic := "sender frame bridge already contains an undrained frame" }, bridge)
  else if bridge.limits.highWaterBytes = 0 ∨ bytes > bridge.limits.highWaterBytes then
    ({ status := .failed
       diagnostic := "sender frame exceeds the configured TLS write high-water limit" }, bridge)
  else if bridge.transportQueuedBytes > bridge.limits.highWaterBytes - bytes then
    ({ status := .backpressured
       diagnostic := "sender frame bridge is waiting for TLS write capacity" }, bridge)
  else ({ status := .accepted }, { bridge with frame := some frame, frameBytes := bytes })

def sink : TransferFrameSink SenderFrameBridge where
  queuedBytes := queuedBytes
  submit := submit

def updateTransportQueuedBytes (bridge : SenderFrameBridge) (bytes : Nat) : SenderFrameBridge :=
  { bridge with transportQueuedBytes := bytes }

def consumePendingFrame (bridge : SenderFrameBridge) : SenderFrameBridge :=
  { bridge with frame := none, frameBytes := 0 }

def held (bridge : SenderFrameBridge) : List Frame := bridge.frame.toList

theorem sink_holds : sink.Holds held := by
  intro bridge frame
  change (bridge.submit frame).2.held = bridge.held ++
    if (bridge.submit frame).1.status = .accepted then [frame] else []
  by_cases hheld : bridge.frame.isSome
  · simp [submit, hheld]
  by_cases hbytes : bridge.limits.highWaterBytes = 0 ∨
      frameMemoryBytes frame > bridge.limits.highWaterBytes
  · simp [submit, hheld, if_pos hbytes]
  by_cases hqueued :
      bridge.transportQueuedBytes > bridge.limits.highWaterBytes - frameMemoryBytes frame
  · simp [submit, hheld, if_neg hbytes, hqueued]
  · have hempty : bridge.frame = none := by simpa using hheld
    simp [submit, hempty, if_neg hbytes, hqueued, held]

end SenderFrameBridge

structure SenderWorkerState where
  bridge : SenderFrameBridge
  pump : TransferSenderPump
  limits : SenderBackpressureLimits

namespace SenderWorkerState

def create (request : TransferSenderRequest) (limits : SenderBackpressureLimits) :
    SenderWorkerState :=
  { bridge := { limits }, pump := .create request limits, limits }

variable (qt : QtText) (sha : Sha256)

def produce (views : Nat → SourceView) (worker : SenderWorkerState) :
    SenderPumpResult × SenderWorkerState :=
  let (result, pump, bridge) :=
    TransferSenderPump.pump SenderFrameBridge.sink qt sha views worker.pump worker.bridge
  (result, { worker with pump, bridge })

def updateTransportQueuedBytes (worker : SenderWorkerState) (bytes : Nat) : SenderWorkerState :=
  { worker with bridge := worker.bridge.updateTransportQueuedBytes bytes }

def readyToPump (worker : SenderWorkerState) : Bool :=
  !worker.pump.isPaused || worker.bridge.queuedBytes ≤ worker.limits.lowWaterBytes

def pendingFrame (worker : SenderWorkerState) : Option Frame := worker.bridge.frame

def consumePendingFrame (worker : SenderWorkerState) : SenderWorkerState :=
  { worker with bridge := worker.bridge.consumePendingFrame }

end SenderWorkerState

end DeskflowPlus.App
