import DeskflowPlus.Clipboard.ClipboardChunk

/-!
# Clipboard streams

What one client sends for one clipboard is a stream. Its data arrive only if the stream has the
shared storage for itself from its start message to its end.
-/

namespace DeskflowPlus

open ClipboardChunk

/-- What a client has sent for a clipboard since its last start message. -/
structure ClipboardStream where
  announced : Nat
  data : List UInt8
  deriving DecidableEq

/-- What all clients have sent. The stream that was started last owns the shared storage, until
another stream's data get in or its client goes. -/
structure SentClipboards where
  streams : ClientProxy → ClipboardID → Option ClipboardStream := fun _ _ => none
  owner : Option (ClientProxy × ClipboardID) := none

structure ClipboardReport where
  client : ClientProxy
  message : ClipboardMessage
  data : List UInt8
  sent : Option ClipboardStream

def ClipboardReport.Faithful (report : ClipboardReport) : Prop :=
  report.sent = some ⟨report.data.length, report.data⟩

instance (report : ClipboardReport) : Decidable report.Faithful :=
  inferInstanceAs (Decidable (_ = _))

/-- The clipboards of the clients' proxies with the sequence numbers they came with, the storage all
of them share, and beside these what was sent. -/
structure ClipboardServer where
  clipboard : ClientProxy → ClipboardID → List UInt8 × UInt32 := fun _ _ => ([], 0)
  storage : ClipboardChunk.Storage := {}
  sent : SentClipboards := {}
  reports : List ClipboardReport := []

inductive ClipboardEvent where
  | message (client : ClientProxy) (message : Option ClipboardMessage)
  | disconnected (client : ClientProxy)

namespace SentClipboards

variable (toULong : List UInt8 → Nat)

def setStream (client : ClientProxy) (id : ClipboardID) (stream : ClipboardStream)
    (sent : SentClipboards) : SentClipboards :=
  let own := Function.update (sent.streams client) id (some stream)
  { sent with streams := Function.update sent.streams client own }

def add (client : ClientProxy) (message : ClipboardMessage) (sent : SentClipboards) :
    SentClipboards :=
  if message.mark = ChunkType.dataStart then
    { sent.setStream client message.id ⟨toULong message.data, []⟩ with
      owner := some (client, message.id) }
  else if message.mark = ChunkType.dataChunk then
    let owner := if sent.owner = some (client, message.id) then sent.owner else none
    match sent.streams client message.id with
    | none => { sent with owner }
    | some stream =>
      { sent.setStream client message.id { stream with data := stream.data ++ message.data } with
        owner }
  else sent

def drop (client : ClientProxy) (sent : SentClipboards) : SentClipboards where
  streams := Function.update sent.streams client fun _ => none
  owner := sent.owner.filter (·.1 ≠ client)

end SentClipboards

namespace ClipboardServer

variable (toULong : List UInt8 → Nat)

def recvClipboard (client : ClientProxy) (message : Option ClipboardMessage)
    (server : ClipboardServer) : ClipboardServer :=
  let (result, storage) := assemble toULong message server.storage
  match result, message with
  | .finished, some message =>
    { server with
      storage
      clipboard := Function.update server.clipboard client (Function.update (server.clipboard client)
        message.id (storage.dataCached, message.sequence))
      reports :=
        { client, message, data := storage.dataCached
          sent := server.sent.streams client message.id } :: server.reports }
  | _, _ => { server with storage }

def handle (event : ClipboardEvent) (server : ClipboardServer) : ClipboardServer :=
  match event with
  | .message client none => server.recvClipboard toULong client none
  | .message client (some message) =>
    let server := server.recvClipboard toULong client (some message)
    { server with sent := server.sent.add toULong client message }
  | .disconnected client => { server with sent := server.sent.drop client }

def machine : Machine ClipboardServer ClipboardEvent where
  start server := server = {}
  step server event := some (server.handle toULong event)

def EndsOwn (server : ClipboardServer) : ClipboardEvent → Prop
  | .message client (some message) =>
    message.mark = ChunkType.dataEnd → server.sent.owner = some (client, message.id)
  | _ => True

variable {toULong : List UInt8 → Nat} {server : ClipboardServer} {client : ClientProxy}

def Stored (server : ClipboardServer) : Prop :=
  ∀ client id, server.sent.owner = some (client, id) →
    server.sent.streams client id =
      some ⟨server.storage.expectedSize, server.storage.dataCached⟩

theorem storage_recvClipboard {message : Option ClipboardMessage} :
    (server.recvClipboard toULong client message).storage =
      (assemble toULong message server.storage).2 := by
  unfold recvClipboard
  dsimp only
  split <;> rfl

theorem sent_recvClipboard {message : Option ClipboardMessage} :
    (server.recvClipboard toULong client message).sent = server.sent := by
  unfold recvClipboard
  dsimp only
  split <;> rfl

variable {message : ClipboardMessage}

theorem reports_recvClipboard :
    (server.recvClipboard toULong client (some message)).reports =
      if (assemble toULong (some message) server.storage).1 = .finished then
        { client, message, data := (assemble toULong (some message) server.storage).2.dataCached
          sent := server.sent.streams client message.id } :: server.reports
      else server.reports := by
  unfold recvClipboard
  dsimp only
  split
  · rename_i hresult hmessage
    obtain rfl := Option.some.inj hmessage
    rw [if_pos hresult]
  · rename_i hresult
    exact (if_neg fun hfinished => hresult message hfinished rfl).symm

theorem streams_setStream {sent : SentClipboards} {id : ClipboardID} {stream : ClipboardStream} :
    (sent.setStream client id stream).streams client id = some stream := by
  unfold SentClipboards.setStream
  dsimp only
  rw [Function.update_self, Function.update_self]

theorem Stored.receive (h : server.Stored) :
    (server.handle toULong (.message client (some message))).Stored := by
  have hstorage : (server.handle toULong (.message client (some message))).storage =
    (assemble toULong (some message) server.storage).2 := storage_recvClipboard
  have hsent : (server.handle toULong (.message client (some message))).sent =
      server.sent.add toULong client message := by
    unfold handle
    dsimp only
    rw [sent_recvClipboard]
  unfold Stored
  rw [hstorage, hsent]
  intro owner id howner
  unfold SentClipboards.add at howner ⊢
  unfold assemble
  dsimp only at howner ⊢
  by_cases hstart : message.mark = ChunkType.dataStart
  · rw [if_pos hstart] at howner ⊢
    obtain ⟨rfl, rfl⟩ := Prod.mk.inj (Option.some.inj howner)
    rw [if_pos hstart]
    exact streams_setStream
  rw [if_neg hstart] at howner ⊢
  rw [if_neg hstart]
  by_cases hchunk : message.mark = ChunkType.dataChunk
  · rw [if_pos hchunk] at howner ⊢
    rw [if_pos hchunk]
    -- only the owner's own data leave it the owner
    have hown : server.sent.owner = some (client, message.id) ∧
        some (owner, id) = some (client, message.id) := by
      have hkept : (if server.sent.owner = some (client, message.id) then server.sent.owner
          else none) = some (owner, id) := by
        split at howner <;> exact howner
      split at hkept
      · rename_i hsame
        exact ⟨hsame, hkept.symm.trans hsame⟩
      · cases hkept
    obtain ⟨hsame, heq⟩ := hown
    obtain ⟨rfl, rfl⟩ := Prod.mk.inj (Option.some.inj heq)
    rw [h _ _ hsame]
    exact streams_setStream
  · rw [if_neg hchunk] at howner ⊢
    rw [if_neg hchunk]
    -- neither an end message nor an unknown one changes what is stored
    have hsame : server.storage = (if message.mark = ChunkType.dataEnd then
        if kClipboardEnd ≤ message.id ∨
            server.storage.expectedSize ≠ server.storage.dataCached.length then
          (TransferState.error, server.storage)
        else (.finished, server.storage)
      else (.error, server.storage)).2 := by
      split
      · split <;> rfl
      · rfl
    rw [← hsame]
    exact h owner id howner

theorem Stored.handle {event : ClipboardEvent} (h : server.Stored) :
    (server.handle toULong event).Stored := by
  cases event with
  | message client message =>
    cases message with
    | none => exact h
    | some message => exact h.receive
  | disconnected gone =>
    intro client id howner
    obtain ⟨howner, hother⟩ := Option.filter_eq_some_iff.mp howner
    have hne : client ≠ gone := of_decide_eq_true hother
    have hkept : (server.sent.drop gone).streams client = server.sent.streams client :=
      Function.update_of_ne hne _ _
    show (server.sent.drop gone).streams client id = _
    rw [hkept]
    exact h client id howner

theorem Stored.faithful (h : server.Stored)
    (hfinished : (assemble toULong (some message) server.storage).1 = .finished)
    (howner : server.sent.owner = some (client, message.id)) :
    server.sent.streams client message.id =
      some ⟨server.storage.dataCached.length, server.storage.dataCached⟩ := by
  rw [h client message.id howner, (finished_iff.mp hfinished).2.2]

/-- **Streams.** In every run in which each end message comes on the stream that owns the shared
storage, every clipboard that is reported is what its client sent for it, as long as announced. -/
theorem reports_faithful (toULong : List UInt8 → Nat) (server : ClipboardServer)
    (hserver : (machine toULong).Reachable EndsOwn server) :
    ∀ report ∈ server.reports, report.Faithful := by
  have hinvariant : server.Stored ∧ ∀ report ∈ server.reports, report.Faithful := by
    refine @Machine.Reachable.invariant _ _ _ _
      (fun server => server.Stored ∧ ∀ report ∈ server.reports, report.Faithful)
      (fun first hfirst => ?_) (fun last event next hlast hallowed hstep => ?_) _ hserver
    · obtain rfl : first = {} := hfirst
      exact ⟨nofun, nofun⟩
    · obtain rfl : last.handle toULong event = next := Option.some.inj hstep
      obtain ⟨hstored, hreports⟩ := hlast
      refine ⟨hstored.handle, ?_⟩
      cases event with
      | disconnected => exact hreports
      | message client message =>
        cases message with
        | none => exact hreports
        | some message =>
          show ∀ report ∈ (last.recvClipboard toULong client (some message)).reports, report.Faithful
          rw [reports_recvClipboard]
          split
          · rename_i hfinished
            have hend := (finished_iff.mp hfinished).1
            have hsame : (assemble toULong (some message) last.storage).2 = last.storage := by
              rw [assemble_of_dataEnd hend]
              split <;> rfl
            rw [hsame]
            exact List.forall_mem_cons.mpr
              ⟨hstored.faithful hfinished (hallowed hend), hreports⟩
          · exact hreports
  exact hinvariant.2

section Sample

def sampleToULong (text : List UInt8) : Nat :=
  text.foldl (fun value digit => 10 * value + (digit.toNat - 48)) 0

/-- A clipboard of two bytes, whose size is the text 2. -/
def sampleMessages (first second : UInt8) : List ClipboardMessage :=
  [start 0 0 [50], data 0 0 [first, second], finish 0 0]

def sampleEvents (client : ClientProxy) (messages : List ClipboardMessage) : List ClipboardEvent :=
  messages.map fun message => .message client (some message)

theorem endsOwn_of_mark (hmark : message.mark ≠ ChunkType.dataEnd) :
    server.EndsOwn (.message client (some message)) :=
  fun hend => absurd hend hmark

theorem reports_faithful_alone : ∃ server,
    (machine sampleToULong).exec {} (sampleEvents 1 (sampleMessages 97 98)) = some server ∧
      server.reports.length = 1 ∧ ∀ report ∈ server.reports, report.Faithful := by
  have hstart : EndsOwn {} (.message 1 (some (start 0 0 [50]))) := endsOwn_of_mark (by decide)
  have hdata {server : ClipboardServer} :
      server.EndsOwn (.message 1 (some (data 0 0 [97, 98]))) := endsOwn_of_mark (by decide)
  have hend : (handle sampleToULong (.message 1 (some (data 0 0 [97, 98])))
      (handle sampleToULong (.message 1 (some (start 0 0 [50]))) {})).EndsOwn
        (.message 1 (some (finish 0 0))) := fun _ => rfl
  exact ⟨_, rfl, rfl, reports_faithful sampleToULong _
    ⟨{}, rfl, ((Machine.Run.refl.tail hstart rfl).tail hdata rfl).tail hend rfl⟩⟩

/-- The second client's clipboard begins, with its data, before the first one's end message. -/
theorem reports_mixed : ∃ server,
    (machine sampleToULong).exec {}
      (sampleEvents 1 ((sampleMessages 97 98).take 2) ++
        sampleEvents 2 ((sampleMessages 99 100).take 2) ++
          sampleEvents 1 ((sampleMessages 97 98).drop 2)) = some server ∧
      (server.reports.map fun report => (report.client, report.data, report.sent)) =
        [(1, [99, 100], some ⟨2, [97, 98]⟩)] ∧
      ¬ ∀ report ∈ server.reports, report.Faithful := by
  refine ⟨_, rfl, rfl, fun h => ?_⟩
  exact absurd (h _ List.mem_cons_self) (by decide)

end Sample

end ClipboardServer

end DeskflowPlus
