import DeskflowPlus.Client.ServerMessages
import DeskflowPlus.Clipboard.ClipboardChunk

/-!
# The handshake of a client

A client that has connected tells its screen before anything else. The handler of its first screen
information changes the parser before it looks at what the client tells, so a first one that is not
valid leaves a client that was never announced in the hands of the parser for announced clients.
-/

namespace DeskflowPlus

def kMsgCNoop : MessageFormat := { code := "CNOP" }
def kMsgDInfo : MessageFormat :=
  { code := "DINF", fields := [.int 2, .int 2, .int 2, .int 2, .int 2, .int 2, .int 2] }
def kMsgCClipboard : MessageFormat := { code := "CCLP", fields := [.int 1, .int 4] }
def kMsgDClipboard : MessageFormat := { code := "DCLP" }

structure ClientInfo where
  m_x : Int := 0
  m_y : Int := 0
  m_w : Int := 0
  m_h : Int := 0
  m_mx : Int := 0
  m_my : Int := 0

inductive ProxyParser where
  | parseHandshakeMessage
  | parseMessage

/-- The acknowledgement is sent to the client, the others are events. -/
inductive ProxyOutput where
  | infoAck
  | ready
  | shapeChanged
  | clipboardGrabbed (id : Nat) (seqNum : Nat)
  | clipboardChanged (id : Nat)
  | disconnected
  deriving DecidableEq

structure ClientProxy1_0 where
  parser : ProxyParser := .parseHandshakeMessage
  info : ClientInfo := {}
  reader : PacketReader := {}
  connected : Bool := true
  outputs : List ProxyOutput := []

namespace ClientProxy1_0

def emit (proxy : ClientProxy1_0) (outputs : List ProxyOutput) : ClientProxy1_0 :=
  { proxy with outputs := proxy.outputs ++ outputs }

/-- The handlers are removed, so nothing more is read. -/
def disconnect (proxy : ClientProxy1_0) : ClientProxy1_0 :=
  { proxy with connected := false }.emit [.disconnected]

/-- As no field is a string, no memory is asked for. -/
def readFields (format : MessageFormat) (reader : PacketReader) : ProtocolUtil.Read (List Argument) :=
  ProtocolUtil.readf (fun _ => true) format.fields reader

/-- A number of 16 bits with its sign. -/
def toInt16 (value : Int) : Int := (value + 0x8000) % 0x10000 - 0x8000

/-- The screen of a message of screen information, if it is valid. -/
def parseInfo (fields : ProtocolUtil.Read (List Argument)) : Option ClientInfo :=
  match fields.failure, fields.value with
  | none, [.int x, .int y, .int w, .int h, .int _, .int mx, .int my] =>
    let (x, y, w, h) := (toInt16 x, toInt16 y, toInt16 w, toInt16 h)
    let (mx, my) := (toInt16 mx, toInt16 my)
    if w ≤ 0 ∨ h ≤ 0 then none
    else if mx < x ∨ x + w ≤ mx ∨ my < y ∨ y + h ≤ my then
      some { m_x := x, m_y := y, m_w := w, m_h := h
             m_mx := toInt16 (x + w / 2), m_my := toInt16 (y + h / 2) }
    else some { m_x := x, m_y := y, m_w := w, m_h := h, m_mx := mx, m_my := my }
  | _, _ => none

def recvInfo (proxy : ClientProxy1_0) : Bool × ClientProxy1_0 :=
  let fields := readFields kMsgDInfo proxy.reader
  match parseInfo fields with
  | none => (false, { proxy with reader := fields.reader })
  | some info => (true, { proxy with reader := fields.reader, info }.emit [.infoAck])

def recvGrabClipboard (proxy : ClientProxy1_0) : Bool × ClientProxy1_0 :=
  let fields := readFields kMsgCClipboard proxy.reader
  match fields.failure, fields.value with
  | none, [.int id, .int seqNum] =>
    if kClipboardEnd.toNat ≤ id then (false, { proxy with reader := fields.reader })
    else (true, { proxy with reader := fields.reader }.emit [.clipboardGrabbed id seqNum])
  | _, _ => (false, { proxy with reader := fields.reader })

/-- Deprecated in protocol 1.0. -/
def recvClipboard (proxy : ClientProxy1_0) : Bool × ClientProxy1_0 := (false, proxy)

def parseHandshakeMessage (code : List UInt8) (proxy : ClientProxy1_0) : Bool × ClientProxy1_0 :=
  if code = kMsgCNoop.codeBytes then (true, proxy)
  else if code = kMsgDInfo.codeBytes then
    -- future messages get parsed by parseMessage
    let (received, proxy) := { proxy with parser := .parseMessage }.recvInfo
    if received then (true, proxy.emit [.ready]) else (false, proxy)
  else (false, proxy)

def parseMessage (code : List UInt8) (proxy : ClientProxy1_0) : Bool × ClientProxy1_0 :=
  if code = kMsgDInfo.codeBytes then
    let (received, proxy) := proxy.recvInfo
    if received then (true, proxy.emit [.shapeChanged]) else (false, proxy)
  else if code = kMsgCNoop.codeBytes then (true, proxy)
  else if code = kMsgCClipboard.codeBytes then proxy.recvGrabClipboard
  else if code = kMsgDClipboard.codeBytes then proxy.recvClipboard
  else (false, proxy)

def parse (code : List UInt8) (proxy : ClientProxy1_0) : Bool × ClientProxy1_0 :=
  match proxy.parser with
  | .parseHandshakeMessage => proxy.parseHandshakeMessage code
  | .parseMessage => proxy.parseMessage code

/-- What a message leaves, of which nothing that is unknown is kept. -/
def handleMessage (code : List UInt8) (proxy : ClientProxy1_0) : ClientProxy1_0 :=
  let (known, proxy) := proxy.parse code
  -- not possible to determine message boundaries
  if known then proxy else { proxy with reader := proxy.reader.discard proxy.reader.size }

def handleMessages : Nat → ClientProxy1_0 → ClientProxy1_0
  | 0, proxy => proxy
  | rounds + 1, proxy =>
    let (code, reader) := proxy.reader.read 4
    if code = [] then proxy
    -- verify we got an entire code
    else if code.length ≠ 4 then { proxy with reader }.disconnect
    else handleMessages rounds ({ proxy with reader }.handleMessage code)

/-- Every round reads something, so there are no more rounds than bytes. -/
def handleData (proxy : ClientProxy1_0) : ClientProxy1_0 :=
  handleMessages (proxy.reader.size + 1) proxy

/-- Packets get ready, or the connection is lost: it is shut down, has an error, or no heartbeat
comes in time. -/
inductive ProxyInput where
  | inputReady (packets : List (List UInt8))
  | lost

def handle (proxy : ClientProxy1_0) (input : ProxyInput) : ClientProxy1_0 :=
  if proxy.connected then
    match input with
    | .inputReady packets => { proxy with reader := proxy.reader.arrive packets }.handleData
    | .lost => proxy.disconnect
  else proxy

/-- Before it is announced, a client is at most disconnected. It is announced when its first screen
information is acknowledged, and never again. -/
def Announces : List ProxyOutput → Prop
  | [] => True
  | .disconnected :: outputs => Announces outputs
  | .infoAck :: .ready :: outputs => .ready ∉ outputs
  | _ => False

structure HandshakeKept (proxy : ClientProxy1_0) : Prop where
  announces : Announces proxy.outputs
  waits : .infoAck ∉ proxy.outputs → proxy.parser = .parseHandshakeMessage ∧ proxy.info = {}

/-- The first screen information among the messages that the parser of the handshake finds, if there
is one, is valid. -/
def FirstInfoValid : Nat → PacketReader → Prop
  | 0, _ => True
  | rounds + 1, reader =>
    let (code, reader) := reader.read 4
    if code.length ≠ 4 then True
    else if code = kMsgCNoop.codeBytes then FirstInfoValid rounds reader
    else if code = kMsgDInfo.codeBytes then
      (parseInfo (readFields kMsgDInfo reader)).isSome = true
    else FirstInfoValid rounds (reader.discard reader.size)

def InfoValid (input : ProxyInput) (proxy : ClientProxy1_0) : Prop :=
  proxy.connected = true → proxy.parser = .parseHandshakeMessage →
    match input with
    | .inputReady packets =>
      FirstInfoValid ((proxy.reader.arrive packets).size + 1) (proxy.reader.arrive packets)
    | .lost => True

variable {proxy : ClientProxy1_0} {code : List UInt8} {outputs more : List ProxyOutput} {rounds : Nat}

/-- What handling a message for an announced client adds. -/
def LaterOutputs (more : List ProxyOutput) : Prop :=
  more = [] ∨ more = [.infoAck, .shapeChanged] ∨ (∃ id seqNum, more = [.clipboardGrabbed id seqNum]) ∨
    more = [.disconnected]

theorem LaterOutputs.ready_not_mem (h : LaterOutputs more) : .ready ∉ more := by
  rcases h with rfl | rfl | ⟨id, seqNum, rfl⟩ | rfl <;> simp

theorem LaterOutputs.not_announces (h : LaterOutputs more) (hack : .infoAck ∈ more) :
    ¬ Announces more := by
  rcases h with rfl | rfl | ⟨clipboard, seqNum, rfl⟩ | rfl
  · cases hack
  · exact id
  · exact id
  · exact absurd hack (by simp)

theorem announces_disconnected (h : ∀ output ∈ outputs, output = .disconnected) :
    Announces (outputs ++ more) ↔ Announces more := by
  induction outputs with
  | nil => exact Iff.rfl
  | cons output outputs ih =>
    obtain ⟨rfl, hrest⟩ := List.forall_mem_cons.mp h
    exact ih hrest

theorem infoAck_not_mem (h : ∀ output ∈ outputs, output = .disconnected) :
    .infoAck ∉ outputs := fun hack => ProxyOutput.noConfusion (h _ hack)

theorem announced_append_iff (h : LaterOutputs more) :
    (Announces (outputs ++ more) ∧ .infoAck ∈ outputs ++ more) ↔
      (Announces outputs ∧ .infoAck ∈ outputs) := by
  induction outputs using Announces.induct with
  | case1 =>
    exact iff_of_false (fun hmore => h.not_announces hmore.2 hmore.1) fun hnone => by cases hnone.2
  | case2 outputs ih =>
    rw [List.cons_append, Announces, Announces, List.mem_cons, List.mem_cons,
      or_iff_right ProxyOutput.noConfusion, or_iff_right ProxyOutput.noConfusion]
    exact ih
  | case3 outputs =>
    rw [List.cons_append, List.cons_append, Announces, Announces, List.mem_append,
      or_iff_left h.ready_not_mem, and_iff_left List.mem_cons_self, and_iff_left List.mem_cons_self]
  | case4 outputs hnil hdisconnected hready =>
    have hnot : ¬ Announces outputs := by
      rw [Announces]
      · exact id
      · exact hnil
      · exact hdisconnected
      · exact hready
    refine iff_of_false (fun hboth => ?_) fun hboth => hnot hboth.1
    rcases outputs with _ | ⟨output, outputs⟩
    · exact hnil rfl
    cases output with
    | disconnected => exact hdisconnected _ rfl
    | infoAck =>
      rcases outputs with _ | ⟨second, outputs⟩
      · rcases more with _ | ⟨second, more⟩
        · exact hboth.1
        · cases second with
          | ready => exact h.ready_not_mem List.mem_cons_self
          | _ => exact hboth.1
      · cases second with
        | ready => exact hready _ rfl
        | _ => exact hboth.1
    | _ => exact hboth.1

theorem parse_parseMessage (hparser : proxy.parser = .parseMessage) :
    (proxy.parse code).2.parser = .parseMessage ∧
      ∃ more, LaterOutputs more ∧ (proxy.parse code).2.outputs = proxy.outputs ++ more := by
  have hnothing : ∃ more, LaterOutputs more ∧ proxy.outputs = proxy.outputs ++ more :=
    ⟨[], .inl rfl, (List.append_nil _).symm⟩
  unfold parse
  rw [hparser]
  dsimp only
  unfold parseMessage
  split_ifs
  · unfold recvInfo
    dsimp only
    split
    · exact ⟨hparser, hnothing⟩
    · refine ⟨hparser, _, .inr (.inl rfl), ?_⟩
      exact List.append_assoc _ _ _
  · exact ⟨hparser, hnothing⟩
  · unfold recvGrabClipboard
    dsimp only
    split
    · split_ifs
      · exact ⟨hparser, hnothing⟩
      · exact ⟨hparser, _, .inr (.inr (.inl ⟨_, _, rfl⟩)), rfl⟩
    · exact ⟨hparser, hnothing⟩
  · exact ⟨hparser, hnothing⟩
  · exact ⟨hparser, hnothing⟩

theorem outputs_handleMessage :
    (proxy.handleMessage code).outputs = (proxy.parse code).2.outputs := by
  unfold handleMessage
  dsimp only
  split_ifs <;> rfl

theorem parser_handleMessage :
    (proxy.handleMessage code).parser = (proxy.parse code).2.parser := by
  unfold handleMessage
  dsimp only
  split_ifs <;> rfl

theorem handleMessages_parseMessage (hparser : proxy.parser = .parseMessage) :
    (handleMessages rounds proxy).parser = .parseMessage ∧
      ((Announces (handleMessages rounds proxy).outputs ∧
          .infoAck ∈ (handleMessages rounds proxy).outputs) ↔
        (Announces proxy.outputs ∧ .infoAck ∈ proxy.outputs)) := by
  induction rounds generalizing proxy with
  | zero => exact ⟨hparser, Iff.rfl⟩
  | succ rounds ih =>
    rw [handleMessages]
    dsimp only
    split_ifs
    · exact ⟨hparser, Iff.rfl⟩
    · exact ⟨hparser, announced_append_iff (.inr (.inr (.inr rfl)))⟩
    · obtain ⟨hsame, more, hlater, houtputs⟩ := @parse_parseMessage
        { proxy with reader := (proxy.reader.read 4).2 } (proxy.reader.read 4).1 hparser
      obtain ⟨hlast, hiff⟩ := ih (parser_handleMessage.trans hsame)
      refine ⟨hlast, hiff.trans ?_⟩
      rw [outputs_handleMessage, houtputs]
      exact announced_append_iff hlater

/-- Nothing valid has come of the client's screen. -/
structure Waiting (proxy : ClientProxy1_0) : Prop where
  parser : proxy.parser = .parseHandshakeMessage
  silent : ∀ output ∈ proxy.outputs, output = .disconnected
  unknown : proxy.info = {}

structure Announced (proxy : ClientProxy1_0) : Prop where
  parser : proxy.parser = .parseMessage
  announces : Announces proxy.outputs
  acknowledged : .infoAck ∈ proxy.outputs

/-- The handshake is over, but the client was not announced properly. -/
structure Abandoned (proxy : ClientProxy1_0) : Prop where
  parser : proxy.parser = .parseMessage
  unannounced : ¬ (Announces proxy.outputs ∧ .infoAck ∈ proxy.outputs)

theorem Waiting.kept (h : Waiting proxy) : HandshakeKept proxy := by
  refine ⟨?_, fun _ => ⟨h.parser, h.unknown⟩⟩
  have hnone := (@announces_disconnected proxy.outputs [] h.silent).mpr trivial
  rwa [List.append_nil] at hnone

theorem Announced.kept (h : Announced proxy) : HandshakeKept proxy :=
  ⟨h.announces, fun hnone => absurd h.acknowledged hnone⟩

theorem Abandoned.not_kept (h : Abandoned proxy) : ¬ HandshakeKept proxy := by
  intro hkept
  refine h.unannounced ⟨hkept.announces, ?_⟩
  by_contra hnone
  exact ProxyParser.noConfusion ((hkept.waits hnone).1.symm.trans h.parser)

theorem Announced.handleMessages (h : Announced proxy) : Announced (handleMessages rounds proxy) := by
  obtain ⟨hparser, hiff⟩ := @handleMessages_parseMessage proxy rounds h.parser
  obtain ⟨hannounces, hack⟩ := hiff.mpr ⟨h.announces, h.acknowledged⟩
  exact ⟨hparser, hannounces, hack⟩

theorem Abandoned.handleMessages (h : Abandoned proxy) :
    Abandoned (handleMessages rounds proxy) := by
  obtain ⟨hparser, hiff⟩ := @handleMessages_parseMessage proxy rounds h.parser
  exact ⟨hparser, fun hboth => h.unannounced (hiff.mp hboth)⟩

theorem Waiting.withReader {reader : PacketReader} (h : Waiting proxy) :
    Waiting { proxy with reader } :=
  ⟨h.parser, h.silent, h.unknown⟩

theorem Waiting.disconnect (h : Waiting proxy) : Waiting proxy.disconnect := by
  refine ⟨h.parser, fun output houtput => ?_, h.unknown⟩
  rcases List.mem_append.mp houtput with houtput | houtput
  · exact h.silent output houtput
  · exact List.mem_singleton.mp houtput

theorem Waiting.announced (h : Waiting proxy)
    (hvalid : (parseInfo (readFields kMsgDInfo proxy.reader)).isSome = true) :
    Announced (proxy.handleMessage kMsgDInfo.codeBytes) := by
  obtain ⟨info, hinfo⟩ := Option.isSome_iff_exists.mp hvalid
  have hparse : proxy.parse kMsgDInfo.codeBytes = (true,
      ({ proxy with
        parser := .parseMessage, info
        reader := (readFields kMsgDInfo proxy.reader).reader }.emit [.infoAck]).emit [.ready]) := by
    unfold parse
    rw [h.parser]
    dsimp only
    unfold parseHandshakeMessage
    rw [if_neg (by decide), if_pos rfl]
    unfold recvInfo
    dsimp only
    rw [hinfo]
    rfl
  unfold handleMessage
  rw [hparse]
  refine ⟨rfl, ?_, ?_⟩
  · show Announces ((proxy.outputs ++ [.infoAck]) ++ [.ready])
    rw [List.append_assoc, announces_disconnected h.silent]
    exact List.not_mem_nil
  · exact List.mem_append_left _ (List.mem_append_right _ List.mem_cons_self)

/-- One that is not valid ends the handshake nevertheless. -/
theorem Waiting.abandoned (h : Waiting proxy)
    (hinvalid : ¬ (parseInfo (readFields kMsgDInfo proxy.reader)).isSome = true) :
    Abandoned (proxy.handleMessage kMsgDInfo.codeBytes) := by
  have hnone : parseInfo (readFields kMsgDInfo proxy.reader) = none :=
    Option.not_isSome_iff_eq_none.mp hinvalid
  have hparse : proxy.parse kMsgDInfo.codeBytes = (false, { proxy with
      parser := .parseMessage, reader := (readFields kMsgDInfo proxy.reader).reader }) := by
    unfold parse
    rw [h.parser]
    dsimp only
    unfold parseHandshakeMessage
    rw [if_neg (by decide), if_pos rfl]
    unfold recvInfo
    dsimp only
    rw [hnone]
    rfl
  unfold handleMessage
  rw [hparse]
  exact ⟨rfl, fun hboth => infoAck_not_mem h.silent hboth.2⟩

theorem Waiting.noop (h : Waiting proxy) : proxy.handleMessage kMsgCNoop.codeBytes = proxy := by
  unfold handleMessage parse
  rw [h.parser]
  rfl

theorem Waiting.other (h : Waiting proxy) (hnoop : code ≠ kMsgCNoop.codeBytes)
    (hinfo : code ≠ kMsgDInfo.codeBytes) : proxy.handleMessage code =
      { proxy with reader := proxy.reader.discard proxy.reader.size } := by
  have hparse : proxy.parse code = (false, proxy) := by
    unfold parse
    rw [h.parser]
    exact (if_neg hnoop).trans (if_neg hinfo)
  unfold handleMessage
  rw [hparse]
  rfl

theorem Waiting.handleMessages (h : Waiting proxy) :
    (FirstInfoValid rounds proxy.reader →
        Waiting (handleMessages rounds proxy) ∨ Announced (handleMessages rounds proxy)) ∧
      (¬ FirstInfoValid rounds proxy.reader → Abandoned (handleMessages rounds proxy)) := by
  induction rounds generalizing proxy with
  | zero => exact ⟨fun _ => .inl h, fun hinvalid => absurd trivial hinvalid⟩
  | succ rounds ih =>
    rw [ClientProxy1_0.handleMessages, FirstInfoValid]
    dsimp only
    by_cases hnone : (proxy.reader.read 4).1 = []
    · rw [if_pos hnone, hnone, if_pos (by decide)]
      exact ⟨fun _ => .inl h, fun hinvalid => absurd trivial hinvalid⟩
    rw [if_neg hnone]
    by_cases hlength : (proxy.reader.read 4).1.length ≠ 4
    · rw [if_pos hlength, if_pos hlength]
      exact ⟨fun _ => .inl h.withReader.disconnect, fun hinvalid => absurd trivial hinvalid⟩
    rw [if_neg hlength, if_neg hlength]
    have hread : Waiting { proxy with reader := (proxy.reader.read 4).2 } := h.withReader
    by_cases hnoop : (proxy.reader.read 4).1 = kMsgCNoop.codeBytes
    · rw [if_pos hnoop, hnoop, hread.noop]
      exact ih hread
    rw [if_neg hnoop]
    by_cases hinfo : (proxy.reader.read 4).1 = kMsgDInfo.codeBytes
    · rw [if_pos hinfo, hinfo]
      exact ⟨fun hvalid => .inr (hread.announced hvalid).handleMessages,
        fun hinvalid => (hread.abandoned hinvalid).handleMessages⟩
    · rw [if_neg hinfo, hread.other hnoop hinfo]
      exact ih hread.withReader

theorem Announced.handle {input : ProxyInput} (h : Announced proxy) :
    Announced (proxy.handle input) := by
  unfold ClientProxy1_0.handle
  split_ifs
  · cases input with
    | inputReady packets =>
      have harrived : Announced { proxy with reader := proxy.reader.arrive packets } :=
        ⟨h.parser, h.announces, h.acknowledged⟩
      exact harrived.handleMessages
    | lost =>
      obtain ⟨hannounces, hack⟩ :=
        (announced_append_iff (.inr (.inr (.inr rfl)))).mpr ⟨h.announces, h.acknowledged⟩
      exact ⟨h.parser, hannounces, hack⟩
  · exact h

theorem Waiting.handle {input : ProxyInput} (h : Waiting proxy) :
    (InfoValid input proxy → Waiting (proxy.handle input) ∨ Announced (proxy.handle input)) ∧
      (¬ InfoValid input proxy → Abandoned (proxy.handle input)) := by
  unfold InfoValid ClientProxy1_0.handle
  by_cases hconnected : proxy.connected = true
  · rw [if_pos hconnected, forall_prop_of_true hconnected, forall_prop_of_true h.parser]
    cases input with
    | inputReady packets => exact h.withReader.handleMessages
    | lost => exact ⟨fun _ => .inl h.disconnect, fun hinvalid => absurd trivial hinvalid⟩
  · rw [if_neg hconnected]
    exact ⟨fun _ => .inl h, fun hinvalid => absurd (fun hyes => absurd hyes hconnected) hinvalid⟩

/-- **Handshakes.** Whatever a client sends, its handshake is kept just if the first screen
information that the handshake's parser finds is always valid. -/
theorem handshakeKept_iff (inputs : List ProxyInput) :
    (∀ before, before <+: inputs → HandshakeKept (before.foldl handle {})) ↔
      Throughout handle InfoValid inputs {} := by
  have hstart : Waiting {} := ⟨rfl, nofun, rfl⟩
  have hgood (proxy : ClientProxy1_0) (h : Waiting proxy ∨ Announced proxy) : HandshakeKept proxy :=
    h.elim Waiting.kept Announced.kept
  refine forall_prefix_iff_throughout hgood ?_ ?_ (.inl hstart)
  · rintro proxy input (h | h) hvalid
    · exact h.handle.1 hvalid
    · exact .inr h.handle
  · rintro proxy input (h | h) hkept
    · by_contra hinvalid
      exact (h.handle.2 hinvalid).not_kept hkept
    · exact fun _ hparser => ProxyParser.noConfusion (hparser.symm.trans h.parser)

/-- A screen without a width, and then one that is valid. -/
def tellsTwice : List ProxyInput :=
  [.inputReady [kMsgDInfo.codeBytes ++ [0, 0, 0, 0, 0, 0, 0, 9, 0, 0, 0, 0, 0, 0]],
    .inputReady [kMsgDInfo.codeBytes ++ [0, 0, 0, 0, 0, 16, 0, 9, 0, 0, 0, 0, 0, 0]]]

/-- The client is never announced, and its screen changes nevertheless. -/
theorem tellsTwice_not_kept :
    ¬ ∀ before, before <+: tellsTwice → HandshakeKept (before.foldl handle {}) := by
  intro h
  have houtputs : (tellsTwice.foldl handle {}).outputs = [.infoAck, .shapeChanged] := by decide
  have hannounces := (h tellsTwice List.prefix_rfl).announces
  rw [houtputs] at hannounces
  exact hannounces

end ClientProxy1_0

end DeskflowPlus
