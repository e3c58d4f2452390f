import DeskflowPlus.Client.MouseCompression
import DeskflowPlus.Stream.PacketReader
import DeskflowPlus.Stream.ProtocolFormat

/-!
# Messages from the server

A message is a code of four bytes and the fields of the code's format. The client reads codes until
no packet is ready, and has each handler read its fields with `readf`. Most handlers do not look at
what `readf` returns, and go on with whatever their variables held.
-/

namespace DeskflowPlus

/-- `%1i`, `%2i` and `%4i`, `%4I`, and `%s`. -/
inductive MessageField where
  | int (size : Nat)
  | vector (size : Nat)
  | string

/-- `readf` reports the first two, and passes the third on. -/
inductive ReadFailure where
  | endOfStream
  | badAlloc
  | badClient
  deriving DecidableEq

namespace ProtocolUtil

/-- A field, or all, read as far as it could be. -/
structure Read (Value : Type) where
  value : Value
  failure : Option ReadFailure := none
  reader : PacketReader

def readInt (size : Nat) (reader : PacketReader) : Read Argument :=
  match reader.readAll size with
  | (none, reader) => { value := .unread, failure := some .endOfStream, reader }
  | (some bytes, reader) => { value := .int (BigEndian.decode bytes), reader }

/-- The loop over the elements of a vector, behind those it already has. -/
def readElements (size : Nat) : Nat → List Nat → PacketReader → Read Argument
  | 0, values, reader => { value := .vector values, reader }
  | count + 1, values, reader =>
    match reader.readAll size with
    | (none, reader) => { value := .vector values, failure := some .endOfStream, reader }
    | (some bytes, reader) =>
      readElements size count (values ++ [BigEndian.decode bytes]) reader

def readVector (size : Nat) (reader : PacketReader) : Read Argument :=
  match reader.readAll 4 with
  | (none, reader) => { value := .unread, failure := some .endOfStream, reader }
  | (some header, reader) =>
    if PROTOCOL_MAX_LIST_LENGTH < BigEndian.decode header then
      { value := .unread, failure := some .badClient, reader }
    else readElements size (BigEndian.decode header) [] reader

variable (allocates : Nat → Bool)

/-- A buffer of fixed size is used if it's big enough. -/
def readBytes (reader : PacketReader) : Read Argument :=
  match reader.readAll 4 with
  | (none, reader) => { value := .unread, failure := some .endOfStream, reader }
  | (some header, reader) =>
    if 128 < BigEndian.decode header ∧ ¬ allocates (BigEndian.decode header) then
      { value := .unread, failure := some .badAlloc, reader }
    else
      match reader.readAll (BigEndian.decode header) with
      | (none, reader) => { value := .unread, failure := some .endOfStream, reader }
      | (some bytes, reader) => { value := .string bytes, reader }

def readField : MessageField → PacketReader → Read Argument
  | .int size => readInt size
  | .vector size => readVector size
  | .string => readBytes allocates

def readf : List MessageField → PacketReader → Read (List Argument)
  | [], reader => { value := [], reader }
  | field :: fields, reader =>
    let read := readField allocates field reader
    match read.failure with
    | some failure =>
      { value := read.value :: fields.map fun _ => .unread
        failure := some failure
        reader := read.reader }
    | none =>
      let rest := readf fields read.reader
      { rest with value := read.value :: rest.value }

end ProtocolUtil

/-- What a handler does when it has read its fields. `acts` is for those that do not look at whether
they could. -/
inductive Handling where
  | acts
  | actsIfRead
  | logs
  | disconnects
  deriving DecidableEq

structure MessageFormat where
  code : String
  fields : List MessageField := []
  handling : Handling := .acts

def MessageFormat.codeBytes (format : MessageFormat) : List UInt8 :=
  format.code.toList.map fun character => UInt8.ofNat character.toNat

namespace MessageParser

def formats : MessageParser → List MessageFormat
  | parseHandshakeMessage =>
    [{ code := "QINF" },
      { code := "CIAK" },
      { code := "DSOP", fields := [.vector 4] },
      { code := "CROP" },
      { code := "CALV" },
      { code := "CNOP", handling := .logs },
      { code := "CBYE", handling := .disconnects },
      { code := "EICV", fields := [.int 2, .int 2], handling := .disconnects },
      { code := "EBSY", handling := .disconnects },
      { code := "EUNK", handling := .disconnects },
      { code := "EBAD", handling := .disconnects },
      { code := "LSYN", fields := [.string] }]
  | parseMessage =>
    [{ code := "DMMV", fields := [.int 2, .int 2] },
      { code := "DMRM", fields := [.int 2, .int 2] },
      { code := "DMWM", fields := [.int 2, .int 2] },
      { code := "DKDN", fields := [.int 2, .int 2, .int 2] },
      { code := "DKDL", fields := [.int 2, .int 2, .int 2, .string] },
      { code := "DKUP", fields := [.int 2, .int 2, .int 2] },
      { code := "DMDN", fields := [.int 1] },
      { code := "DMUP", fields := [.int 1] },
      { code := "DKRP", fields := [.int 2, .int 2, .int 2, .int 2, .string] },
      { code := "CALV" },
      { code := "CNOP", handling := .logs },
      { code := "CINN", fields := [.int 2, .int 2, .int 4, .int 2] },
      { code := "COUT" },
      { code := "CCLP", fields := [.int 1, .int 4] },
      { code := "CSEC", fields := [.int 1] },
      { code := "QINF" },
      { code := "CIAK" },
      { code := "DCLP", fields := [.int 1, .int 4, .int 1, .string], handling := .actsIfRead },
      { code := "CROP" },
      { code := "DSOP", fields := [.vector 4] },
      { code := "SECN", fields := [.string], handling := .logs },
      { code := "CBYE", handling := .disconnects },
      { code := "EBAD", handling := .disconnects }]

def format (parser : MessageParser) (code : List UInt8) : Option MessageFormat :=
  parser.formats.find? fun format => format.codeBytes = code

end MessageParser

/-- A message as its handler takes it. -/
structure HandlerCall where
  code : String
  arguments : List Argument
  deriving DecidableEq

/-- The part of `ServerProxy` that takes messages apart, with the calls of its handlers that do
something, first one first. -/
structure MessageProxy where
  parser : MessageParser := .parseHandshakeMessage
  calls : List HandlerCall := []
  connected : Bool := true

namespace MessageProxy

def disconnect (proxy : MessageProxy) : MessageProxy := { proxy with connected := false }

def call (proxy : MessageProxy) (format : MessageFormat) (arguments : List Argument) :
    MessageProxy :=
  { proxy with
    calls := proxy.calls ++ [{ code := format.code, arguments }]
    -- the options complete the handshake
    parser := if format.code = "DSOP" then .parseMessage else proxy.parser }

def handle (proxy : MessageProxy) (format : MessageFormat) (arguments : List Argument)
    (failure : Option ReadFailure) : MessageProxy :=
  match format.handling with
  | .acts => proxy.call format arguments
  | .actsIfRead => if failure = none then proxy.call format arguments else proxy
  | .logs => proxy
  | .disconnects => proxy.disconnect

variable (allocates : Nat → Bool)

def handleMessages : Nat → MessageProxy → PacketReader → MessageProxy × PacketReader
  | 0, proxy, reader => (proxy, reader)
  | rounds + 1, proxy, reader =>
    let (code, behindCode) := reader.read 4
    if code = [] then (proxy, reader)
    -- verify we got an entire code
    else if code.length ≠ 4 then (proxy.disconnect, behindCode)
    else
      match proxy.parser.format code with
      | none =>
        -- read the whole stream to discard unknown data
        handleMessages rounds proxy (behindCode.discard behindCode.size)
      | some format =>
        let message := ProtocolUtil.readf allocates format.fields behindCode
        if message.failure = some .badClient then (proxy.disconnect, message.reader)
        else
          let handled := proxy.handle format message.value message.failure
          if handled.connected then handleMessages rounds handled message.reader
          else (handled, message.reader)

/-- Every round reads something, so there are no more rounds than bytes. -/
def handleData (proxy : MessageProxy) (reader : PacketReader) : MessageProxy × PacketReader :=
  handleMessages allocates (reader.size + 1) proxy reader

def inputReady (client : MessageProxy × PacketReader) (packets : List (List UInt8)) :
    MessageProxy × PacketReader :=
  if client.1.connected then client.1.handleData allocates (client.2.arrive packets) else client

def receive (proxy : MessageProxy) (portions : List (List (List UInt8))) : MessageProxy :=
  (portions.foldl (inputReady allocates) (proxy, {})).1

end MessageProxy

end DeskflowPlus
