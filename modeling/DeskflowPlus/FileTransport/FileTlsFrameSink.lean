import DeskflowPlus.Transfer.FrameCodec
import DeskflowPlus.Transfer.TransferSenderPump

/-!
# The frame sink of a file TLS connection

A frame is encoded and written whole or not at all. What the socket still has to write, and whether
it takes a write, are its own affair: the model reads both off the connection.
-/

namespace DeskflowPlus.FileTransport

open Transfer

inductive FileTlsError where
  | none
  | invalidIdentity
  | tlsUnavailable
  | listenFailed
  | connectionFailed
  | handshakeTimeout
  | handshakeFailed
  | peerCertificateMissing
  | unknownPeer
  | revokedPeer
  | fingerprintChanged
  | helloInvalid
  | protocolError
  | receiveLimitExceeded
  | writeLimitExceeded
  | notAuthenticated
  deriving DecidableEq

/-- What a connection shows while one frame is sent: `queuedAfterWrite` is the backlog the socket
reports once it took the frame. -/
structure FileTlsConnection where
  authenticated : Bool := true
  queuedWriteBytes : Nat := 0
  maxQueuedWriteBytes : Nat := 16 * 1024 * 1024
  protocolLimits : ProtocolLimits := {}
  socketAccepts : Bool := true
  queuedAfterWrite : Nat := 0

namespace FileTlsConnection

def writeHighWaterBytes (connection : FileTlsConnection) : Nat := connection.maxQueuedWriteBytes

def writeEncoded (connection : FileTlsConnection) (encoded : QByteArray) :
    Except String FileTlsConnection :=
  let pending := connection.queuedWriteBytes
  if encoded.length > connection.maxQueuedWriteBytes ∨
      pending > connection.maxQueuedWriteBytes - encoded.length then
    .error "file TLS write high-water limit exceeded"
  else if ¬ connection.socketAccepts then
    .error "file TLS socket rejected the encoded frame"
  else .ok { connection with queuedWriteBytes := connection.queuedAfterWrite }

def sendFrame (connection : FileTlsConnection) (frame : Frame) :
    Except (FileTlsError × String) FileTlsConnection :=
  if ¬ connection.authenticated then
    .error (.notAuthenticated, "file TLS peer is not authenticated")
  else
    match FrameCodec.encode frame connection.protocolLimits with
    | .error encodeError => .error (.protocolError, encodeError)
    | .ok encoded =>
      if encoded = [] then .error (.protocolError, "")
      else
        match connection.writeEncoded encoded with
        | .error diagnostic => .error (.writeLimitExceeded, diagnostic)
        | .ok connection => .ok connection

end FileTlsConnection

def fileTlsFrameSink : TransferFrameSink FileTlsConnection where
  queuedBytes connection := connection.queuedWriteBytes
  submit connection frame :=
    match connection.sendFrame frame with
    | .ok connection => ({ status := .accepted }, connection)
    | .error (.writeLimitExceeded, diagnostic) =>
      ({ status := .backpressured, diagnostic }, connection)
    | .error (_, diagnostic) => ({ status := .failed, diagnostic }, connection)

end DeskflowPlus.FileTransport
