import DeskflowPlus.FileTransport.FileTlsFrameSink
import DeskflowPlus.Lib.Run
import DeskflowPlus.Transfer.SessionMessageCodec
import DeskflowPlus.Trust.TlsPeerPinningPolicy

/-!
# A file TLS connection

Both ends say HELLO and answer the other's with AUTH_RESULT; a connection is authenticated once it
has verified the peer's HELLO and the peer has accepted its own, in either order. Until then it
takes nothing else, and from then on it hands every other frame to its owner. A connection that
fails is aborted, and reads nothing more.
-/

namespace DeskflowPlus.FileTransport

open Transfer Trust

structure FileTlsSettings where
  protocolLimits : ProtocolLimits := {}
  maxQueuedWriteBytes : Nat := 16 * 1024 * 1024

/-- What happens on a connection, in order: the peer's certificate being read, each frame taken up
with the trust store it meets, and the signals. -/
inductive ConnectionTrace where
  | peerCertificate (digest : QByteArray)
  | handled (trustedDevices : TrustedDeviceStore) (frame : Frame)
  | authenticated
  | frameReceived (frame : Frame)
  | failed (error : FileTlsError) (diagnostic : String)
  | writeCapacityAvailable (queuedBytes : Nat)
  | disconnected
  deriving DecidableEq

/-- The connection's fields; it has failed when there is a failure. -/
structure ConnectionState where
  localDeviceId : DeviceId
  localFingerprint : QByteArray
  settings : FileTlsSettings := {}
  handshakeTimer : Bool := false
  receiveBuffer : QByteArray := []
  peerFingerprint : QByteArray := []
  peerDeviceId : Option DeviceId := none
  peerHelloVerified : Bool := false
  peerAccepted : Bool := false
  authenticated : Bool := false
  failure : Option (FileTlsError × String) := none
  trace : List ConnectionTrace := []

structure SocketAnswers where
  trustedDevices : TrustedDeviceStore := []
  queuedWriteBytes : Nat := 0
  socketAccepts : Bool := true
  sessionId : BitVec 128 := 1
  nowMs : Nat := 1

def mapPinningError : PeerPinningError → FileTlsError
  | .none => .none
  | .unknownPeer => .unknownPeer
  | .revokedPeer => .revokedPeer
  | .fingerprintChanged => .fingerprintChanged
  | .deviceIdMismatch | .unauthenticatedPeer => .notAuthenticated

namespace ConnectionState

variable (env : SocketAnswers)

def failed (c : ConnectionState) : Bool := c.failure.isSome

def emit (event : ConnectionTrace) (c : ConnectionState) : ConnectionState :=
  { c with trace := c.trace ++ [event] }

def fail (error : FileTlsError) (diagnostic : String) (c : ConnectionState) : ConnectionState :=
  if c.failed then c
  else
    { c with failure := some (error, diagnostic), handshakeTimer := false }.emit
      (.failed error diagnostic)

def writeEncoded (settings : FileTlsSettings) (encoded : QByteArray) : Except String Unit :=
  let socket : FileTlsConnection := {
    queuedWriteBytes := env.queuedWriteBytes, socketAccepts := env.socketAccepts
    maxQueuedWriteBytes := settings.maxQueuedWriteBytes }
  match socket.writeEncoded encoded with
  | .error diagnostic => .error diagnostic
  | .ok _ => .ok ()

def writeMessage (settings : FileTlsSettings) (type : MessageType) (flags : UInt32)
    (metadata : Except String QByteArray) : Except String Unit := do
  let metadata ← metadata
  let encoded ← FrameCodec.encode { type, flags, metadata } settings.protocolLimits
  writeEncoded env settings encoded

def start (localDeviceId : DeviceId) (localFingerprint : QByteArray) (settings : FileTlsSettings) :
    ConnectionState :=
  { localDeviceId, localFingerprint, settings, handshakeTimer := true }

def close (c : ConnectionState) : ConnectionState := { c with handshakeTimer := false }

def handleEncrypted (certificate : Option QByteArray) (c : ConnectionState) : ConnectionState :=
  if c.failed ∨ c.peerFingerprint ≠ [] then c
  else
    match certificate with
    | none => c.fail .peerCertificateMissing "file TLS peer did not present a certificate"
    | some digest =>
      let c := { c with peerFingerprint := digest }.emit (.peerCertificate digest)
      if digest.length ≠ 32 then
        c.fail .peerCertificateMissing "file TLS peer certificate has no SHA-256 digest"
      else
        let hello := SessionMessageCodec.encodeHello {
          deviceId := c.localDeviceId, sessionId := env.sessionId
          appVersion := QString.literal "0.1.0"
          supportedMajorVersions := [kProtocolMajorVersion]
          certificateFingerprintSha256 := c.localFingerprint
          timestampMs := env.nowMs }
        match hello with
        | .error encodeError =>
          c.fail .helloInvalid ("could not encode RDFT HELLO: " ++ encodeError)
        | .ok metadata =>
          match writeMessage env c.settings .hello FrameFlag.ackRequired (.ok metadata) with
          | .error encodeError =>
            c.fail .protocolError ("could not send RDFT HELLO: " ++ encodeError)
          | .ok () => c

def maybeAuthenticate (c : ConnectionState) : ConnectionState :=
  if c.authenticated ∨ ¬ c.peerHelloVerified ∨ ¬ c.peerAccepted then c
  else { c with authenticated := true, handshakeTimer := false }.emit .authenticated

def handleAuthResult (frame : Frame) (c : ConnectionState) : ConnectionState :=
  if c.peerAccepted then c.fail .helloInvalid "duplicate RDFT AUTH_RESULT is not allowed"
  else
    match SessionMessageCodec.decodeAuthResult frame.type frame.metadata with
    | .error (_, diagnostic) => c.fail .handshakeFailed diagnostic
    | .ok message =>
      if ¬ message.accepted then
        c.fail .handshakeFailed "file TLS peer rejected authentication"
      else { c with peerAccepted := true }.maybeAuthenticate

def acceptHello (hello : HelloMessage) (c : ConnectionState) : ConnectionState :=
  let c := { c with peerDeviceId := some hello.deviceId, peerHelloVerified := true }
  match writeMessage env c.settings .authResult FrameFlag.response
      (SessionMessageCodec.encodeAuthResult { accepted := true }) with
  | .error encodeError =>
    c.fail .protocolError ("could not send RDFT AUTH_RESULT: " ++ encodeError)
  | .ok () => c.maybeAuthenticate

def handleHello (frame : Frame) (c : ConnectionState) : ConnectionState :=
  if frame.type ≠ .hello ∨ c.peerHelloVerified then
    c.fail .helloInvalid "the file TLS handshake expected one RDFT HELLO"
  else
    match SessionMessageCodec.decodeHello frame.type frame.metadata with
    | .error (_, diagnostic) => c.fail .helloInvalid diagnostic
    | .ok hello =>
      if hello.certificateFingerprintSha256 ≠ c.peerFingerprint then
        c.fail .helloInvalid "RDFT HELLO fingerprint does not match the TLS certificate"
      else
        let pinning :=
          TlsPeerPinningPolicy.verify env.trustedDevices hello.deviceId c.peerFingerprint
        if ¬ pinning.ok then c.fail (mapPinningError pinning.error) pinning.diagnostic
        else c.acceptHello env hello

def handleFrame (frame : Frame) (c : ConnectionState) : ConnectionState :=
  let c := c.emit (.handled env.trustedDevices frame)
  if ¬ c.authenticated then
    if frame.payload ≠ [] ∨ frame.streamId ≠ 0 then
      c.fail .helloInvalid "RDFT handshake frames must use stream zero without payload"
    else if frame.type = .authResult then c.handleAuthResult frame
    else c.handleHello env frame
  else if frame.type = .hello ∨ frame.type = .authResult then
    c.fail .helloInvalid "duplicate RDFT session handshake message is not allowed"
  else c.emit (.frameReceived frame)

def drainFuel : Nat → ConnectionState → ConnectionState
  | 0, c => c
  | fuel + 1, c =>
    if c.receiveBuffer = [] ∨ c.failed then c
    else
      let (result, rest, frame) := FrameCodec.tryDecode c.receiveBuffer {} c.settings.protocolLimits
      match result.status with
      | .needMoreData => c
      | .protocolError => c.fail .protocolError result.diagnostic
      | .frameReady => drainFuel fuel ({ c with receiveBuffer := rest }.handleFrame env frame)

/-- Every frame takes bytes off the buffer, so one turn for each byte is enough. -/
def drain (c : ConnectionState) : ConnectionState := c.drainFuel env c.receiveBuffer.length

def handleReadyRead (available : QByteArray) (c : ConnectionState) : ConnectionState :=
  if c.failed then c
  else
    let buffered := c.receiveBuffer.length
    let maxFrameBytes := c.settings.protocolLimits.maxFrameBytes.toNat
    if buffered > maxFrameBytes ∨ available.length > maxFrameBytes - buffered then
      c.fail .receiveLimitExceeded "file TLS receive buffer exceeded one bounded frame"
    else { c with receiveBuffer := c.receiveBuffer ++ available }.drain env

end ConnectionState

inductive ConnectionEvent where
  | encrypted (certificate : Option QByteArray)
  | readyRead (available : QByteArray)
  | bytesWritten
  | handshakeTimeout
  | errorOccurred (encrypted remoteHostClosed : Bool) (errorString : String)
  | disconnected
  | close

namespace ConnectionState

variable (env : SocketAnswers)

def step (c : ConnectionState) : ConnectionEvent → Option ConnectionState
  | .encrypted certificate => some (c.handleEncrypted env certificate)
  | .readyRead available => some (c.handleReadyRead env available)
  | .bytesWritten => some (c.emit (.writeCapacityAvailable env.queuedWriteBytes))
  | .handshakeTimeout =>
    if c.handshakeTimer then
      some ({ c with handshakeTimer := false }.fail .handshakeTimeout
        "file TLS handshake timed out")
    else none
  | .errorOccurred encrypted remoteHostClosed errorString =>
    some (if c.failed ∨ remoteHostClosed then c
      else
        c.fail (if encrypted then .connectionFailed else .handshakeFailed)
          ("file TLS socket failed: " ++ errorString))
  | .disconnected => some (c.emit .disconnected)
  | .close => some c.close

end ConnectionState

def connectionMachine : Machine ConnectionState (SocketAnswers × ConnectionEvent) where
  start c := ∃ localDeviceId localFingerprint settings,
    c = .start localDeviceId localFingerprint settings
  step c event := c.step event.1 event.2

end DeskflowPlus.FileTransport
