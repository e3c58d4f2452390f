import Mathlib.Logic.Function.Basic
import DeskflowPlus.Lib.Run

/-!
# The connections between two peers

Two peers that trust each other each open one connection to the other. Both ends of a connection say
HELLO, answer the other's and announce their capabilities; an end that has finished authenticating a
connection makes it the one to its peer, and closes the one it had.
-/

namespace DeskflowPlus.App

inductive Party where
  | left
  | right
  deriving DecidableEq

def Party.other : Party → Party
  | .left => .right
  | .right => .left

inductive ChannelMessage where
  | hello
  | authResult
  | capabilities
  /-- The end of the stream: nothing follows. -/
  | close

/-- One end of a connection together with its context; a connection goes by the party that opens it.
What its fields say of the peer, the context's peer among them, is set as the peer is authenticated. -/
structure ConnectionEnd where
  begun : Bool := false
  /-- The runtime has a context for it. -/
  attached : Bool := false
  expectedPeer : Bool := false
  encrypted : Bool := false
  peerHelloVerified : Bool := false
  peerAccepted : Bool := false
  authenticated : Bool := false
  negotiated : Bool := false
  closing : Bool := false
  written : List ChannelMessage := []
  /-- How many messages of the other end's log it has read. -/
  heard : Nat := 0

structure PeerRuntime where
  requested : Bool := false
  /-- The connection to the peer. -/
  peerConnection : Option Party := none
  /-- There is a client on its way to the peer. -/
  client : Bool := false
  ends : Party → ConnectionEnd := fun _ => {}
  /-- The connections in the order in which they finished authentication. -/
  finished : List Party := []

namespace PeerRuntime

def setEnd (link : Party) (connection : ConnectionEnd) (p : PeerRuntime) : PeerRuntime :=
  { p with ends := Function.update p.ends link connection }

def attachConnection (link : Party) (expectedPeer : Bool) (p : PeerRuntime) : PeerRuntime :=
  p.setEnd link { p.ends link with begun := true, attached := true, expectedPeer }

def write (link : Party) (message : ChannelMessage) (p : PeerRuntime) : PeerRuntime :=
  p.setEnd link { p.ends link with written := (p.ends link).written ++ [message] }

def close (link : Party) (p : PeerRuntime) : PeerRuntime :=
  if (p.ends link).closing then p
  else (p.setEnd link { p.ends link with closing := true }).write link .close

def removeConnection (link : Party) (p : PeerRuntime) : PeerRuntime :=
  let connection := p.ends link
  if ¬ connection.attached then p
  else
    { p.setEnd link { connection with attached := false } with
      peerConnection :=
        if connection.authenticated ∧ p.peerConnection = some link then none else p.peerConnection
      client := if connection.expectedPeer then false else p.client }

def failConnection (link : Party) (p : PeerRuntime) : PeerRuntime :=
  if (p.ends link).attached then p.close link else p

/-- The newest connection replaces the one there was, whose socket may be disconnected at once. -/
def handleAuthenticated (disconnectsAtOnce : Bool) (link : Party) (p : PeerRuntime) : PeerRuntime :=
  let p :=
    match p.peerConnection with
    | none => p
    | some existing =>
      if existing = link then p
      else
        let p := p.close existing
        if disconnectsAtOnce then p.removeConnection existing else p
  { p with peerConnection := some link }.write link .capabilities

def maybeAuthenticate (disconnectsAtOnce : Bool) (link : Party) (p : PeerRuntime) : PeerRuntime :=
  let connection := p.ends link
  if connection.authenticated ∨ ¬ connection.peerHelloVerified ∨ ¬ connection.peerAccepted then p
  else
    let p := p.setEnd link { connection with authenticated := true }
    { p with finished := p.finished ++ [link] }.handleAuthenticated disconnectsAtOnce link

def handleMessage (disconnectsAtOnce : Bool) (link : Party) (p : PeerRuntime) :
    ChannelMessage → PeerRuntime
  | .hello =>
    if (p.ends link).authenticated ∨ (p.ends link).peerHelloVerified then p.failConnection link
    else
      ((p.setEnd link { p.ends link with peerHelloVerified := true }).write link
        .authResult).maybeAuthenticate disconnectsAtOnce link
  | .authResult =>
    if (p.ends link).authenticated ∨ (p.ends link).peerAccepted then p.failConnection link
    else
      (p.setEnd link { p.ends link with peerAccepted := true }).maybeAuthenticate
        disconnectsAtOnce link
  | .capabilities =>
    if ¬ (p.ends link).authenticated ∨ (p.ends link).negotiated then p.failConnection link
    else p.setEnd link { p.ends link with negotiated := true }
  | .close => p.removeConnection link

def receive (disconnectsAtOnce : Bool) (link : Party) (message : ChannelMessage) (p : PeerRuntime) :
    PeerRuntime :=
  (p.setEnd link { p.ends link with heard := (p.ends link).heard + 1 }).handleMessage
    disconnectsAtOnce link message

def handleEncrypted (link : Party) (p : PeerRuntime) : PeerRuntime :=
  (p.setEnd link { p.ends link with encrypted := true }).write link .hello

/-- A connection that the peer opened comes to the listener with its handshake done. -/
def accept (link : Party) (p : PeerRuntime) : PeerRuntime :=
  (p.attachConnection link false).handleEncrypted link

def connectPeerAt (own : Party) (p : PeerRuntime) : PeerRuntime :=
  let p := { p with requested := true }
  if p.peerConnection.isSome ∨ p.client then p
  else { p with client := true }.attachConnection own true

end PeerRuntime

inductive PeerEvent where
  | connectPeer (side : Party)
  | accept (side : Party)
  | encrypted (side : Party)
  | receive (side link : Party) (disconnectsAtOnce : Bool)
  | disconnected (side link : Party)
  deriving DecidableEq

/-- Two runtimes and the connections between them. -/
abbrev PeerPair := Party → PeerRuntime

namespace PeerPair

def step (s : PeerPair) : PeerEvent → Option PeerPair
  | .connectPeer side =>
    if (s side).requested then none
    else some (Function.update s side ((s side).connectPeerAt side))
  | .accept side =>
    if ((s side.other).ends side.other).begun ∧ ¬ ((s side).ends side.other).begun then
      some (Function.update s side ((s side).accept side.other))
    else none
  | .encrypted side =>
    if ((s side).ends side).attached ∧ ¬ ((s side).ends side).encrypted then
      some (Function.update s side ((s side).handleEncrypted side))
    else none
  | .receive side link disconnectsAtOnce =>
    if ((s side).ends link).attached ∧ ((s side).ends link).encrypted then
      match ((s side.other).ends link).written[((s side).ends link).heard]? with
      | none => none
      | some message =>
        some (Function.update s side ((s side).receive disconnectsAtOnce link message))
    else none
  | .disconnected side link =>
    if ((s side).ends link).attached ∧ ((s side).ends link).closing then
      some (Function.update s side ((s side).removeConnection link))
    else none

/-- Nothing is left to happen. -/
def Quiescent (s : PeerPair) : Prop := ∀ event, s.step event = none

def Converged (s : PeerPair) : Prop :=
  ∃ link, ∀ side, (s side).peerConnection = some link ∧
    ∀ other, ((s side).ends other).attached = true ↔ other = link

end PeerPair

/-- Each peer is told once to connect to the other. -/
def peerMachine : Machine PeerPair PeerEvent where
  start s := s = fun _ => {}
  step := PeerPair.step

end DeskflowPlus.App
