import DeskflowPlus.Server.Config
import DeskflowPlus.Server.Server
import Mathlib.Data.List.Dedup
import Mathlib.Data.List.Sort

/-!
# Reloading the configuration

The server and the application that loads its configuration share one configuration object: a reload
overwrites it in place, and only then does the server close the clients that are gone from it and
process its options.
-/

namespace DeskflowPlus

structure ServerOptions where
  protocol : Int32 := 1
  switchWaitDelay : Nat := 0
  switchTwoTapDelay : Nat := 0
  switchNeedsShift : Bool := false
  switchNeedsControl : Bool := false
  switchNeedsAlt : Bool := false
  relativeMoves : Bool := false
  defaultLockToScreenState : Bool := false
  disableLockToScreen : Bool := false
  enableClipboard : Bool := true
  maximumClipboardSize : Nat := 2 ^ 31 - 1

/-- `NetworkProtocol::Unknown`. Barrier is 1, Synergy 0. -/
def NetworkProtocol.unknown : Int32 := -1

namespace ServerOptions

def processOption (state : ServerOptions × Server) (option : OptionID × OptionValue) :
    Option (ServerOptions × Server) :=
  let (options, server) := state
  let (id, value) := option
  if id = kOptionProtocol then
    if value = NetworkProtocol.unknown then none else some ({ options with protocol := value }, server)
  else if id = kOptionScreenSwitchDelay then
    some ({ options with switchWaitDelay := value.toInt.toNat }, server.stopSwitchWait)
  else if id = kOptionScreenSwitchTwoTap then
    some ({ options with switchTwoTapDelay := value.toInt.toNat }, server.stopSwitchTwoTap)
  else if id = kOptionScreenSwitchNeedsControl then
    some ({ options with switchNeedsControl := value ≠ 0 }, server)
  else if id = kOptionScreenSwitchNeedsShift then
    some ({ options with switchNeedsShift := value ≠ 0 }, server)
  else if id = kOptionScreenSwitchNeedsAlt then
    some ({ options with switchNeedsAlt := value ≠ 0 }, server)
  else if id = kOptionRelativeMouseMoves then
    some ({ options with relativeMoves := value ≠ 0 }, server)
  else if id = kOptionDefaultLockToScreenState then
    some ({ options with defaultLockToScreenState := value ≠ 0 }, server)
  else if id = kOptionDisableLockToScreen then
    some ({ options with disableLockToScreen := value ≠ 0 }, server)
  else if id = kOptionClipboardSharing then
    some ({ options with enableClipboard := value ≠ 0 }, server)
  else if id = kOptionClipboardSharingSize then
    some ({ options with maximumClipboardSize := value.toInt.toNat }, server)
  else some (options, server)

end ServerOptions

namespace Config

variable {Fraction : Type} (float : FractionArithmetic Fraction)

def toServerConfig (config : Config Fraction) (options : ServerOptions) : ServerConfig Fraction where
  canonicalName := config.getCanonicalName
  neighbor := config.getNeighbor float
  switchCorners := config.switchCorners
  switchWaitDelay := options.switchWaitDelay
  switchTwoTapDelay := options.switchTwoTapDelay
  switchNeedsShift := options.switchNeedsShift
  switchNeedsControl := options.switchNeedsControl
  switchNeedsAlt := options.switchNeedsAlt
  relativeMoves := options.relativeMoves
  defaultLockToScreenState := options.defaultLockToScreenState
  disableLockToScreen := options.disableLockToScreen
  toFraction offset extent :=
    float.div (float.add (float.ofInt offset) float.half) (float.ofInt extent)
  toPixel fraction extent := float.truncate (float.mul fraction (float.ofInt extent))

end Config

/-- The server with its configuration, and what does not change: the arithmetic of positions, the
primary screen and the name each proxy was made with. -/
structure ServerSite (Fraction : Type) where
  float : FractionArithmetic Fraction
  primaryClient : ClientProxy
  clientName : ClientProxy → String

structure ConfiguredServer (Fraction : Type) where
  config : Config Fraction
  options : ServerOptions := {}
  server : Server

namespace ServerSite

variable {Fraction : Type} (site : ServerSite Fraction)

def setup (config : Config Fraction) (options : ServerOptions) : ServerSetup Fraction where
  toServerConfig := config.toServerConfig site.float options
  primaryClient := site.primaryClient
  clientName := site.clientName

end ServerSite

namespace ConfiguredServer

variable {Fraction : Type} (site : ServerSite Fraction) (io : ServerIo)

def setup (configured : ConfiguredServer Fraction) : ServerSetup Fraction :=
  site.setup configured.config configured.options

/-- The options keep what they were unless they are set, but for the modifiers. -/
def processOptions (configured : ConfiguredServer Fraction) : Option (ConfiguredServer Fraction) :=
  let options : ServerOptions :=
    { configured.options with
      switchNeedsShift := false, switchNeedsControl := false, switchNeedsAlt := false }
  (configured.config.globalOptions.entries.foldlM ServerOptions.processOption
      (options, configured.server)).map fun (options, server) =>
    { configured with
      options
      server :=
        if configured.options.relativeMoves ∧ ¬ options.relativeMoves then
          server.stopRelativeMoves (configured.setup site) io
        else server }

/-- The set of the clients that are being dropped, or whose canonical names change, but for the
primary. -/
def removedClients (configured : ConfiguredServer Fraction) (config : Config Fraction) :
    List ClientProxy :=
  let removed := configured.server.clients.filter fun entry => !config.isCanonicalName entry.1
  (((removed.map (·.2)).filter (· ≠ site.primaryClient)).dedup).insertionSort (· ≤ ·)

def closeClients (configured : ConfiguredServer Fraction) (config : Config Fraction) :
    ConfiguredServer Fraction :=
  { configured with
    server := (configured.removedClients site config).foldl
      (fun server client => server.closeClient (configured.setup site) io client)
      configured.server }

/-- Refused without the primary screen; no answer if an option throws. The configuration is the
server's own. -/
def setConfig (config : Config Fraction) (configured : ConfiguredServer Fraction) :
    Option (Bool × ConfiguredServer Fraction) :=
  if ¬ config.isScreen (site.clientName site.primaryClient) then some (false, configured)
  else (processOptions site io (configured.closeClients site io config)).map (true, ·)

/-- `ServerApp::reloadConfig`, once the file is read: into the object that the server uses. -/
def reloadConfig (config : Config Fraction) (configured : ConfiguredServer Fraction) :
    Option (ConfiguredServer Fraction) :=
  (({ configured with config } : ConfiguredServer Fraction).setConfig site io config).map (·.2)

end ConfiguredServer

end DeskflowPlus
