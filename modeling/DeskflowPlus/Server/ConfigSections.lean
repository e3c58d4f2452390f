import DeskflowPlus.Lib.Checks
import DeskflowPlus.Lib.SortedRows
import DeskflowPlus.Server.ConfigReadContext
import DeskflowPlus.Server.InputFilter
import DeskflowPlus.Server.ScreenNames
import Mathlib.Data.List.Sort

/-!
# The sections of a configuration file

A file has sections of options, screens, links and aliases, each read line by line up to its end.
Options that are none of the known ones are rules of the input filter. What a number in the C library's
notation and a host's address are is left open.
-/

namespace DeskflowPlus

/-- `std::map::insert`, which leaves a value that is there. -/
def ScreenOptions.insert (options : ScreenOptions) (id : OptionID) (value : OptionValue) :
    ScreenOptions :=
  have := List.decidableBAll (fun entry : OptionID × OptionValue => entry.1 ≠ id) options.entries
  if h : ∀ entry ∈ options.entries, entry.1 ≠ id then
    { entries := SortedRows.insert (fun entry => entry.1.toNat) (id, value) options.entries
      sorted := by
        have hrows : SortedRows.Ascending (fun entry => entry.1.toNat) options.entries :=
          options.sorted.imp UInt32.lt_iff_toNat_lt.mp
        have hnew (entry : OptionID × OptionValue) (hentry : entry ∈ options.entries) :
            entry.1.toNat ≠ id.toNat := fun hsame => h entry hentry (UInt32.toNat_inj.mp hsame)
        exact (hrows.insert hnew).imp UInt32.lt_iff_toNat_lt.mpr }
  else options

namespace Config

variable {Fraction : Type}

def addOption (config : Config Fraction) (name : String) (id : OptionID) (value : OptionValue) :
    Config Fraction :=
  if name = "" then { config with globalOptions := config.globalOptions.insert id value }
  else
    match find config.map name with
    | none => config
    | some cell => config.updateCell name { cell with options := cell.options.insert id value }

end Config

namespace Floating

end Floating

open ConfigReadContext KeyMap Checks

inductive LockMode where
  | off
  | on
  | toggle
  deriving DecidableEq

inductive FilterAction where
  | keystroke (info : KeyInfo) (press : Bool)
  | mouseButton (info : ButtonInfo) (press : Bool)
  | switchToScreen (screen : String)
  | switchInDirection (direction : Direction)
  | switchToNextScreen
  | lockCursorToScreen (mode : LockMode)
  | restartServer
  | keyboardBroadcast (mode : LockMode) (screens : List Char)

abbrev FilterRule := Server.Rule FilterAction

/-- All that a file sets. No client of the filter is set while it is read. -/
structure ParsedConfig (Address : Type) where
  config : Config Floating := {}
  address : Option Address := none
  rules : List FilterRule := []
  hasLockToScreenAction : Bool := false

namespace ParsedConfig

variable {Address : Type}

def parseScreen (config : Config Floating) (arg : List Char) (error : String) :
    Except String String :=
  let screen := String.ofList arg
  if config.isScreen screen then .ok (config.canonicalName screen)
  else do
    require (arg = []) error
    .ok screen

def quoted (text : List Char) : String := "\"" ++ String.ofList text ++ "\""

def parseCondition (config : Config Floating) (name : List Char) (args : List (List Char)) :
    Except String Server.Condition :=
  if name = "keystroke".toList then
    match args with
    | [arg] => do
      let info ← parseKeystroke arg []
      .ok (.keystroke 0 info.key info.mask)
    | _ => .error "syntax for condition: keystroke(modifiers+key)"
  else if name = "mousebutton".toList then
    match args with
    | [arg] => do
      let info ← parseMouse arg
      .ok (.mouseButton info.button info.mask)
    | _ => .error "syntax for condition: mousebutton(modifiers+button)"
  else if name = "connect".toList then
    match args with
    | [arg] => do
      let screen ← parseScreen config arg ("unknown screen name " ++ quoted arg ++ " in connect")
      .ok (.screenConnected screen)
    | _ => .error "syntax for condition: connect([screen])"
  else .error ("unknown argument " ++ quoted name)

def insertName (names : List String) (name : String) : List String :=
  if name ∈ names then names else names.orderedInsert (· ≤ ·) name

def parseScreens (config : Config Floating) (text : List Char) : Except String (List String) :=
  (text.splitOn ':').foldlM (fun screens part =>
    let rawName := trim part
    if rawName = [] then .ok screens
    else if rawName = ['*'] then .ok (insertName screens "*")
    else
      let name := config.canonicalName (String.ofList rawName)
      if name = "" then .error ("unknown screen name " ++ quoted rawName)
      else .ok (insertName screens name)) []

def parseMode (arg : List Char) (error : String) : Except String LockMode :=
  if arg = "off".toList then .ok .off
  else if arg = "on".toList then .ok .on
  else if arg = "toggle".toList then .ok .toggle
  else .error error

def parseDirection (arg : List Char) : Option Direction :=
  if arg = "left".toList then some .left
  else if arg = "right".toList then some .right
  else if arg = "up".toList then some .top
  else if arg = "down".toList then some .bottom
  else none

/-- `Rule::adoptAction`. -/
def adoptAction (rule : FilterRule) (action : FilterAction) (onActivation : Bool) : FilterRule :=
  if onActivation then { rule with activateActions := rule.activateActions ++ [action] }
  else { rule with deactivateActions := rule.deactivateActions ++ [action] }

def parseKeyAction (config : Config Floating) (args : List (List Char)) : Except String KeyInfo :=
  match args with
  | [arg] => parseKeystroke arg []
  | [arg, text] => do
    let screens ← parseScreens config text
    parseKeystroke arg screens
  | _ => .error "syntax for action: keystroke(modifiers+key[,screens])"

def parseMouseAction (args : List (List Char)) : Except String ButtonInfo :=
  match args with
  | [arg] => parseMouse arg
  | _ => .error "syntax for action: mousebutton(modifiers+button)"

def parseLockAction (args : List (List Char)) : Except String LockMode :=
  match args with
  | [] => .ok .toggle
  | [arg] => parseMode arg "syntax for action: lockCursorToScreen([\x7boff|on|toggle\x7d])"
  | _ => .error "syntax for action: lockCursorToScreen([\x7boff|on|toggle\x7d])"

def parseBroadcastAction (config : Config Floating) (args : List (List Char)) :
    Except String FilterAction :=
  let error := "syntax for action: keyboardBroadcast([\x7boff|on|toggle\x7d[,screens]])"
  match args with
  | [] => .ok (.keyboardBroadcast .toggle [])
  | [arg] => do
    let mode ← parseMode arg error
    .ok (.keyboardBroadcast mode [])
  | [arg, text] => do
    let mode ← parseMode arg error
    let screens ← parseScreens config text
    .ok (.keyboardBroadcast mode (joinScreens screens))
  | _ => .error error

def parseAction (state : ParsedConfig Address) (action : NameWithArgs) (rule : FilterRule)
    (activate : Bool) : Except String (ParsedConfig Address × FilterRule) :=
  let name := action.name
  let args := action.args
  if name = "keystroke".toList ∨ name = "keyDown".toList ∨ name = "keyUp".toList then do
    let info ← parseKeyAction state.config args
    if name = "keystroke".toList then
      .ok (state, adoptAction (adoptAction rule (.keystroke info true) true) (.keystroke info false) false)
    else .ok (state, adoptAction rule (.keystroke info (name = "keyDown".toList)) activate)
  else if name = "mousebutton".toList ∨ name = "mouseDown".toList ∨ name = "mouseUp".toList then do
    let info ← parseMouseAction args
    if name = "mousebutton".toList then
      .ok (state,
        adoptAction (adoptAction rule (.mouseButton info true) true) (.mouseButton info false) false)
    else .ok (state, adoptAction rule (.mouseButton info (name = "mouseDown".toList)) activate)
  else if name = "switchToScreen".toList then
    match args with
    | [arg] => do
      let screen ← parseScreen state.config arg "unknown screen name in switchToScreen"
      .ok (state, adoptAction rule (.switchToScreen screen) activate)
    | _ => .error "syntax for action: switchToScreen(name)"
  else if name = "switchInDirection".toList then
    match args with
    | [arg] => do
      let direction ← present (parseDirection arg)
        ("unknown direction " ++ quoted arg ++ " in switchToScreen")
      .ok (state, adoptAction rule (.switchInDirection direction) activate)
    | _ => .error "syntax for action: switchInDirection(<left|right|up|down>)"
  else if name = "switchToNextScreen".toList then do
    require (args = []) "syntax for action: switchToNextScreen"
    .ok (state, adoptAction rule .switchToNextScreen activate)
  else if name = "lockCursorToScreen".toList then do
    let mode ← parseLockAction args
    .ok ({ state with hasLockToScreenAction := state.hasLockToScreenAction || mode ≠ .off },
      adoptAction rule (.lockCursorToScreen mode) activate)
  else if name = "restartServer".toList then
    match args with
    | [] => .ok (state, adoptAction rule .restartServer activate)
    | [arg] => do
      require (arg = "restart".toList) "syntax for action: restartServer([\x7brestart\x7d])"
      .ok (state, adoptAction rule .restartServer activate)
    | _ => .error "syntax for action: restartServer([\x7b\x7brestart\x7d\x7d])"
  else if name = "keyboardBroadcast".toList then do
    let action ← parseBroadcastAction state.config args
    .ok (state, adoptAction rule action activate)
  else .error ("unknown action argument " ++ quoted name)

def globalOptions : List (String × OptionID × (List Char → Except String OptionValue)) :=
  [("heartbeat", kOptionHeartbeat, parseInt),
    ("protocol", kOptionProtocol, parseProtocol),
    ("switchCorners", kOptionScreenSwitchCorners, parseCorners),
    ("switchCornerSize", kOptionScreenSwitchCornerSize, parseInt),
    ("switchDelay", kOptionScreenSwitchDelay, parseInt),
    ("switchDoubleTap", kOptionScreenSwitchTwoTap, parseInt),
    ("switchNeedsShift", kOptionScreenSwitchNeedsShift, parseBoolean),
    ("switchNeedsControl", kOptionScreenSwitchNeedsControl, parseBoolean),
    ("switchNeedsAlt", kOptionScreenSwitchNeedsAlt, parseBoolean),
    ("relativeMouseMoves", kOptionRelativeMouseMoves, parseBoolean),
    ("win32KeepForeground", kOptionWin32KeepForeground, parseBoolean),
    ("defaultLockToScreenState", kOptionDefaultLockToScreenState, parseBoolean),
    ("disableLockToScreen", kOptionDisableLockToScreen, parseBoolean),
    ("clipboardSharing", kOptionClipboardSharing, parseBoolean),
    ("clipboardSharingSize", kOptionClipboardSharingSize, parseInt)]

def screenOptions : List (String × OptionID × (List Char → Except String OptionValue)) :=
  [("halfDuplexCapsLock", kOptionHalfDuplexCapsLock, parseBoolean),
    ("halfDuplexNumLock", kOptionHalfDuplexNumLock, parseBoolean),
    ("halfDuplexScrollLock", kOptionHalfDuplexScrollLock, parseBoolean),
    ("shift", kOptionModifierMapForShift, parseModifierKey),
    ("ctrl", kOptionModifierMapForControl, parseModifierKey),
    ("alt", kOptionModifierMapForAlt, parseModifierKey),
    ("altgr", kOptionModifierMapForAltGr, parseModifierKey),
    ("meta", kOptionModifierMapForMeta, parseModifierKey),
    ("super", kOptionModifierMapForSuper, parseModifierKey),
    ("xtestIsXineramaUnaware", kOptionXTestXineramaUnaware, parseBoolean),
    ("switchCorners", kOptionScreenSwitchCorners, parseCorners),
    ("switchCornerSize", kOptionScreenSwitchCornerSize, parseInt),
    ("preserveFocus", kOptionScreenPreserveFocus, parseBoolean)]

def findOption (options : List (String × OptionID × (List Char → Except String OptionValue)))
    (name : List Char) : Option (OptionID × (List Char → Except String OptionValue)) :=
  (options.find? fun entry => entry.1.toList = name).map Prod.snd

def isHandled (name : List Char) : Bool :=
  name = "address".toList ∨ (findOption globalOptions name).isSome

/-- What is parsed of an option: its values up to the semicolon, and those behind it. -/
structure OptionEntry where
  name : NameWithArgs
  values : List NameWithArgs
  deactivation : Option (List NameWithArgs) := none

variable (resolve : List Char → Except String Address)

def readHandled (state : ParsedConfig Address) (name value : List Char) :
    Except String (ParsedConfig Address) :=
  if name = "address".toList then do
    let address ← (resolve value).mapError ("invalid address argument " ++ ·)
    .ok { state with address := some address }
  else do
    let option ← present (findOption globalOptions name) ""
    let parsed ← option.2 value
    .ok { state with config := state.config.addOption "" option.1 parsed }

/-- What the loop over actions leaves. -/
structure ActionsRead (Address : Type) where
  state : ParsedConfig Address
  rule : FilterRule
  values : List NameWithArgs := []
  text : List Char

/-- The loop from the character in front of an action, up to a semicolon if the actions are those of
the activation, in at most so many rounds. -/
def readActions (activate : Bool) :
    Nat → ParsedConfig Address → FilterRule → List Char → Except String (ActionsRead Address)
  | 0, state, rule, text => .ok { state, rule, text }
  | _, state, rule, [] => .ok { state, rule, text := [] }
  | rounds + 1, state, rule, c :: text =>
    if activate ∧ c = ';' then .ok { state, rule, text := c :: text }
    else do
      let (value, behind) ←
        parseNameWithArgs "value" (if activate then [',', ';', '\n'] else [',', '\n']) text
      let (state, rule) ← parseAction state value rule activate
      let read ← readActions activate rounds state rule behind
      .ok { read with values := value :: read.values }

def firstAction (state : ParsedConfig Address) (condition : Server.Condition) (value : NameWithArgs)
    (text : List Char) : Except String (ParsedConfig Address × FilterRule) :=
  if value.name ≠ [] ∨ text.head? ≠ some ';' then
    parseAction state value { condition := some condition } true
  else .ok (state, { condition := some condition })

def readRule (state : ParsedConfig Address) (name value : NameWithArgs) (text : List Char) :
    Except String (OptionEntry × ParsedConfig Address) := do
  -- make filter rule
  let condition ← parseCondition state.config name.name name.args
  -- save first action (if any)
  let (state, rule) ← firstAction state condition value text
  -- get remaining activate actions
  let activation ← readActions true text.length state rule text
  let values := value :: activation.values
  match activation.text with
  | [] => .ok ({ name, values }, { activation.state with rules := activation.state.rules ++ [activation.rule] })
  | _ :: text =>
    match text.dropWhile isBlank with
    -- allow trailing ';'
    | [] =>
      .ok ({ name, values, deactivation := some [] },
        { activation.state with rules := activation.state.rules ++ [activation.rule] })
    | c :: text =>
      -- the loop starts one in front
      let deactivation ←
        readActions false (text.length + 2) activation.state activation.rule (';' :: c :: text)
      .ok ({ name, values, deactivation := some deactivation.values },
        { deactivation.state with rules := deactivation.state.rules ++ [deactivation.rule] })

def readOption (state : ParsedConfig Address) (line : List Char) :
    Except String (OptionEntry × ParsedConfig Address) := do
  let (name, text) ← parseNameWithArgs "name" ['='] line
  let (value, text) ← parseNameWithArgs "value" [',', ';', '\n'] text.tail
  if isHandled name.name then do
    let state ← readHandled resolve state name.name value.name
    -- make sure handled options aren't followed by more values
    require (text.head? ≠ some ',' ∧ text.head? ≠ some ';')
      ("too many arguments for: " ++ String.ofList name.name)
    .ok ({ name, values := [value] }, state)
  else readRule state name value text

def screenHeader (line : List Char) : Option String :=
  if line.getLast? = some ':' then some (String.ofList line.dropLast) else none

/-- The configuration and the screen whose lines are read. -/
abbrev ScreenState (Address : Type) := ParsedConfig Address × String

def readScreenOption (state : ScreenState Address) (line : List Char) :
    Except String (ScreenState Address) := do
  let endsName (c : Char) : Bool := isBlank c ∨ c = '='
  require (line.head?.all (!endsName ·)) "missing argument name"
  let name := line.takeWhile (!endsName ·)
  match (line.dropWhile (!endsName ·)).dropWhile isBlank with
  | [] => .error "missing ="
  | c :: value => do
    require (c = '=') "missing ="
    let option ← present (findOption screenOptions name) ("unknown argument " ++ quoted name)
    let parsed ← option.2 (value.dropWhile isBlank)
    .ok ({ state.1 with config := state.1.config.addOption state.2 option.1 parsed }, state.2)

def readScreen (state : ScreenState Address) (line : List Char) :
    Except String (ScreenState Address) :=
  match screenHeader line with
  | some screen => do
    require (Config.isValidScreenName screen = true) ("invalid screen name \"" ++ screen ++ "\"")
    let added := state.1.config.addScreen screen
    require (added.1 = true) ("duplicate screen name \"" ++ screen ++ "\"")
    .ok ({ state.1 with config := added.2 }, screen)
  | none => do
    require (state.2 ≠ "") "argument before first screen"
    readScreenOption state line

/-- A screen that has been added before. -/
def enterScreen (state : ScreenState Address) (screen : String) :
    Except String (ScreenState Address) := do
  require (state.1.config.isScreen screen = true) ("unknown screen name \"" ++ screen ++ "\"")
  require (state.1.config.isCanonicalName screen = true) "cannot use screen name alias here"
  .ok (state.1, screen)

structure LinkEntry where
  side : NameWithArgs
  screen : NameWithArgs

variable (float : FractionArithmetic Floating) (strtod : List Char → Floating × List Char)

def readLinkEntry (state : ScreenState Address) (line : List Char) :
    Except String (LinkEntry × ScreenState Address) := do
  let (side, text) ← parseNameWithArgs "link" ['='] line
  let (dst, _) ← parseNameWithArgs "screen" [] text.tail
  let srcInterval ← parseInterval strtod (side.args.map String.ofList)
  let dstInterval ← parseInterval strtod (dst.args.map String.ofList)
  let dir ← present (parseDirection side.name) ("unknown side " ++ quoted side.name ++ " in link")
  let dstScreen := String.ofList dst.name
  require (state.1.config.isScreen dstScreen = true) ("unknown screen name " ++ quoted dst.name)
  let connected := state.1.config.connect float state.2 dir srcInterval dstScreen dstInterval
  require (connected.1 = true) "overlapping range"
  .ok ({ side, screen := dst }, { state.1 with config := connected.2 }, state.2)

def readLink (state : ScreenState Address) (line : List Char) :
    Except String (ScreenState Address) :=
  match screenHeader line with
  | some screen => enterScreen state screen
  | none => do
    require (state.2 ≠ "") "argument before first screen"
    let read ← readLinkEntry float strtod state line
    .ok read.2

def readAlias (state : ScreenState Address) (line : List Char) :
    Except String (ScreenState Address) :=
  match screenHeader line with
  | some screen => enterScreen state screen
  | none => do
    require (state.2 ≠ "") "argument before first screen"
    let name := String.ofList line
    require (Config.isValidScreenName name = true) ("invalid screen alias " ++ quoted line)
    let added := state.1.config.addAlias state.2 name
    require (added.1 = true) ("alias " ++ quoted line ++ " is already used")
    .ok ({ state.1 with config := added.2 }, state.2)

def readEntries {State : Type} (entry : State → List Char → Except String State) (name : String) :
    Nat → State → Reading → Except String (State × Reading)
  | 0, _, reading => .error (atLine reading.line ("unexpected end of " ++ name ++ " section"))
  | rounds + 1, state, reading => do
    let (line, reading) ← readLine reading
    match line with
    | none => .error (atLine reading.line ("unexpected end of " ++ name ++ " section"))
    | some line =>
      if line = "end".toList then .ok (state, reading)
      else do
        let state ← (entry state line).mapError (atLine reading.line)
        readEntries entry name rounds state reading

def readAllEntries {State : Type} (entry : State → List Char → Except String State) (name : String)
    (state : State) (reading : Reading) : Except String (State × Reading) :=
  readEntries entry name (reading.lines.length + 1) state reading

def readSectionOptions (state : ParsedConfig Address) (reading : Reading) :
    Except String (ParsedConfig Address × Reading) :=
  readAllEntries (fun state line => (readOption resolve state line).map Prod.snd) "options" state reading

def readSectionOfScreens
    (entry : ScreenState Address → List Char → Except String (ScreenState Address)) (name : String)
    (state : ParsedConfig Address) (reading : Reading) :
    Except String (ParsedConfig Address × Reading) := do
  let (state, reading) ← readAllEntries entry name (state, "") reading
  .ok (state.1, reading)

def readSectionScreens (state : ParsedConfig Address) (reading : Reading) :
    Except String (ParsedConfig Address × Reading) :=
  readSectionOfScreens readScreen "screens" state reading

def readSectionLinks (state : ParsedConfig Address) (reading : Reading) :
    Except String (ParsedConfig Address × Reading) :=
  readSectionOfScreens (readLink float strtod) "links" state reading

def readSectionAliases (state : ParsedConfig Address) (reading : Reading) :
    Except String (ParsedConfig Address × Reading) :=
  readSectionOfScreens readAlias "aliases" state reading

def sectionName (line : List Char) : Except String (List Char) := do
  require ("section:".toList.isPrefixOf line = true) "found data outside section"
  let name := (line.drop 8).dropWhile isBlank
  require (name ≠ []) "section name is missing"
  require (name.all (!isBlank ·) = true) "unexpected data after section name"
  .ok name

def readNamed (name : List Char) (state : ParsedConfig Address) (reading : Reading) :
    Except String (ParsedConfig Address × Reading) :=
  if name = "options".toList then readSectionOptions resolve state reading
  else if name = "screens".toList then readSectionScreens state reading
  else if name = "links".toList then readSectionLinks float strtod state reading
  else if name = "aliases".toList then readSectionAliases state reading
  else .error (atLine reading.line ("unknown section name " ++ quoted name))

def readSection (state : ParsedConfig Address) (reading : Reading) :
    Except String (ParsedConfig Address × Reading) := do
  let (line, reading) ← readLine reading
  match line with
  -- no more sections
  | none => .ok (state, reading)
  | some line => do
    let name ← (sectionName line).mapError (atLine reading.line)
    readNamed resolve float strtod name state reading

def readSections : Nat → ParsedConfig Address → Reading → Except String (ParsedConfig Address)
  | 0, state, _ => .ok state
  | rounds + 1, state, reading =>
    if reading.lines = [] then .ok state
    else do
      let (state, reading) ← readSection resolve float strtod state reading
      readSections rounds state reading

def read (text : List (List Char)) : Except String (ParsedConfig Address) :=
  readSections resolve float strtod (ofText text).lines.length {} (ofText text)

end ParsedConfig

end DeskflowPlus
