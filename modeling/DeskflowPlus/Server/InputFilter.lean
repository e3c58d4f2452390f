import DeskflowPlus.Client.KeyMap
import DeskflowPlus.Lib.CopiedVector
import DeskflowPlus.Lib.Run

/-!
# The filter of input events

A rule waits for its condition and performs its actions. While a primary client is set, the hotkey
of each keystroke condition is registered there, and the condition holds the identifier that tells
its events. The rules are kept by value: a rule that is copied clones its condition, and the clone
of a keystroke condition holds no identifier. What a rule does to perform an action is left open.
-/

namespace DeskflowPlus.Server

abbrev ButtonID := UInt8

inductive FilterStatus where
  | noMatch
  | activate
  | deactivate

/-- What conditions look at. -/
inductive FilterEvent where
  | primaryScreenHotkeyDown (id : UInt32)
  | primaryScreenHotkeyUp (id : UInt32)
  | primaryScreenButtonDown (button : ButtonID) (mask : KeyModifierMask)
  | primaryScreenButtonUp (button : ButtonID) (mask : KeyModifierMask)
  | serverConnected (screen : String)
  | other

structure HotKey where
  id : UInt32
  key : KeyID
  mask : KeyModifierMask

/-- A call that a primary client was given; registering a hotkey has the identifier it returned. -/
inductive HotKeyCall where
  | registerHotKey (key : KeyID) (mask : KeyModifierMask) (id : UInt32)
  | unregisterHotKey (id : UInt32)

/-- What the primary client's screen returns for a hotkey, after the calls it was given. -/
abbrev HotKeyScreen := List HotKeyCall → KeyID → KeyModifierMask → UInt32

inductive Condition where
  | keystroke (id : UInt32) (key : KeyID) (mask : KeyModifierMask)
  | mouseButton (button : ButtonID) (mask : KeyModifierMask)
  | screenConnected (screen : String)

namespace Condition

def clone : Condition → Condition
  | .keystroke _ key mask => .keystroke 0 key mask
  | .mouseButton button mask => .mouseButton button mask
  | .screenConnected screen => .screenConnected screen

def ignoreMask : KeyModifierMask :=
  KeyModifierAltGr ||| KeyModifierCapsLock ||| KeyModifierNumLock ||| KeyModifierScrollLock

def «match» : Condition → FilterEvent → FilterStatus
  | .keystroke id _ _, .primaryScreenHotkeyDown hotKey =>
    if hotKey ≠ id then .noMatch else .activate
  | .keystroke id _ _, .primaryScreenHotkeyUp hotKey =>
    if hotKey ≠ id then .noMatch else .deactivate
  | .mouseButton button mask, .primaryScreenButtonDown pressed held =>
    if pressed ≠ button ∨ held &&& ~~~ignoreMask ≠ mask then .noMatch else .activate
  | .mouseButton button mask, .primaryScreenButtonUp pressed held =>
    if pressed ≠ button ∨ held &&& ~~~ignoreMask ≠ mask then .noMatch else .deactivate
  | .screenConnected screen, .serverConnected connected =>
    if screen = connected ∨ screen = "" then .activate else .noMatch
  | _, _ => .noMatch

def enablePrimary (screen : HotKeyScreen) (calls : List HotKeyCall) :
    Condition → Condition × List HotKeyCall
  | .keystroke _ key mask =>
    let id := screen calls key mask
    (.keystroke id key mask, calls ++ [.registerHotKey key mask id])
  | condition => (condition, calls)

def disablePrimary (calls : List HotKeyCall) : Condition → Condition × List HotKeyCall
  | .keystroke id key mask => (.keystroke 0 key mask, calls ++ [.unregisterHotKey id])
  | condition => (condition, calls)

end Condition

structure Rule (Action : Type) where
  condition : Option Condition := none
  activateActions : List Action := []
  deactivateActions : List Action := []

namespace Rule

variable {Action : Type}

def copy (rule : Rule Action) : Rule Action :=
  { rule with condition := rule.condition.map Condition.clone }

def enable (screen : HotKeyScreen) (calls : List HotKeyCall) (rule : Rule Action) :
    Rule Action × List HotKeyCall :=
  match rule.condition with
  | none => (rule, calls)
  | some condition =>
    let enabled := condition.enablePrimary screen calls
    ({ rule with condition := some enabled.1 }, enabled.2)

def disable (calls : List HotKeyCall) (rule : Rule Action) : Rule Action × List HotKeyCall :=
  match rule.condition with
  | none => (rule, calls)
  | some condition =>
    let disabled := condition.disablePrimary calls
    ({ rule with condition := some disabled.1 }, disabled.2)

def handleEvent (event : FilterEvent) (rule : Rule Action) : Option (List Action) :=
  match rule.condition with
  | none => none
  | some condition =>
    match condition.match event with
    | .noMatch => none
    | .activate => some rule.activateActions
    | .deactivate => some rule.deactivateActions

end Rule

structure InputFilter (Action : Type) where
  ruleList : CopiedVector (Rule Action) := .empty
  primaryClient : Option Nat := none
  calls : Nat → List HotKeyCall := fun _ => []

namespace InputFilter

variable {Action : Type} (screen : Nat → HotKeyScreen) (growth : Nat → Nat)

def withCalls (filter : InputFilter Action) (client : Nat) (calls : List HotKeyCall) :
    Nat → List HotKeyCall :=
  fun other => if other = client then calls else filter.calls other

def addFilterRule (rule : Rule Action) (filter : InputFilter Action) : InputFilter Action :=
  let ruleList := filter.ruleList.pushBack Rule.copy growth rule
  match filter.primaryClient with
  | none => { filter with ruleList }
  | some client =>
    let enabled := ruleList.visit (Rule.enable (screen client)) (ruleList.items.length - 1)
      (filter.calls client)
    { filter with ruleList := enabled.1, calls := filter.withCalls client enabled.2 }

def removeFilterRule (index : Nat) (filter : InputFilter Action) : InputFilter Action :=
  match filter.primaryClient with
  | none => { filter with ruleList := filter.ruleList.erase Rule.copy index }
  | some client =>
    let disabled := filter.ruleList.visit Rule.disable index (filter.calls client)
    { filter with
      ruleList := disabled.1.erase Rule.copy index
      calls := filter.withCalls client disabled.2 }

/-- The first half of `setPrimaryClient`. -/
def disableAll (filter : InputFilter Action) : InputFilter Action :=
  match filter.primaryClient with
  | none => filter
  | some client =>
    let disabled := filter.ruleList.forEach Rule.disable (filter.calls client)
    { ruleList := disabled.1, primaryClient := none
      calls := filter.withCalls client disabled.2 }

/-- Its second half, where no client is set. -/
def enableAll (client : Option Nat) (filter : InputFilter Action) : InputFilter Action :=
  match client with
  | none => filter
  | some client =>
    let enabled := filter.ruleList.forEach (Rule.enable (screen client)) (filter.calls client)
    { ruleList := enabled.1, primaryClient := some client
      calls := filter.withCalls client enabled.2 }

def setPrimaryClient (client : Option Nat) (filter : InputFilter Action) : InputFilter Action :=
  if filter.primaryClient = client then filter else filter.disableAll.enableAll screen client

/-- The assignment of another filter's rules; assigning itself does nothing. -/
def assign (source : List (Rule Action)) (filter : InputFilter Action) : InputFilter Action :=
  let cleared := filter.setPrimaryClient screen none
  { cleared with ruleList := cleared.ruleList.assign Rule.copy source }.setPrimaryClient screen
    filter.primaryClient

/-- The actions that the first rule to handle an event performs; if none does, it is passed on. -/
def handleEvent (event : FilterEvent) (filter : InputFilter Action) : Option (List Action) :=
  filter.ruleList.items.findSome? (Rule.handleEvent event)

inductive Edit (Action : Type) where
  | addFilterRule (rule : Rule Action)
  | removeFilterRule (index : Nat)
  | assign (source : List (Rule Action))
  | setPrimaryClient (client : Option Nat)

def step (filter : InputFilter Action) : Edit Action → Option (InputFilter Action)
  | .addFilterRule rule => some (filter.addFilterRule screen growth rule)
  | .removeFilterRule index =>
    if index < filter.ruleList.items.length then some (filter.removeFilterRule index) else none
  | .assign source => some (filter.assign screen source)
  | .setPrimaryClient client => some (filter.setPrimaryClient screen client)

/-- A filter begins without rules and without a client. -/
def machine (Action : Type) : Machine (InputFilter Action) (Edit Action) where
  start filter := filter = {}
  step := step screen growth

end InputFilter

end DeskflowPlus.Server
