import DeskflowPlus.Client.KeyNames
import DeskflowPlus.Server.ConfigIntervals

/-!
# Reading a configuration file

The text is read by lines, of which those that are empty without their comments are passed over. A
line is taken apart from its start: a name with its arguments is read, and the reader of the line goes
on from where that stopped.
-/

namespace DeskflowPlus

namespace ConfigReadContext

open KeyMap

/-- Also the end of a line in a text with carriage returns. -/
def isTrailing (c : Char) : Bool := isBlank c ∨ c = '\r'

def stripLine (line : List Char) : List Char :=
  -- strip leading whitespace
  let line := if line.all isBlank then line else line.dropWhile isBlank
  -- strip comments and then trailing whitespace
  let line := line.takeWhile (· ≠ '#')
  if line.all isTrailing then line else line.rdropWhile isTrailing

def numberedLines (number : Nat) : List (List Char) → List (Nat × List Char)
  | [] => []
  | line :: text =>
    if stripLine line = [] then numberedLines (number + 1) text
    else (number, stripLine line) :: numberedLines (number + 1) text

structure Reading where
  lines : List (Nat × List Char)
  line : Nat := 0
  endLine : Nat
  deriving DecidableEq

def ofText (text : List (List Char)) : Reading :=
  { lines := numberedLines 1 text, endLine := text.length + 1 }

/-- `ServerConfigReadException`. -/
def atLine (line : Nat) (error : String) : String := "line " ++ toString line ++ ": " ++ error

/-- `%#2x` of a signed character. -/
def hexText (c : Char) : String :=
  let code := if c.toNat < 0x80 then c.toNat else 0xffffff00 + c.toNat
  if code = 0 then " 0" else "0x" ++ String.ofList (Nat.toDigits 16 code)

def isAllowed (c : Char) : Bool := isGraph c ∨ isBlank c

def readLine (reading : Reading) : Except String (Option (List Char) × Reading) :=
  match reading.lines with
  | [] => .ok (none, { reading with line := reading.endLine })
  | (line, text) :: lines =>
    -- make sure there are no invalid characters
    match text.find? (!isAllowed ·) with
    | some c => .error (atLine line ("invalid character " ++ hexText c))
    | none => .ok (some text, { reading with lines, line })

structure NameWithArgs where
  name : List Char
  args : List (List Char) := []

/-- An argument of nothing but blanks stays. -/
def trimArg (arg : List Char) : List Char := if arg.all isBlank then arg else trim arg

/-- The arguments up to the closing parenthesis and what is behind it, with the part of an argument
that was read. -/
def parseArgs (arg : List Char) : List Char → Option (List (List Char) × List Char)
  | [] => none
  | c :: text =>
    if c = ')' then some ([trimArg arg], text)
    else if c = ',' then (parseArgs [] text).map fun parsed => (trimArg arg :: parsed.1, parsed.2)
    else parseArgs (arg ++ [c]) text

/-- Whether it is not okay to not find a delimiter. -/
def needsDelimiter (delim : List Char) : Bool := delim ≠ [] ∧ '\n' ∉ delim

def endsName (delim : List Char) (c : Char) : Bool := isBlank c ∨ c = '(' ∨ c ∈ delim

def behindName (delim text : List Char) : List Char :=
  ((text.dropWhile isBlank).dropWhile (!endsName delim ·)).dropWhile isBlank

def missing (delim : List Char) : String := "missing " ++ String.ofList (delim.take 1)

def parseNameWithArgs (type : String) (delim text : List Char) :
    Except String (NameWithArgs × List Char) :=
  if text.dropWhile isBlank = [] then .error ("missing " ++ type)
  else
    let name := (text.dropWhile isBlank).takeWhile (!endsName delim ·)
    match behindName delim text with
    | [] => if needsDelimiter delim then .error (missing delim) else .ok ({ name }, [])
    | c :: behind =>
      -- no arguments
      if c ≠ '(' then .ok ({ name }, c :: behind)
      else
        match parseArgs [] behind with
        | none => .error "missing )"
        | some (args, behind) =>
          match behind.dropWhile isBlank with
          | [] => if needsDelimiter delim then .error (missing delim) else .ok ({ name, args }, [])
          | c :: behind =>
            -- verify delimiter
            if needsDelimiter delim ∧ c ∉ delim then
              .error ("expected " ++ String.ofList (delim.take 1))
            else .ok ({ name, args }, c :: behind)

def parseNamed (table : List (String × OptionValue)) (error : String) (arg : List Char) :
    Except String OptionValue :=
  match findName table arg with
  | some value => .ok value
  | none => .error (error ++ " \"" ++ String.ofList arg ++ "\"")

def parseBoolean : List Char → Except String OptionValue :=
  parseNamed [("true", 1), ("false", 0)] "invalid boolean argument"

/-- `strtol` with base 10, where `long` has 64 bits. -/
def strtol (text : List Char) : Int × List Char :=
  let signed := splitSign (text.dropWhile isSpace)
  let digits := signed.2.takeWhile Char.isDigit
  if digits = [] then (0, text)
  else
    let number : Int := digits.foldl (fun n c => 10 * n + (c.toNat - 48)) 0
    (max (-2 ^ 63) (min (if signed.1 then -number else number) (2 ^ 63 - 1)),
      signed.2.dropWhile Char.isDigit)

def parseInt (arg : List Char) : Except String OptionValue :=
  let parsed := strtol arg
  if parsed.2 ≠ [] then .error ("invalid integer argument \"" ++ String.ofList arg ++ "\"")
  else if parsed.1 < -2 ^ 31 ∨ 2 ^ 31 ≤ parsed.1 then
    .error ("integer argument \"" ++ String.ofList arg ++ "\" out of range")
  else .ok (Int32.ofInt parsed.1)

def parseModifierKey : List Char → Except String OptionValue :=
  parseNamed [("shift", 1), ("ctrl", 2), ("alt", 3), ("altgr", 6), ("meta", 4), ("super", 5),
    ("none", 0)] "invalid argument"

def s_topLeftCornerMask : OptionValue := 1
def s_topRightCornerMask : OptionValue := 2
def s_bottomLeftCornerMask : OptionValue := 4
def s_bottomRightCornerMask : OptionValue := 8
def s_allCornersMask : OptionValue := 15

def parseCorner : List Char → Except String OptionValue :=
  parseNamed [("left", s_topLeftCornerMask ||| s_bottomLeftCornerMask),
    ("right", s_topRightCornerMask ||| s_bottomRightCornerMask),
    ("top", s_topLeftCornerMask ||| s_topRightCornerMask),
    ("bottom", s_bottomLeftCornerMask ||| s_bottomRightCornerMask),
    ("top-left", s_topLeftCornerMask), ("top-right", s_topRightCornerMask),
    ("bottom-left", s_bottomLeftCornerMask), ("bottom-right", s_bottomRightCornerMask),
    ("none", 0), ("all", s_allCornersMask)] "invalid argument"

/-- `Synergy` and `Barrier`. -/
def parseProtocol : List Char → Except String OptionValue :=
  parseNamed [("synergy", 0), ("barrier", 1)] "invalid protocol argument"

/-- The loop over the corners behind the first one, in at most so many rounds. -/
def parseCornersFrom : Nat → OptionValue → List Char → Except String OptionValue
  | 0, corners, _ => .ok corners
  | rounds + 1, corners, args =>
    match args.dropWhile isBlank with
    | [] => .ok corners
    | operator :: args =>
      if operator ≠ '-' ∧ operator ≠ '+' then
        .error ("invalid corner operator \"" ++ String.singleton operator ++ "\"")
      else
        let args := args.dropWhile isBlank
        if args = [] then .error "missing corner argument"
        else
          (parseCorner (args.takeWhile (!isBlank ·))).bind fun corner =>
            let corners := if operator = '+' then corners ||| corner else corners &&& ~~~corner
            parseCornersFrom rounds corners (args.dropWhile (!isBlank ·))

/-- Every round reads an operator, so there are no more rounds than characters. -/
def parseCorners (args : List Char) : Except String OptionValue :=
  let args := args.dropWhile isBlank
  if args = [] then .error "missing corner argument"
  else
    (parseCorner (args.takeWhile (!isBlank ·))).bind fun corners =>
      parseCornersFrom args.length corners (args.dropWhile (!isBlank ·))

structure KeyInfo where
  key : KeyID
  mask : KeyModifierMask
  screens : List Char := []

/-- `IKeyState::KeyInfo::join` of the names in their order. -/
def joinScreens (screens : List String) : List Char :=
  if "*" ∈ screens then ['*']
  else if screens = [] then []
  else ':' :: screens.flatMap fun name => name.toList ++ [':']

def parseKeystroke (keystroke : List Char) (screens : List String) : Except String KeyInfo :=
  match parseModifiers keystroke with
  | none => .error "unable to parse key modifiers"
  | some (text, mask) =>
    match parseKey text with
    | none => .error "unable to parse key"
    | some key =>
      if key = kKeyNone ∧ mask = 0 then .error "missing key and/or modifiers in keystroke"
      else .ok { key, mask, screens := joinScreens screens }

structure ButtonInfo where
  button : UInt8
  mask : KeyModifierMask

/-- The number of a button has eight bits. -/
def parseMouse (mouse : List Char) : Except String ButtonInfo :=
  match parseModifiers mouse with
  | none => .error "unable to parse button modifiers"
  | some (text, mask) =>
    let parsed := strtol text
    if parsed.2 ≠ [] then .error "unable to parse button"
    else if text = [] ∨ UInt8.ofInt parsed.1 = 0 then .error "invalid button"
    else .ok { button := UInt8.ofInt parsed.1, mask }

end ConfigReadContext

end DeskflowPlus
