import DeskflowPlus.Client.KeyMapping
import DeskflowPlus.Lib.HexDigits
import Mathlib.Data.List.DropRight

/-!
# Names of keys

Hotkeys are written to a configuration file as the names of their modifiers and of their key. Keys
without a name are written as their character or as an escape with the hexadecimal number.
-/

namespace DeskflowPlus

namespace KeyMap

/-- The names and ids of `KeyTypes.cpp`. -/
def kKeyNameMap : List (String × KeyID) :=
  [("AltGr", 0xEF7E), ("Alt_L", 0xEFE9), ("Alt_R", 0xEFEA), ("AppMail", 0xE0B4),
    ("AppMedia", 0xE0B5), ("AppUser1", 0xE0B6), ("AppUser2", 0xE0B7), ("AudioDown", 0xE0AE),
    ("AudioMute", 0xE0AD), ("AudioNext", 0xE0B0), ("AudioPlay", 0xE0B3), ("AudioPrev", 0xE0B1),
    ("AudioStop", 0xE0B2), ("AudioUp", 0xE0AF), ("BackSpace", 0xEF08), ("Begin", 0xEF58),
    ("Break", 0xEF6B), ("Cancel", 0xEF69), ("CapsLock", 0xEFE5), ("Clear", 0xEF0B),
    ("Control_L", 0xEFE3), ("Control_R", 0xEFE4), ("Delete", 0xEFFF), ("Down", 0xEF54),
    ("Eject", 0xE001), ("End", 0xEF57), ("Escape", 0xEF1B), ("Execute", 0xEF62), ("F1", 0xEFBE),
    ("F2", 0xEFBF), ("F3", 0xEFC0), ("F4", 0xEFC1), ("F5", 0xEFC2), ("F6", 0xEFC3),
    ("F7", 0xEFC4), ("F8", 0xEFC5), ("F9", 0xEFC6), ("F10", 0xEFC7), ("F11", 0xEFC8),
    ("F12", 0xEFC9), ("F13", 0xEFCA), ("F14", 0xEFCB), ("F15", 0xEFCC), ("F16", 0xEFCD),
    ("F17", 0xEFCE), ("F18", 0xEFCF), ("F19", 0xEFD0), ("F20", 0xEFD1), ("F21", 0xEFD2),
    ("F22", 0xEFD3), ("F23", 0xEFD4), ("F24", 0xEFD5), ("F25", 0xEFD6), ("F26", 0xEFD7),
    ("F27", 0xEFD8), ("F28", 0xEFD9), ("F29", 0xEFDA), ("F30", 0xEFDB), ("F31", 0xEFDC),
    ("F32", 0xEFDD), ("F33", 0xEFDE), ("F34", 0xEFDF), ("F35", 0xEFE0), ("Find", 0xEF68),
    ("Help", 0xEF6A), ("Henkan", 0xEF23), ("Home", 0xEF50), ("Hyper_L", 0xEFED),
    ("Hyper_R", 0xEFEE), ("Insert", 0xEF63), ("KP_0", 0xEFB0), ("KP_1", 0xEFB1),
    ("KP_2", 0xEFB2), ("KP_3", 0xEFB3), ("KP_4", 0xEFB4), ("KP_5", 0xEFB5), ("KP_6", 0xEFB6),
    ("KP_7", 0xEFB7), ("KP_8", 0xEFB8), ("KP_9", 0xEFB9), ("KP_Add", 0xEFAB),
    ("KP_Begin", 0xEF9D), ("KP_Decimal", 0xEFAE), ("KP_Delete", 0xEF9F), ("KP_Divide", 0xEFAF),
    ("KP_Down", 0xEF99), ("KP_End", 0xEF9C), ("KP_Enter", 0xEF8D), ("KP_Equal", 0xEFBD),
    ("KP_F1", 0xEF91), ("KP_F2", 0xEF92), ("KP_F3", 0xEF93), ("KP_F4", 0xEF94),
    ("KP_Home", 0xEF95), ("KP_Insert", 0xEF9E), ("KP_Left", 0xEF96), ("KP_Multiply", 0xEFAA),
    ("KP_PageDown", 0xEF9B), ("KP_PageUp", 0xEF9A), ("KP_Right", 0xEF98),
    ("KP_Separator", 0xEFAC), ("KP_Space", 0xEF80), ("KP_Subtract", 0xEFAD), ("KP_Tab", 0xEF89),
    ("KP_Up", 0xEF97), ("Left", 0xEF51), ("LeftTab", 0xEE20), ("Linefeed", 0xEF0A),
    ("Menu", 0xEF67), ("Meta_L", 0xEFE7), ("Meta_R", 0xEFE8), ("NumLock", 0xEF7F),
    ("PageDown", 0xEF56), ("PageUp", 0xEF55), ("Pause", 0xEF13), ("Print", 0xEF61),
    ("Redo", 0xEF66), ("Return", 0xEF0D), ("Right", 0xEF53), ("ScrollLock", 0xEF14),
    ("Select", 0xEF60), ("ShiftLock", 0xEFE6), ("Shift_L", 0xEFE1), ("Shift_R", 0xEFE2),
    ("Sleep", 0xE05F), ("Super_L", 0xEFEB), ("Super_R", 0xEFEC), ("SysReq", 0xEF15),
    ("Tab", 0xEF09), ("Undo", 0xEF65), ("Up", 0xEF52), ("WWWBack", 0xE0A6),
    ("WWWFavorites", 0xE0AB), ("WWWForward", 0xE0A7), ("WWWHome", 0xE0AC),
    ("WWWRefresh", 0xE0A8), ("WWWSearch", 0xE0AA), ("WWWStop", 0xE0A9), ("Zenkaku", 0xEF2A),
    ("Space", 0x0020), ("Exclaim", 0x0021), ("DoubleQuote", 0x0022), ("Number", 0x0023),
    ("Dollar", 0x0024), ("Percent", 0x0025), ("Ampersand", 0x0026), ("Apostrophe", 0x0027),
    ("ParenthesisL", 0x0028), ("ParenthesisR", 0x0029), ("Asterisk", 0x002A), ("Plus", 0x002B),
    ("Comma", 0x002C), ("Minus", 0x002D), ("Period", 0x002E), ("Slash", 0x002F),
    ("Colon", 0x003A), ("Semicolon", 0x003B), ("Less", 0x003C), ("Equal", 0x003D),
    ("Greater", 0x003E), ("Question", 0x003F), ("At", 0x0040), ("BracketL", 0x005B),
    ("Backslash", 0x005C), ("BracketR", 0x005D), ("Circumflex", 0x005E), ("Underscore", 0x005F),
    ("Grave", 0x0060), ("BraceL", 0x007B), ("Bar", 0x007C), ("BraceR", 0x007D),
    ("Tilde", 0x007E)]

def kModifierNameMap : List (String × KeyModifierMask) :=
  [("Alt", KeyModifierAlt), ("AltGr", KeyModifierAltGr), ("Control", KeyModifierControl),
    ("Meta", KeyModifierMeta), ("Shift", KeyModifierShift), ("Super", KeyModifierSuper)]

def caseless (name : List Char) : List Char := name.map Char.toLower

def findName {α : Type} (table : List (String × α)) (name : List Char) : Option α :=
  (table.reverse.find? fun entry => caseless entry.1.toList = caseless name).map Prod.snd

def nameOf (table : List (String × UInt32)) (value : UInt32) : Option (List Char) :=
  (table.reverse.find? fun entry => entry.2 = value).map fun entry => entry.1.toList

def formatModifier (mod : KeyModifierMask) : List Char :=
  match nameOf kModifierNameMap mod with
  | some name => name ++ ['+']
  | none => []

def formatModifiers (mask : KeyModifierMask) : List Char :=
  (List.range kKeyModifierNumBits).flatMap fun bit =>
    if mask &&& bitMask bit ≠ 0 then formatModifier (bitMask bit) else []

def keyText (key : KeyID) : List Char :=
  match nameOf kKeyNameMap key with
  | some name => name
  | none =>
    if 33 ≤ key ∧ key < 127 then [Char.ofNat key.toNat]
    else '\\' :: 'u' :: padHex 4 key.toNat

/-- Without a key, the trailing '+' is removed. -/
def formatKey (key : KeyID) (mask : KeyModifierMask) : List Char :=
  if key ≠ kKeyNone then formatModifiers mask ++ keyText key else (formatModifiers mask).dropLast

def isGraph (c : Char) : Bool := 33 ≤ c.toNat ∧ c.toNat ≤ 126

def isSpace (c : Char) : Bool := c = ' ' ∨ 9 ≤ c.toNat ∧ c.toNat ≤ 13

def splitSign : List Char → Bool × List Char
  | '-' :: rest => (true, rest)
  | '+' :: rest => (false, rest)
  | rest => (false, rest)

def dropHexPrefix : List Char → List Char
  | '0' :: x :: digit :: rest =>
    if (x = 'x' ∨ x = 'X') ∧ isHexDigit digit then digit :: rest else '0' :: x :: digit :: rest
  | text => text

/-- `strtol` with base 16: the value and the text behind it, which is the whole text where there are no
digits. -/
def strtolHex (text : List Char) : Int × List Char :=
  let signed := splitSign (text.dropWhile isSpace)
  let digits := dropHexPrefix signed.2
  let number := digits.takeWhile isHexDigit
  if number = [] then (0, text)
  else
    (if signed.1 then -(hexValue number : Int) else hexValue number, digits.dropWhile isHexDigit)

def parseUnnamed : List Char → Option KeyID
  | [] => some kKeyNone
  | [c] => if isGraph c then some (UInt32.ofNat c.toNat) else none
  | '\\' :: 'u' :: text =>
    if text.length = 4 then
      let parsed := strtolHex text
      -- the end is a null character
      if parsed.2.headD '\x00' = '\x00' then some (UInt32.ofInt parsed.1) else none
    else none
  | _ => none

def parseKey (x : List Char) : Option KeyID := (findName kKeyNameMap x).or (parseUnnamed x)

def isBlank (c : Char) : Bool := c = ' ' ∨ c = '\t'

def isSeparator (c : Char) : Bool := isBlank c ∨ c = '+' ∨ c = ')'

def trim (x : List Char) : List Char := (x.dropWhile isBlank).rdropWhile isBlank

/-- The loop over the components, from a place that is not blank. What is left is the text from the
first component that is no modifier. -/
def parseModifiersFrom (x : List Char) (mask : KeyModifierMask) :
    Option (List Char × KeyModifierMask) :=
  if x = [] then some ([], mask)
  else
    let c := x.takeWhile fun c => !isSeparator c
    if c = [] then none
    else
      match findName kModifierNameMap c with
      | none => some (trim x, mask)
      | some mod =>
        if mask &&& mod ≠ 0 then none
        else
          let after := (x.dropWhile fun c => !isSeparator c).dropWhile isBlank
          if after = [] then some ([], mask ||| mod)
          else if after.head? ≠ some '+' then none
          else parseModifiersFrom (after.tail.dropWhile isBlank) (mask ||| mod)
termination_by x.length
decreasing_by
  have hcomponent := (List.dropWhile_sublist (fun c => !isSeparator c) (l := x)).length_le
  have hblanks := (List.dropWhile_sublist isBlank (l := x.dropWhile fun c => !isSeparator c)).length_le
  have hrest := (List.dropWhile_sublist isBlank (l := List.tail
    ((x.dropWhile fun c => !isSeparator c).dropWhile isBlank))).length_le
  have hlength := List.length_pos_of_ne_nil (by assumption : x ≠ [])
  rw [List.length_tail] at hrest
  omega

def parseModifiers (x : List Char) : Option (List Char × KeyModifierMask) :=
  parseModifiersFrom (x.dropWhile isBlank) 0

end KeyMap

end DeskflowPlus
