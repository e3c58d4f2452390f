import DeskflowPlus.Stream.FormatRoundTrip

/-!
# Limits of what is read

A list's length always comes from the stream and is checked. A string's length is checked if it comes
from the format, and not if it comes from the stream, which decides how large a buffer is asked for.
-/

namespace DeskflowPlus

namespace ProtocolFormat

def WithinLimits : Argument → Prop
  | .vector values => values.length ≤ PROTOCOL_MAX_LIST_LENGTH
  | .string bytes => bytes.length ≤ PROTOCOL_MAX_STRING_LENGTH
  | _ => True

/-- Nothing is stored and no buffer asked for that is over a limit. -/
def FormatRead.WithinLimits (read : FormatRead) : Prop :=
  (∀ argument ∈ read.stored, ProtocolFormat.WithinLimits argument) ∧
    ∀ size ∈ read.reserved, size ≤ PROTOCOL_MAX_STRING_LENGTH

/-- The format itself asks for more than the limit. -/
def Refused : FormatItem → Prop
  | .specifier len .s => PROTOCOL_MAX_STRING_LENGTH < len
  | _ => False

/-- No string is reached whose length the format does not give. -/
def Sized : List FormatItem → Prop
  | [] => True
  | item :: items => item ≠ .specifier 0 .s ∧ (¬ Refused item → Sized items)

variable {item : FormatItem} {items : List FormatItem} {source : ByteSource} {allocates : Nat → Bool}
  {size len : Nat}

end ProtocolFormat

end DeskflowPlus
