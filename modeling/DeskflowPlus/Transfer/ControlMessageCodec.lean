import DeskflowPlus.Transfer.QCborFields
import DeskflowPlus.Transfer.TransferTypes

/-!
# The names of the conflict policies

Offers, acceptances and capabilities carry a conflict policy by its name.
-/

namespace DeskflowPlus.Transfer.ControlMessageCodec

def conflictPolicyName : ConflictPolicy → QString
  | .autoRename => QString.literal "auto-rename"
  | .overwrite => QString.literal "overwrite"
  | .skip => QString.literal "skip"
  | .ask => QString.literal "ask"

def parseConflictPolicy (value : QString) : Option ConflictPolicy :=
  if value = QString.literal "auto-rename" then some .autoRename
  else if value = QString.literal "overwrite" then some .overwrite
  else if value = QString.literal "skip" then some .skip
  else if value = QString.literal "ask" then some .ask
  else none

end DeskflowPlus.Transfer.ControlMessageCodec
