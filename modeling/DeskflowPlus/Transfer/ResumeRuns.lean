import DeskflowPlus.Transfer.PartialCleanupPolicy

/-!
# The resume store over time

As long as no link stands in its directory, the store is a table of states: whatever saves and
removals went before and however some of them failed, a load finds what the last successful call
for its transfer left.
-/

namespace DeskflowPlus.Transfer.ResumeFiles

variable {qt : QtText} {errorText : ErrorText} {disk : ResumeFiles} {transferId : TransferId}
  {state : ResumeState} {fault : StoreFault}

inductive StoreCall where
  | save (state : ResumeState) (fault : StoreFault)
  | remove (transferId : TransferId) (linkLeads : Bool) (fault : StoreFault)

namespace StoreCall

def target : StoreCall → TransferId
  | .save state _ => state.transferId
  | .remove target _ _ => target

/-- What a call that succeeds leaves for its transfer. -/
def stored : StoreCall → Option ResumeState
  | .save state _ => some state
  | .remove _ _ _ => none

end StoreCall

def call (qt : QtText) (disk : ResumeFiles) : StoreCall → ResumeStoreResult Unit × ResumeFiles
  | .save state fault => disk.save qt state fault
  | .remove transferId linkLeads fault => disk.remove transferId linkLeads fault

/-- The directory after the calls, the last one first. -/
def after (qt : QtText) (disk : ResumeFiles) : List StoreCall → ResumeFiles
  | [] => disk
  | last :: calls => ((disk.after qt calls).call qt last).2

end DeskflowPlus.Transfer.ResumeFiles
