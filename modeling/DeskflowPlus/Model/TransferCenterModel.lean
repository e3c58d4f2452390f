import DeskflowPlus.Transfer.TransferHistoryStore

/-!
# The rows of the transfer center

Running transfers come before ended ones, later ones first. An update that changes only the progress
of a row is held back while the row was published a moment ago, and the row is brought up to date
when the updates that are due are flushed. Views are told how the rows change. The timer of the next
flush and the notifications of ended transfers have no part in the rows.
-/

namespace DeskflowPlus.Model

open Transfer

def kMinimumPublishIntervalMs : Int := 200

def elapsedMs (now previous : Int) : Int :=
  if now ≤ previous then 0 else min (now - previous) (2 ^ 63 - 1)

/-- `QString::compare`, by code units. -/
def compareText : QString → QString → Int
  | [], [] => 0
  | [], _ :: _ => -1
  | _ :: _, [] => 1
  | left :: lefts, right :: rights =>
    if left < right then -1 else if right < left then 1 else compareText lefts rights

/-- `left > right` of two times; an invalid time comes before every valid one. -/
def later (left right : QDateTime) : Bool :=
  match left.msecs, right.msecs with
  | some left, some right => right < left
  | some _, none => true
  | none, _ => false

structure Entry where
  snapshot : TransferSnapshot
  history : Option TransferHistoryRecord := none
  deriving DecidableEq

/-- How the rows change, as views are told; of a new row, the transfer that they read from it. -/
inductive RowChange where
  | inserted (row : Nat) (id : TransferId)
  | moved (source destinationChild : Nat)
  | changed (row : Nat)
  | removed (row : Nat)
  | reset (ids : List TransferId)

structure TransferCenterModel where
  entries : List Entry := []
  pendingEntries : List Entry := []
  lastPublishedMs : TransferId → Option Int := fun _ => none
  announced : List RowChange := []

structure HashOrder where
  arrange : List TransferId → List TransferId
  perm : ∀ ids, (arrange ids).Perm ids

namespace TransferCenterModel

def validSnapshot (snapshot : TransferSnapshot) : Bool :=
  snapshot.displayName ≠ [] && snapshot.createdUtc.isValid && validProgress snapshot.progress

def withoutProgress (snapshot : TransferSnapshot) : TransferSnapshot :=
  { snapshot with
    progress := { snapshot.progress with
      completedBytes := 0
      completedFiles := 0
      bytesPerSecond := .finite 0
      estimatedRemaining := none }
    currentRelativeDisplayPath := [] }

def isProgressOnlyChange (current next : TransferSnapshot) : Bool :=
  withoutProgress current = withoutProgress next

def compare (left right : Entry) : Int :=
  let leftTerminal := TransferControlStateMachine.isTerminal left.snapshot.state
  let rightTerminal := TransferControlStateMachine.isTerminal right.snapshot.state
  if leftTerminal ≠ rightTerminal then if leftTerminal then 1 else -1
  else
    let leftTime := if leftTerminal then left.snapshot.finishedUtc else left.snapshot.createdUtc
    let rightTime := if rightTerminal then right.snapshot.finishedUtc else right.snapshot.createdUtc
    if leftTime ≠ rightTime then if later leftTime rightTime then -1 else 1
    else compareText left.snapshot.id.toString right.snapshot.id.toString

/-- The destination among the rows from this one on. -/
def insertionIndexFrom (entry : Entry) (ignoredIndex : Option Nat) : Nat → List Entry → Nat
  | _, [] => 0
  | row, other :: rest =>
    if some row = ignoredIndex then insertionIndexFrom entry ignoredIndex (row + 1) rest
    else if compare entry other < 0 then 0
    else insertionIndexFrom entry ignoredIndex (row + 1) rest + 1

def insertionIndex (entry : Entry) (ignoredIndex : Option Nat) (entries : List Entry) : Nat :=
  insertionIndexFrom entry ignoredIndex 0 entries

def indexOf (transferId : TransferId) (entries : List Entry) : Option Nat :=
  entries.findIdx? (·.snapshot.id = transferId)

def ids (model : TransferCenterModel) : List TransferId := model.entries.map (·.snapshot.id)

def upsertEntry (entry : Entry) (model : TransferCenterModel) : TransferCenterModel :=
  match indexOf entry.snapshot.id model.entries with
  | none =>
    let destination := insertionIndex entry none model.entries
    { model with
      entries := model.entries.insertIdx destination entry
      announced := model.announced ++ [.inserted destination entry.snapshot.id] }
  | some existingRow =>
    if model.entries[existingRow]? = some entry then model
    else
      let destination := insertionIndex entry (some existingRow) model.entries
      if destination = existingRow then
        { model with
          entries := model.entries.set existingRow entry
          announced := model.announced ++ [.changed existingRow] }
      else
        let destinationChild := if destination > existingRow then destination + 1 else destination
        { model with
          entries := (model.entries.eraseIdx existingRow).insertIdx destination entry
          announced :=
            model.announced ++ [.moved existingRow destinationChild, .changed destination] }

def pending (model : TransferCenterModel) (transferId : TransferId) : Option Entry :=
  model.pendingEntries.find? (·.snapshot.id = transferId)

def removePending (transferId : TransferId) (model : TransferCenterModel) : TransferCenterModel :=
  { model with pendingEntries := model.pendingEntries.filter (·.snapshot.id ≠ transferId) }

def insertPending (entry : Entry) (model : TransferCenterModel) : TransferCenterModel :=
  { model with
    pendingEntries :=
      entry :: model.pendingEntries.filter (·.snapshot.id ≠ entry.snapshot.id) }

def publishedAt (transferId : TransferId) (now : Int) (model : TransferCenterModel) :
    TransferCenterModel :=
  { model with lastPublishedMs := Function.update model.lastPublishedMs transferId (some now) }

def heldBack (model : TransferCenterModel) (transferId : TransferId) (now : Int) : Bool :=
  match model.lastPublishedMs transferId with
  | some lastPublished => elapsedMs now lastPublished < kMinimumPublishIntervalMs
  | none => false

def upsertTransfer (snapshot : TransferSnapshot) (now : Int) (model : TransferCenterModel) :
    Bool × TransferCenterModel :=
  if ¬ validSnapshot snapshot then (false, model)
  else
    match indexOf snapshot.id model.entries with
    | none => (true, (model.upsertEntry { snapshot }).publishedAt snapshot.id now)
    | some row =>
      if (model.entries[row]?.any fun current => isProgressOnlyChange current.snapshot snapshot) &&
          model.heldBack snapshot.id now then
        (true, model.insertPending { snapshot })
      else
        (true, ((model.removePending snapshot.id).upsertEntry { snapshot }).publishedAt snapshot.id
          now)

def removeTransfer (transferId : TransferId) (model : TransferCenterModel) :
    Bool × TransferCenterModel :=
  match indexOf transferId model.entries with
  | none => (false, model)
  | some row =>
    (true, { model.removePending transferId with
      entries := model.entries.eraseIdx row
      lastPublishedMs := Function.update model.lastPublishedMs transferId none
      announced := model.announced ++ [.removed row] })

def flushEntry (now : Int) (model : TransferCenterModel) (id : TransferId) : TransferCenterModel :=
  if model.heldBack id now then model
  else
    match model.pending id with
    | none => model
    | some pending => ((model.removePending id).upsertEntry pending).publishedAt id now

def flushDueUpdates (now : Int) (order : HashOrder) (model : TransferCenterModel) :
    TransferCenterModel :=
  (order.arrange (model.pendingEntries.map (·.snapshot.id))).foldl (flushEntry now) model

end TransferCenterModel

inductive ModelCall where
  | upsert (snapshot : TransferSnapshot) (now : Int)
  | remove (transferId : TransferId)
  | flush (now : Int) (order : HashOrder)

namespace TransferCenterModel

def step (model : TransferCenterModel) : ModelCall → TransferCenterModel
  | .upsert snapshot now => (model.upsertTransfer snapshot now).2
  | .remove transferId => (model.removeTransfer transferId).2
  | .flush now order => model.flushDueUpdates now order

def run (model : TransferCenterModel) (calls : List ModelCall) : TransferCenterModel :=
  calls.foldl step model

def lastUpserted (upserted : TransferId → Option TransferSnapshot) (call : ModelCall) :
    TransferId → Option TransferSnapshot :=
  match call with
  | .upsert snapshot _ =>
    if validSnapshot snapshot then Function.update upserted snapshot.id (some snapshot)
    else upserted
  | .remove transferId => Function.update upserted transferId none
  | .flush _ _ => upserted

end TransferCenterModel

end DeskflowPlus.Model
