import DeskflowPlus.Transfer.ConflictResolver
import DeskflowPlus.Transfer.FileStreaming

/-!
# Runs of a file receiver

The calls of a receiver in any order, each on the disk it finds. What a run has appended so far is
the part of the file that is staged, and only all of it, under the expected digest, is committed:
`finish` sees to that itself, and `confirmCommitted`, which the class keeps for itself and for the
worker that wraps it, is asked for behind an accepted `finishStaging`.
-/

namespace DeskflowPlus.Transfer

namespace Disk

/-- `QFile::rename` to a path where nothing stands. -/
def rename (disk : Disk) (path target : QString) : Disk :=
  fun other => if other = target then disk path else if other = path then none else disk other

end Disk

namespace FileReceiver

def kMaximumAutoRenameAttempts : Nat := 10000

def autoRenameCandidate (arg : ConflictResolver.Arg) (requestedTarget : QString) (index : Nat) :
    QString :=
  if index = 0 then requestedTarget
  else ConflictResolver.directoryOf requestedTarget ++
    ConflictResolver.renamedFileName arg (ConflictResolver.fileName requestedTarget) index

def chooseAutoRenameTarget (arg : ConflictResolver.Arg) (requestedTarget : QString)
    (receiver : FileReceiver) (disk : Disk) : QString :=
  if receiver.conflictPolicy ≠ .autoRename then []
  else
    (((List.range kMaximumAutoRenameAttempts).map (autoRenameCandidate arg requestedTarget)).find?
      fun candidate => ¬ disk.pathExists candidate).getD []

def finish (arg : ConflictResolver.Arg) (sha : Sha256) (fileEnd : FileEndMessage) (io : FileIo)
    (renamed : Bool) (receiver : FileReceiver) (disk : Disk) :
    FileReceiverResult × FileReceiver × Disk :=
  let (staged, receiver) := finishStaging sha fileEnd io receiver
  let failed (error : FileReceiverError) (code : FileResultCode) (diagnostic : String) :=
    let (result, receiver) := receiver.failCommit error code diagnostic
    (result, receiver, disk)
  if ¬ staged.ok then (staged, receiver, disk)
  else if ¬ io.mkpath then
    failed .directoryCreateFailed .ioError "TARGET_DIRECTORY_CREATE_FAILED"
  else
    let committedPath := receiver.chooseAutoRenameTarget arg receiver.requestedTarget disk
    if committedPath = [] then failed .targetExists .targetExists "TARGET_NAME_UNAVAILABLE"
    else if ¬ renamed then failed .commitFailed .ioError "ATOMIC_COMMIT_FAILED"
    else
      let disk := disk.rename receiver.snapshot.partPath committedPath
      let (result, receiver) := receiver.confirmCommitted committedPath disk
      (result, receiver, disk)

end FileReceiver

inductive FileReceiverOperation where
  | begin (request : FileReceiveRequest)
  | resume (request : FileReceiveRequest) (state : ResumeState)
  | append (chunk : FileChunkMessage) (payload : QByteArray)
  | checkpoint (store : ResumeStore) (state : ResumeState) (updatedUtc : QDateTime)
  | finishStaging (fileEnd : FileEndMessage)
  | finish (fileEnd : FileEndMessage)
  | confirmCommitted (committedPath : QString)
  | failCommit (error : FileReceiverError) (code : FileResultCode) (diagnostic : String)
  | cancel (disposition : PartialDisposition)

def FileReceiverOperation.appends : FileReceiverOperation → Bool
  | .append _ _ => true
  | _ => false

def FileReceiverOperation.endsFile : FileReceiverOperation → Bool
  | .finishStaging _ | .finish _ => true
  | _ => false

def FileReceiverOperation.TakesNothing (operation : FileReceiverOperation) : Prop :=
  operation.appends = false ∧ operation.endsFile = false

structure FileReceiverCall where
  operation : FileReceiverOperation
  io : FileIo := {}
  renamed : Bool := true
  disk : Disk := fun _ => none

namespace FileReceiver

variable (qt : QtText) (arg : ConflictResolver.Arg) (sha : Sha256)

def perform (call : FileReceiverCall) (receiver : FileReceiver) : Bool × FileReceiver :=
  match call.operation with
  | .begin request =>
    let (result, receiver, _) := begin qt request call.io receiver call.disk
    (result.ok, receiver)
  | .resume request state =>
    let (result, receiver, _) := resume qt request state call.io receiver call.disk
    (result.ok, receiver)
  | .append chunk payload =>
    let (result, receiver, _) := append chunk payload call.io receiver call.disk
    (result.ok, receiver)
  | .checkpoint store state updatedUtc =>
    let (result, _, _) := checkpoint qt store state updatedUtc call.io receiver
    (result.isOk, receiver)
  | .finishStaging fileEnd =>
    let (result, receiver) := finishStaging sha fileEnd call.io receiver
    (result.ok, receiver)
  | .finish fileEnd =>
    let (result, receiver, _) := finish arg sha fileEnd call.io call.renamed receiver call.disk
    (result.ok, receiver)
  | .confirmCommitted committedPath =>
    let (result, receiver) := receiver.confirmCommitted committedPath call.disk
    (result.ok, receiver)
  | .failCommit error code diagnostic =>
    let (result, receiver) := receiver.failCommit error code diagnostic
    (result.ok, receiver)
  | .cancel disposition =>
    let (result, receiver, _) := receiver.cancel disposition call.io call.disk
    (result.ok, receiver)

end FileReceiver

structure FileReception where
  receiver : FileReceiver := {}
  appended : QByteArray := []
  staged : Bool := false

namespace FileReception

variable (qt : QtText) (arg : ConflictResolver.Arg) (sha : Sha256)

def appendedBy (call : FileReceiverCall) (receiver : FileReceiver) (appended : QByteArray) :
    QByteArray :=
  match call.operation with
  | .begin _ => []
  | .resume _ _ => call.disk.content receiver.snapshot.partPath
  | .append _ payload => appended ++ payload
  | _ => appended

def step (reception : FileReception) (call : FileReceiverCall) : FileReception :=
  let (accepted, receiver) := reception.receiver.perform qt arg sha call
  if accepted then
    { receiver
      appended := appendedBy call receiver reception.appended
      staged := reception.staged || call.operation.endsFile }
  else { reception with receiver }

def run (calls : List FileReceiverCall) (reception : FileReception) : FileReception :=
  calls.foldl (step qt arg sha) reception

end FileReception

namespace FileReceiver

def closed (receiver : FileReceiver) (state : FileReceiverState) : FileReceiver :=
  { receiver with
    partFileOpen := false
    snapshot := { receiver.snapshot with state } }

/-- The whole file has been taken, and it is the one that was announced. -/
def Complete (sha : Sha256) (receiver : FileReceiver) : Prop :=
  receiver.snapshot.state = .receiving ∧
    receiver.snapshot.receivedBytes = receiver.snapshot.expectedSize ∧
    sha.hash receiver.hash = receiver.expectedSha256

inductive Effect (sha : Sha256) (call : FileReceiverCall) (receiver : FileReceiver) :
    Bool → FileReceiver → Prop
  | refuses : Effect sha call receiver false receiver
  | rehashes (hidle : receiver.snapshot.state = .idle) :
      Effect sha call receiver false { receiver with hash := [] }
  | leaves {accepted : Bool} (htakes : call.operation.TakesNothing)
      (happended : ∀ appended, FileReception.appendedBy call receiver appended = appended) :
      Effect sha call receiver accepted receiver
  | opens {request : FileReceiveRequest} {normalized requestedTarget partPath : QString}
      {content : QByteArray} (hidle : receiver.snapshot.state = .idle)
      (htakes : call.operation.TakesNothing)
      (hvalid : requestIsValid request = true)
      (hlength : content.length = request.begin.startOffset)
      (happended : ∀ appended, FileReception.appendedBy call
        (opened request normalized requestedTarget partPath content) appended = content) :
      Effect sha call receiver true (opened request normalized requestedTarget partPath content)
  | appends {chunk : FileChunkMessage} {payload : QByteArray}
      (hoperation : call.operation = .append chunk payload)
      (hstate : receiver.snapshot.state = .receiving)
      (hoffset : chunk.offset = receiver.snapshot.receivedBytes) (hpayload : payload ≠ [])
      (hsize : payload.length ≤ receiver.snapshot.expectedSize - receiver.snapshot.receivedBytes) :
      Effect sha call receiver true
        { receiver with
          hash := receiver.hash ++ payload
          snapshot := { receiver.snapshot with
            receivedBytes := receiver.snapshot.receivedBytes + payload.length
            nextSequence := receiver.snapshot.nextSequence + 1 } }
  | stages {fileEnd : FileEndMessage} (hoperation : call.operation = .finishStaging fileEnd)
      (hcomplete : receiver.Complete sha) :
      Effect sha call receiver true { receiver with partFileOpen := false }
  | finishes {fileEnd : FileEndMessage} {committedPath : QString}
      (hoperation : call.operation = .finish fileEnd) (hcomplete : receiver.Complete sha) :
      Effect sha call receiver true
        { receiver.closed .completed with
          snapshot := { receiver.snapshot with committedPath, state := .completed } }
  | commits {committedPath : QString} (hoperation : call.operation = .confirmCommitted committedPath)
      (hstate : receiver.snapshot.state = .receiving) :
      Effect sha call receiver true
        { receiver with snapshot := { receiver.snapshot with committedPath, state := .completed } }
  | ends {accepted : Bool} {state : FileReceiverState} (hstate : state = .failed ∨ state = .cancelled)
      (htakes : accepted = true → call.operation.TakesNothing ∧
        ∀ receiver appended, FileReception.appendedBy call receiver appended = appended) :
      Effect sha call receiver accepted (receiver.closed state)

section Effect

variable {qt : QtText} {arg : ConflictResolver.Arg} {sha : Sha256} {call : FileReceiverCall}
  {receiver : FileReceiver}

def Performs (sha : Sha256) (call : FileReceiverCall) (receiver : FileReceiver)
    (performed : FileReceiverResult × FileReceiver × Disk) : Prop :=
  Effect sha call receiver performed.1.ok performed.2.1

theorem Performs.ite {condition : Prop} [Decidable condition]
    {first second : FileReceiverResult × FileReceiver × Disk}
    (hfirst : condition → Performs sha call receiver first)
    (hsecond : ¬ condition → Performs sha call receiver second) :
    Performs sha call receiver (if condition then first else second) :=
  @iteInduction _ _ _ (Performs sha call receiver) _ _ hfirst hsecond

theorem performs_refused {result : FileReceiverResult} {disk : Disk} (hrefused : result.ok = false) :
    Performs sha call receiver (result, receiver, disk) := by
  unfold Performs
  rw [hrefused]
  exact .refuses

theorem performs_failed {result : FileReceiverResult} {disk : Disk} (hfailed : result.ok = false) :
    Performs sha call receiver (result, receiver.closed .failed, disk) := by
  unfold Performs
  rw [hfailed]
  exact .ends (.inl rfl) nofun

theorem beginInternal_effect {request : FileReceiveRequest} {resumeState : Option ResumeState}
    (hoffset : resumeState = none → request.begin.startOffset = 0)
    (htakes : call.operation.TakesNothing)
    (happended : ∀ later appended, FileReception.appendedBy call later appended =
      if resumeState.isNone then [] else call.disk.content later.snapshot.partPath) :
    Performs sha call receiver
      (beginInternal qt request resumeState call.io receiver call.disk) := by
  unfold beginInternal
  refine .ite (fun _ => performs_refused rfl) fun hidle => ?_
  replace hidle := not_not.mp hidle
  refine .ite (fun _ => performs_refused rfl) fun _ => ?_
  refine .ite (fun _ => performs_refused rfl) fun hvalid => ?_
  generalize PathPolicy.joinLexicallyUnderRoot qt request.receiveRoot
    request.entry.relativeProtocolPath request.pathLimits = target
  dsimp only
  generalize PathPolicy.joinLexicallyUnderRoot qt request.receiveRoot
    (stagingRelative request.begin.transferId request.begin.fileId) request.pathLimits = staging
  refine .ite (fun _ => performs_refused rfl) fun _ => ?_
  refine .ite (fun _ => performs_refused rfl) fun _ => ?_
  refine .ite (fun _ => performs_refused rfl) fun _ => ?_
  refine .ite (fun _ => performs_refused rfl) fun _ => ?_
  have hrehashed {result : FileReceiverResult} (hrefused : result.ok = false) :
      Performs sha call receiver (result, { receiver with hash := [] }, call.disk) := by
    unfold Performs
    rw [hrefused]
    exact .rehashes hidle
  cases resumeState with
  | none =>
    refine .ite (fun _ => hrehashed rfl) fun _ => ?_
    exact .opens hidle htakes (not_not.mp hvalid) (hoffset rfl).symm (happended _)
  | some state =>
    dsimp only
    split
    · exact hrehashed rfl
    refine .ite (fun _ => hrehashed rfl) fun _ => ?_
    split
    case h_2 => exact hrehashed rfl
    rename_i content hpart
    refine .ite (fun _ => hrehashed rfl) fun hlength => ?_
    refine .ite (fun _ => hrehashed rfl) fun _ => ?_
    refine .ite (fun _ => hrehashed rfl) fun _ => ?_
    refine .ite (fun _ => hrehashed rfl) fun _ => ?_
    refine .opens hidle htakes (not_not.mp hvalid) (not_not.mp hlength) fun appended => ?_
    refine (happended _ appended).trans ?_
    show call.disk.content staging.2 = content
    unfold Disk.content
    rw [hpart]

theorem append_effect {chunk : FileChunkMessage} {payload : QByteArray}
    (hoperation : call.operation = .append chunk payload) :
    Performs sha call receiver (append chunk payload call.io receiver call.disk) := by
  unfold append
  refine .ite (fun _ => performs_refused rfl) fun hstate => ?_
  refine .ite (fun _ => performs_failed rfl) fun _ => ?_
  refine .ite (fun _ => performs_failed rfl) fun _ => ?_
  refine .ite (fun _ => performs_failed rfl) fun hoffset => ?_
  refine .ite (fun _ => performs_failed rfl) fun _ => ?_
  refine .ite (fun _ => performs_failed rfl) fun hpayload => ?_
  refine .ite (fun _ => performs_failed rfl) fun _ => ?_
  refine .ite (fun _ => performs_failed rfl) fun hsize => ?_
  dsimp only
  split
  · exact performs_failed rfl
  · exact .appends hoperation (not_not.mp hstate) (not_not.mp hoffset) hpayload
      (Nat.not_lt.mp hsize)

inductive Finishing (sha : Sha256) (receiver : FileReceiver) :
    FileReceiverResult × FileReceiver → Prop
  | refuses {result : FileReceiverResult} (hrefused : result.ok = false) :
      Finishing sha receiver (result, receiver)
  | fails {result : FileReceiverResult} (hfailed : result.ok = false) :
      Finishing sha receiver (result, receiver.closed .failed)
  | stages (hcomplete : receiver.Complete sha) :
      Finishing sha receiver ({}, { receiver with partFileOpen := false })

theorem Finishing.ite {condition : Prop} [Decidable condition]
    {first second : FileReceiverResult × FileReceiver}
    (hfirst : condition → Finishing sha receiver first)
    (hsecond : ¬ condition → Finishing sha receiver second) :
    Finishing sha receiver (if condition then first else second) :=
  @iteInduction _ _ _ (Finishing sha receiver) _ _ hfirst hsecond

theorem finishStaging_cases (fileEnd : FileEndMessage) (io : FileIo) (receiver : FileReceiver) :
    Finishing sha receiver (finishStaging sha fileEnd io receiver) := by
  unfold finishStaging
  refine .ite (fun _ => .refuses rfl) fun hstate => ?_
  refine .ite (fun _ => .fails rfl) fun _ => ?_
  refine .ite (fun _ => .fails rfl) fun _ => ?_
  refine .ite (fun _ => .fails rfl) fun hsize => ?_
  refine .ite (fun _ => .fails rfl) fun _ => ?_
  refine .ite (fun _ => .fails rfl) fun _ => ?_
  dsimp only
  refine .ite (fun _ => .fails rfl) fun hhash => ?_
  exact .stages ⟨not_not.mp hstate, not_not.mp (not_or.mp hsize).2, not_not.mp hhash⟩

theorem confirmCommitted_cases (committedPath : QString) (receiver : FileReceiver) (disk : Disk) :
    (receiver.confirmCommitted committedPath disk).2 = receiver.closed .failed ∧
        (receiver.confirmCommitted committedPath disk).1.ok = false ∨
      receiver.snapshot.state = .receiving ∧
        (receiver.confirmCommitted committedPath disk).2 =
          { receiver with
            snapshot := { receiver.snapshot with committedPath, state := .completed } } ∧
        (receiver.confirmCommitted committedPath disk).1.ok = true := by
  unfold confirmCommitted
  split
  · exact .inl ⟨rfl, rfl⟩
  · rename_i haccepted
    refine .inr ⟨not_not.mp (not_or.mp haccepted).1, rfl, ?_⟩
    unfold result
    dsimp only
    split <;> rfl

theorem finish_effect {fileEnd : FileEndMessage} (hoperation : call.operation = .finish fileEnd) :
    Performs sha call receiver
      (finish arg sha fileEnd call.io call.renamed receiver call.disk) := by
  unfold finish
  have hstaging : Finishing sha receiver (finishStaging sha fileEnd call.io receiver) :=
    finishStaging_cases fileEnd call.io receiver
  generalize finishStaging sha fileEnd call.io receiver = staged at hstaging
  cases hstaging with
  | refuses hrefused =>
    refine .ite (fun _ => performs_refused hrefused) fun haccepted => ?_
    exact absurd (hrefused.symm.trans (not_not.mp haccepted)) nofun
  | fails hfails =>
    refine .ite (fun _ => performs_failed hfails) fun haccepted => ?_
    exact absurd (hfails.symm.trans (not_not.mp haccepted)) nofun
  | stages hcomplete =>
    refine .ite (fun hrefused => absurd rfl hrefused) fun _ => ?_
    refine .ite (fun _ => performs_failed rfl) fun _ => ?_
    dsimp only
    refine .ite (fun _ => performs_failed rfl) fun _ => ?_
    refine .ite (fun _ => performs_failed rfl) fun _ => ?_
    generalize chooseAutoRenameTarget arg _ _ call.disk = committedPath
    generalize call.disk.rename _ committedPath = disk
    unfold Performs
    obtain ⟨hlater, hrefused⟩ | ⟨-, hlater, haccepted⟩ := confirmCommitted_cases committedPath
      { receiver with partFileOpen := false } disk
    · rw [hlater, hrefused]
      exact .ends (.inl rfl) nofun
    · rw [hlater, haccepted]
      exact .finishes hoperation hcomplete

/-- **One call.** -/
theorem perform_effect (call : FileReceiverCall) (receiver : FileReceiver) :
    Effect sha call receiver (receiver.perform qt arg sha call).1
      (receiver.perform qt arg sha call).2 := by
  unfold perform
  split <;> rename_i hoperation
  case h_1 request =>
    dsimp only
    unfold begin
    split
    · exact .refuses
    · rename_i hoffset
      refine beginInternal_effect (fun _ => not_not.mp hoffset)
        (by rw [hoperation]; exact ⟨rfl, rfl⟩) ?_
      intro later appended
      unfold FileReception.appendedBy
      rw [hoperation]
      rfl
  case h_2 request state =>
    refine beginInternal_effect nofun (by rw [hoperation]; exact ⟨rfl, rfl⟩) ?_
    intro later appended
    unfold FileReception.appendedBy
    rw [hoperation]
    rfl
  case h_3 chunk payload => exact append_effect hoperation
  case h_4 store state updatedUtc =>
    refine .leaves (by rw [hoperation]; exact ⟨rfl, rfl⟩) ?_
    unfold FileReception.appendedBy
    rw [hoperation]
    exact fun _ => rfl
  case h_5 fileEnd =>
    have hstaging : Finishing sha receiver (finishStaging sha fileEnd call.io receiver) :=
      finishStaging_cases fileEnd call.io receiver
    dsimp only
    generalize finishStaging sha fileEnd call.io receiver = staged at hstaging
    cases hstaging with
    | refuses hrefused =>
      rw [hrefused]
      exact .refuses
    | fails hfails =>
      rw [hfails]
      exact .ends (.inl rfl) nofun
    | stages hcomplete => exact .stages hoperation hcomplete
  case h_6 fileEnd => exact finish_effect hoperation
  case h_7 committedPath =>
    dsimp only
    obtain ⟨hlater, hrefused⟩ | ⟨hstate, hlater, haccepted⟩ :=
      confirmCommitted_cases committedPath receiver call.disk
    · rw [hlater, hrefused]
      exact .ends (.inl rfl) nofun
    · rw [hlater, haccepted]
      exact .commits hoperation hstate
  case h_8 error code diagnostic =>
    refine .ends (.inl rfl) fun _ => ⟨by rw [hoperation]; exact ⟨rfl, rfl⟩, ?_⟩
    unfold FileReception.appendedBy
    rw [hoperation]
    exact fun _ _ => rfl
  case h_9 disposition =>
    have hkept (later : FileReceiver) (appended : QByteArray) :
        FileReception.appendedBy call later appended = appended := by
      unfold FileReception.appendedBy
      rw [hoperation]
    have htakes : call.operation.TakesNothing := by rw [hoperation]; exact ⟨rfl, rfl⟩
    dsimp only
    unfold cancel
    split
    · exact .leaves htakes (hkept _)
    split
    · exact .leaves htakes (hkept _)
    · exact .ends (.inr rfl) fun _ => ⟨htakes, hkept⟩

theorem perform_of_not_receiving (hstate : receiver.snapshot.state ≠ .receiving)
    (hoperation : call.operation.appends = true ∨ call.operation.endsFile = true) :
    receiver.perform qt arg sha call = (false, receiver) := by
  have hstaging (fileEnd : FileEndMessage) : finishStaging sha fileEnd call.io receiver =
      (failure .invalidState "file receiver is not awaiting FILE_END", receiver) := if_pos hstate
  unfold perform
  cases hcall : call.operation with
  | append chunk payload =>
    unfold append
    dsimp only
    rw [if_pos hstate]
    rfl
  | finishStaging fileEnd =>
    dsimp only
    rw [hstaging]
    rfl
  | finish fileEnd =>
    unfold finish
    dsimp only
    rw [hstaging]
    rfl
  | _ =>
    rw [hcall] at hoperation
    exact hoperation.elim nofun nofun

end Effect

end FileReceiver

namespace FileReception

open FileReceiver

variable {qt : QtText} {arg : ConflictResolver.Arg} {sha : Sha256} {reception : FileReception}

/-- The bytes taken so far are counted and hashed, there is room for them, and a FILE_END has only
been accepted behind the whole file. -/
structure Sound (sha : Sha256) (reception : FileReception) : Prop where
  idle : reception.receiver.snapshot.state = .idle →
    reception.appended = [] ∧ reception.staged = false
  hash : reception.receiver.hash = reception.appended
  received : reception.receiver.snapshot.receivedBytes = reception.appended.length
  bounded : reception.receiver.snapshot.receivedBytes ≤ reception.receiver.snapshot.expectedSize
  staged : reception.staged = true →
    reception.receiver.snapshot.receivedBytes = reception.receiver.snapshot.expectedSize ∧
      sha.hash reception.appended = reception.receiver.expectedSha256

theorem sound_fresh : Sound sha {} where
  idle _ := ⟨rfl, rfl⟩
  hash := rfl
  received := rfl
  bounded := Nat.le_refl 0
  staged := nofun

variable {later : FileReceiver}

theorem Sound.keep (h : reception.Sound sha) {staged : Bool}
    (hidle : later.snapshot.state = .idle → reception.receiver.snapshot.state = .idle ∧
      staged = reception.staged) (hhash : later.hash = reception.receiver.hash)
    (hreceived : later.snapshot.receivedBytes = reception.receiver.snapshot.receivedBytes)
    (hexpected : later.snapshot.expectedSize = reception.receiver.snapshot.expectedSize)
    (hsha : later.expectedSha256 = reception.receiver.expectedSha256)
    (hstaged : staged = true → reception.staged = true ∨ reception.receiver.Complete sha) :
    Sound sha ⟨later, reception.appended, staged⟩ where
  idle hlater := by
    obtain ⟨hstate, hsame⟩ := hidle hlater
    exact ⟨(h.idle hstate).1, hsame.trans (h.idle hstate).2⟩
  hash := hhash.trans h.hash
  received := hreceived.trans h.received
  bounded := by
    show later.snapshot.receivedBytes ≤ later.snapshot.expectedSize
    rw [hreceived, hexpected]
    exact h.bounded
  staged hlater := by
    show later.snapshot.receivedBytes = later.snapshot.expectedSize ∧
      sha.hash reception.appended = later.expectedSha256
    rw [hreceived, hexpected, hsha]
    obtain hbefore | ⟨-, hcomplete, hhashed⟩ := hstaged hlater
    · exact h.staged hbefore
    · exact ⟨hcomplete, h.hash ▸ hhashed⟩

variable {call : FileReceiverCall}

theorem step_of_accepted (h : reception.receiver.perform qt arg sha call = (true, later)) :
    reception.step qt arg sha call =
      ⟨later, appendedBy call later reception.appended,
        reception.staged || call.operation.endsFile⟩ := by
  unfold step
  rw [h]
  rfl

theorem step_of_refused (h : reception.receiver.perform qt arg sha call = (false, later)) :
    reception.step qt arg sha call = ⟨later, reception.appended, reception.staged⟩ := by
  unfold step
  rw [h]
  rfl

theorem effect_of_perform {accepted : Bool}
    (h : reception.receiver.perform qt arg sha call = (accepted, later)) :
    Effect sha call reception.receiver accepted later := by
  have heffect := @perform_effect qt arg sha call reception.receiver
  rwa [h] at heffect

theorem receiver_step {accepted : Bool}
    (h : reception.receiver.perform qt arg sha call = (accepted, later)) :
    (reception.step qt arg sha call).receiver = later := by
  cases accepted with
  | true => rw [step_of_accepted h]
  | false => rw [step_of_refused h]

theorem Sound.step (h : reception.Sound sha) (call : FileReceiverCall) :
    Sound sha (reception.step qt arg sha call) := by
  rcases hperform : reception.receiver.perform qt arg sha call with ⟨accepted, later⟩
  have heffect := effect_of_perform hperform
  have hends (hoperation : call.operation.endsFile = false) :
      (reception.staged || call.operation.endsFile) = reception.staged := by
    rw [hoperation, Bool.or_false]
  cases heffect with
  | refuses =>
    rw [step_of_refused hperform]
    exact h
  | rehashes hidle =>
    rw [step_of_refused hperform]
    obtain ⟨happended, hstaged⟩ := h.idle hidle
    exact
      { idle := fun _ => ⟨happended, hstaged⟩
        hash := happended.symm
        received := h.received
        bounded := h.bounded
        staged := fun hlater => absurd (hstaged.symm.trans hlater) nofun }
  | leaves htakes happended =>
    cases accepted with
    | true =>
      rw [step_of_accepted hperform, happended, hends htakes.2]
      exact h
    | false =>
      rw [step_of_refused hperform]
      exact h
  | opens hidle htakes hvalid hlength happended =>
    rw [step_of_accepted hperform, happended, hends htakes.2]
    rename_i request normalized requestedTarget partPath content
    refine ⟨nofun, rfl, hlength.symm, ?_, fun hlater => ?_⟩
    · show request.begin.startOffset ≤ request.begin.size
      unfold requestIsValid at hvalid
      simp only [Bool.and_eq_true, decide_eq_true_eq] at hvalid
      exact hvalid.1.1.1.1.2
    · exact absurd ((h.idle hidle).2.symm.trans hlater) nofun
  | appends hoperation hstate hoffset hpayload hsize =>
    rename_i chunk payload
    have happended (later : FileReceiver) :
        appendedBy call later reception.appended = reception.appended ++ payload := by
      unfold appendedBy
      rw [hoperation]
    rw [step_of_accepted hperform, happended, hends (by rw [hoperation]; rfl)]
    have hroom := h.bounded
    refine ⟨fun hidle => absurd (hstate.symm.trans hidle) nofun, congrArg (· ++ payload) h.hash, ?_,
      ?_, fun hlater => ?_⟩
    · show reception.receiver.snapshot.receivedBytes + payload.length = _
      rw [List.length_append, h.received]
    · show reception.receiver.snapshot.receivedBytes + payload.length ≤
        reception.receiver.snapshot.expectedSize
      omega
    · -- Behind the end of the file there is no room for a byte.
      have hfull := (h.staged hlater).1
      have hlength := List.length_pos_iff.mpr hpayload
      omega
  | stages hoperation hcomplete =>
    have happended (later : FileReceiver) :
        appendedBy call later reception.appended = reception.appended := by
      unfold appendedBy
      rw [hoperation]
    rw [step_of_accepted hperform, happended]
    exact h.keep (fun hidle => absurd (hcomplete.1.symm.trans hidle) nofun) rfl rfl rfl rfl
      fun _ => .inr hcomplete
  | finishes hoperation hcomplete =>
    have happended (later : FileReceiver) :
        appendedBy call later reception.appended = reception.appended := by
      unfold appendedBy
      rw [hoperation]
    rw [step_of_accepted hperform, happended]
    exact h.keep nofun rfl rfl rfl rfl fun _ => .inr hcomplete
  | commits hoperation hstate =>
    have happended (later : FileReceiver) :
        appendedBy call later reception.appended = reception.appended := by
      unfold appendedBy
      rw [hoperation]
    rw [step_of_accepted hperform, happended, hends (by rw [hoperation]; rfl)]
    exact h.keep nofun rfl rfl rfl rfl .inl
  | ends hstate htakes =>
    rename_i state
    have hclosed : Sound sha ⟨reception.receiver.closed state, reception.appended,
        reception.staged⟩ := by
      refine h.keep (fun hidle => ?_) rfl rfl rfl rfl .inl
      obtain rfl : state = .idle := hidle
      exact hstate.elim nofun nofun
    cases accepted with
    | true =>
      obtain ⟨htakes, happended⟩ := htakes rfl
      rw [step_of_accepted hperform, happended, hends htakes.2]
      exact hclosed
    | false =>
      rw [step_of_refused hperform]
      exact hclosed

theorem Sound.run (h : reception.Sound sha) (calls : List FileReceiverCall) :
    Sound sha (reception.run qt arg sha calls) := by
  induction calls generalizing reception with
  | nil => exact h
  | cons call rest ih => exact ih (h.step call)

/-- The commit is asked for behind an accepted FILE_END. -/
def ConfirmsStaged (call : FileReceiverCall) (reception : FileReception) : Prop :=
  ∀ committedPath, call.operation = .confirmCommitted committedPath → reception.staged = true

instance (call : FileReceiverCall) (reception : FileReception) :
    Decidable (ConfirmsStaged call reception) :=
  match hoperation : call.operation with
  | .confirmCommitted committedPath =>
    decidable_of_iff (reception.staged = true)
      ⟨fun h _ _ => h, fun h => h committedPath hoperation⟩
  | .begin _ | .resume _ _ | .append _ _ | .checkpoint _ _ _ | .finishStaging _ | .finish _
  | .failCommit _ _ _ | .cancel _ => .isTrue fun _ hother => nomatch hoperation.symm.trans hother

def Committed (reception : FileReception) : Prop :=
  reception.receiver.snapshot.state = .completed → reception.staged = true

theorem Committed.step (h : reception.Committed) (hconfirms : ConfirmsStaged call reception) :
    Committed (reception.step qt arg sha call) := by
  rcases hperform : reception.receiver.perform qt arg sha call with ⟨accepted, later⟩
  have heffect := effect_of_perform hperform
  intro hcompleted
  have hkept (hstaged : reception.staged = true) :
      (reception.step qt arg sha call).staged = true := by
    cases accepted with
    | true =>
      rw [step_of_accepted hperform]
      exact Bool.or_eq_true_iff.mpr (.inl hstaged)
    | false =>
      rw [step_of_refused hperform]
      exact hstaged
  have hreceiver := receiver_step hperform
  rw [hreceiver] at hcompleted
  cases heffect with
  | refuses => exact hkept (h hcompleted)
  | rehashes hidle => exact hkept (h hcompleted)
  | leaves htakes happended => exact hkept (h hcompleted)
  | opens hidle htakes hvalid hlength happended => cases hcompleted
  | appends hoperation hstate hoffset hpayload hsize => exact hkept (h hcompleted)
  | stages hoperation hcomplete => exact hkept (h hcompleted)
  | finishes hoperation hcomplete =>
    rw [step_of_accepted hperform, hoperation]
    exact Bool.or_true _
  | commits hoperation hstate => exact hkept (hconfirms _ hoperation)
  | ends hstate htakes =>
    rename_i state
    obtain rfl : state = .completed := hcompleted
    exact hstate.elim nofun nofun

def Ended (reception : FileReception) : Prop :=
  reception.receiver.snapshot.state = .failed ∨ reception.receiver.snapshot.state = .cancelled ∨
    reception.receiver.snapshot.state = .completed

theorem Ended.step (h : reception.Ended) (call : FileReceiverCall) :
    Ended (reception.step qt arg sha call) := by
  rcases hperform : reception.receiver.perform qt arg sha call with ⟨accepted, later⟩
  have heffect := effect_of_perform hperform
  have hreceiver := receiver_step hperform
  have hrunning {state : FileReceiverState} (hstate : reception.receiver.snapshot.state = state)
      (hopen : state = .idle ∨ state = .receiving) : False := by
    subst hstate
    obtain hcase | hcase | hcase := h <;> rw [hcase] at hopen <;> exact hopen.elim nofun nofun
  unfold Ended
  rw [hreceiver]
  cases heffect with
  | refuses => exact h
  | rehashes hidle => exact (hrunning hidle (.inl rfl)).elim
  | leaves htakes happended => exact h
  | opens hidle htakes hvalid hlength happended => exact (hrunning hidle (.inl rfl)).elim
  | appends hoperation hstate hoffset hpayload hsize => exact (hrunning hstate (.inr rfl)).elim
  | stages hoperation hcomplete => exact (hrunning hcomplete.1 (.inr rfl)).elim
  | finishes hoperation hcomplete => exact .inr (.inr rfl)
  | commits hoperation hstate => exact .inr (.inr rfl)
  | ends hstate htakes => exact hstate.elim .inl fun hcancelled => .inr (.inl hcancelled)

theorem Ended.refuses (h : reception.Ended) (later : List FileReceiverCall)
    (hoperation : call.operation.appends = true ∨ call.operation.endsFile = true) :
    ((reception.run qt arg sha later).receiver.perform qt arg sha call).1 = false := by
  have hended : (reception.run qt arg sha later).Ended := by
    induction later generalizing reception with
    | nil => exact h
    | cons call rest ih => exact ih (h.step call)
  have hstate : (reception.run qt arg sha later).receiver.snapshot.state ≠ .receiving := by
    obtain hcase | hcase | hcase := hended <;> rw [hcase] <;> nofun
  rw [perform_of_not_receiving hstate hoperation]

theorem Sound.append (h : reception.Sound sha) {chunk : FileChunkMessage} {payload : QByteArray}
    (hoperation : call.operation = .append chunk payload)
    (haccepted : (reception.receiver.perform qt arg sha call).1 = true) :
    chunk.offset = reception.appended.length ∧
      (reception.step qt arg sha call).appended = reception.appended ++ payload := by
  have happended (later : FileReceiver) :
      appendedBy call later reception.appended = reception.appended ++ payload := by
    unfold appendedBy
    rw [hoperation]
  rcases hperform : reception.receiver.perform qt arg sha call with ⟨accepted, later⟩
  have heffect := effect_of_perform hperform
  rw [hperform] at haccepted
  obtain rfl : accepted = true := haccepted
  refine ⟨?_, by rw [step_of_accepted hperform, happended]⟩
  have happends (htakes : call.operation.TakesNothing) : False := by
    rw [hoperation] at htakes
    exact absurd htakes.1 nofun
  rw [← h.received]
  cases heffect with
  | leaves htakes _ => exact (happends htakes).elim
  | opens _ htakes _ _ _ => exact (happends htakes).elim
  | appends hsame _ hoffset _ _ =>
    obtain ⟨rfl, -⟩ := FileReceiverOperation.append.inj (hoperation.symm.trans hsame)
    exact hoffset
  | stages hother _ => exact absurd (hoperation.symm.trans hother) nofun
  | finishes hother _ => exact absurd (hoperation.symm.trans hother) nofun
  | commits hother _ => exact absurd (hoperation.symm.trans hother) nofun
  | ends _ htakes => exact (happends (htakes rfl).1).elim

/-- A checkpoint that succeeds raises the offset of the receiver's file to the bytes received, and
changes nothing else but the time. -/
structure Checkpointed (receiver : FileReceiver) (state later : ResumeState)
    (message : FileCheckpointMessage) : Prop where
  file : receiver.snapshot.fileId = some message.fileId
  offset : message.durableOffset = receiver.snapshot.receivedBytes
  raises : ∀ file ∈ state.files, file.fileId = message.fileId →
    file.durableOffset ≤ message.durableOffset
  later : ∃ updatedUtc,
    later = withDurableOffset state message.fileId message.durableOffset updatedUtc

def CheckpointSound (receiver : FileReceiver) (state : ResumeState)
    (performed : DurableCheckpointResult × ResumeStore × ResumeState) : Prop :=
  match performed.1 with
  | .error _ => performed.2.2 = state
  | .ok message => Checkpointed receiver state performed.2.2 message

theorem CheckpointSound.ite {receiver : FileReceiver} {state : ResumeState} {condition : Prop}
    [Decidable condition] {first second : DurableCheckpointResult × ResumeStore × ResumeState}
    (hfirst : CheckpointSound receiver state first)
    (hsecond : ¬ condition → CheckpointSound receiver state second) :
    CheckpointSound receiver state (if condition then first else second) :=
  @iteInduction _ _ _ (CheckpointSound receiver state) _ _ (fun _ => hfirst) hsecond

theorem checkpoint_sound (store : ResumeStore) (state : ResumeState) (updatedUtc : QDateTime)
    (io : FileIo) (receiver : FileReceiver) :
    CheckpointSound receiver state (checkpoint qt store state updatedUtc io receiver) := by
  unfold checkpoint
  dsimp only
  split
  case h_2 => exact rfl
  rename_i transferId fileId _ hfile
  refine .ite rfl fun _ => ?_
  refine .ite rfl fun _ => ?_
  split
  · exact rfl
  rename_i hmany
  split
  · exact rfl
  rename_i file hhead
  refine .ite rfl fun hmatches => ?_
  refine .ite rfl fun _ => ?_
  refine .ite rfl fun _ => ?_
  refine .ite rfl fun _ => ?_
  split
  · exact rfl
  refine ⟨hfile, rfl, fun other hother hid => ?_, updatedUtc, rfl⟩
  have hmem : other ∈ matching state fileId :=
    List.mem_filter.mpr ⟨hother, decide_eq_true hid⟩
  obtain rfl : other = file := by
    cases hfiles : matching state fileId with
    | nil => exact absurd (hfiles ▸ hmem) List.not_mem_nil
    | cons first rest =>
      cases rest with
      | nil =>
        rw [hfiles] at hmem hhead
        exact (List.mem_singleton.mp hmem).trans (Option.some.inj hhead)
      | cons second rest => exact (hmany _ _ _ hfiles).elim
  exact Nat.not_lt.mp fun hpast => hmatches (.inr (.inr (.inr hpast)))

/-- What is received is a prefix of the file, and only the whole file is committed; checkpoints only
raise the durable offset, and an ended receiver takes nothing more. -/
theorem reception_sound (qt : QtText) (arg : ConflictResolver.Arg) (sha : Sha256)
    (calls : List FileReceiverCall) (reception : FileReception)
    (hreception : reception = ({} : FileReception).run qt arg sha calls) :
    (reception.receiver.snapshot.receivedBytes ≤ reception.receiver.snapshot.expectedSize ∧
        reception.receiver.snapshot.receivedBytes = reception.appended.length ∧
        ∀ (call : FileReceiverCall) (chunk : FileChunkMessage) (payload : QByteArray),
          call.operation = .append chunk payload →
          (reception.receiver.perform qt arg sha call).1 = true →
          chunk.offset = reception.appended.length ∧
            (reception.step qt arg sha call).appended = reception.appended ++ payload) ∧
      (Throughout (step qt arg sha) ConfirmsStaged calls {} →
        reception.receiver.snapshot.state = .completed →
        reception.receiver.snapshot.receivedBytes = reception.receiver.snapshot.expectedSize ∧
          sha.hash reception.appended = reception.receiver.expectedSha256) ∧
      (∀ (store : ResumeStore) (state : ResumeState) (updatedUtc : QDateTime) (io : FileIo),
        CheckpointSound reception.receiver state
          (checkpoint qt store state updatedUtc io reception.receiver)) ∧
      (reception.Ended → ∀ (later : List FileReceiverCall) (call : FileReceiverCall),
        call.operation.appends = true ∨ call.operation.endsFile = true →
        ((reception.run qt arg sha later).receiver.perform qt arg sha call).1 = false) := by
  subst hreception
  have hsound : Sound sha (({} : FileReception).run qt arg sha calls) := sound_fresh.run calls
  refine ⟨⟨hsound.bounded, hsound.received, fun _ _ _ => hsound.append⟩, ?_, ?_, ?_⟩
  · intro hconfirms hcompleted
    have hcommitted : Committed (({} : FileReception).run qt arg sha calls) :=
      hconfirms.invariant (fun _ _ hkept hcall => hkept.step hcall) nofun
    exact hsound.staged (hcommitted hcompleted)
  · exact fun store state updatedUtc io => checkpoint_sound store state updatedUtc io _
  · exact fun hended later call hoperation => hended.refuses later hoperation

section Sample

open FileStreaming

def abcBegin : FileReceiveRequest where
  receiveRoot := QString.literal "/inbox"
  entry := abcRequest.source.entry
  begin :=
    { transferId := abcRequest.transferId
      fileId := abcRequest.source.entry.id
      size := 3
      startOffset := 0
      chunkBytes := 4
      expectedSha256 := abcRequest.source.entry.sha256 }
  manifestSha256 := List.replicate 32 9

def abcCalls : List FileReceiverCall :=
  [{ operation := .begin abcBegin },
    { operation := .append ⟨abcRequest.transferId, abcRequest.source.entry.id, 0, 0⟩
        [0x61, 0x62, 0x63] },
    { operation := .finishStaging ⟨abcRequest.transferId, abcRequest.source.entry.id, 3,
        abcRequest.source.entry.sha256⟩ },
    { operation := .confirmCommitted (QString.literal "/inbox/a.txt") }]

theorem reception_sound_abc :
    let reception : FileReception := run QtText.ascii ConflictResolver.asciiArg abcSha256 abcCalls {}
    reception.receiver.snapshot.receivedBytes = reception.receiver.snapshot.expectedSize ∧
      abcSha256.hash reception.appended = reception.receiver.expectedSha256 :=
  (reception_sound QtText.ascii ConflictResolver.asciiArg abcSha256 abcCalls _ rfl).2.1
    (by decide +kernel) (by decide +kernel)

/-- The part disappears, and the commit is confirmed before a chunk has arrived. -/
theorem confirmed_without_staging :
    ¬ ∀ (qt : QtText) (arg : ConflictResolver.Arg) (sha : Sha256) (calls : List FileReceiverCall)
        (reception : FileReception), reception = ({} : FileReception).run qt arg sha calls →
        reception.receiver.snapshot.state = .completed →
        reception.receiver.snapshot.receivedBytes = reception.receiver.snapshot.expectedSize ∧
          sha.hash reception.appended = reception.receiver.expectedSha256 := by
  intro h
  have hcomplete := h QtText.ascii ConflictResolver.asciiArg abcSha256
    [{ operation := .begin abcBegin },
      { operation := .confirmCommitted (QString.literal "/inbox/a.txt") }] _ rfl
    (by decide +kernel)
  exact absurd hcomplete.1 (by decide +kernel)

end Sample

end FileReception

end DeskflowPlus.Transfer
