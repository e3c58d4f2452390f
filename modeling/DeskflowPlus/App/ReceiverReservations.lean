import DeskflowPlus.App.IncomingFileReceiverWorker

/-!
# The reservation of the incoming file worker

A worker holds the one reservation of the file that is open and none otherwise: whatever ends a
file, a refused begin, a skipped target or any way out of `finish`, gives it up. An existing file is
replaced only where the policy that was given, or the answer to the prompt, is to overwrite, and a
path is reported as committed only where the last decided target has taken the verified part.
-/

namespace DeskflowPlus.App

open Transfer

namespace WorkerEvent

/-- Whether an existing file is to be overwritten, where the event says so. -/
def overwrites? : WorkerEvent → Option Bool
  | given policy => some (policy = .overwrite)
  | answered decision => some (decision = .overwrite)
  | _ => none

def decision? : WorkerEvent → Option ConflictDecision
  | decided decision => some decision
  | _ => none

def staged? : WorkerEvent → Option FileReceiver
  | staged receiver => some receiver
  | _ => none

def commit? : WorkerEvent → Option (CommitStagedFileRequest × FileSafetyResult)
  | committing request result _ => some (request, result)
  | _ => none

/-- The policy in force, given or asked for, is to overwrite. -/
def Overwriting (journal : List WorkerEvent) : Prop :=
  journal.findSome? overwrites? = some true

structure Delivered (sha : Sha256) (journal : List WorkerEvent) (path : QString) : Prop where
  decided : ∃ target, journal.findSome? decision? = some (.useTarget target) ∧
    target.absolutePath = path
  committed : ∃ request result receiver, journal.findSome? commit? = some (request, result) ∧
    result.ok = true ∧ request.destinationPath = path ∧
    journal.findSome? staged? = some receiver ∧ receiver.Complete sha ∧
    request.stagingPath = receiver.snapshot.partPath

def Justified (sha : Sha256) (earlier : List WorkerEvent) : WorkerEvent → Prop
  | committing _ result standing => result.ok = true → standing = true → Overwriting earlier
  | reported path => Delivered sha earlier path
  | _ => True

def AllJustified (sha : Sha256) : List WorkerEvent → Prop
  | [] => True
  | event :: earlier => event.Justified sha earlier ∧ AllJustified sha earlier

end WorkerEvent

open WorkerEvent

namespace IncomingFileReceiverWorker

variable {qt : QtText} {relativeFilePath : QString → QString → QString}
  {arg : ConflictResolver.Arg} {sha : Sha256}

/-- A target is reserved under the new identifier, and replaces only under the policy to overwrite;
any other decision reserves nothing. -/
def Answers (qt : QtText) (request : ConflictResolveRequest) (uuid : QUuid)
    (resolver : ConflictResolver) (answer : ConflictDecision × ConflictResolver) : Prop :=
  (∃ target key, answer = (.useTarget target, resolver.insert uuid key) ∧
      target.reservationId = uuid ∧
      (target.commitDisposition = .replaceExisting → request.policy = .overwrite) ∧
      qt.isAbsolutePath request.targetRoot = true) ∨
    (∀ target, answer.1 ≠ .useTarget target) ∧ answer.2 = resolver

theorem isAbsolutePath_of_join {root path : QString} {limits : PathLimits}
    (h : (PathPolicy.joinLexicallyUnderRoot qt root path limits).1.ok = true) :
    qt.isAbsolutePath root = true := by
  by_contra hroot
  unfold PathPolicy.joinLexicallyUnderRoot at h
  rw [if_pos hroot] at h
  cases h

theorem attempt_answers {request : ConflictResolveRequest} {normalized : QString} {index : Nat}
    {view : DirectoryView} {uuid : QUuid} {resolver : ConflictResolver}
    {answer : ConflictDecision × ConflictResolver}
    (h : ConflictResolver.attempt qt arg request normalized index view uuid resolver =
      some answer) : Answers qt request uuid resolver answer := by
  unfold ConflictResolver.attempt at h
  dsimp only at h
  by_cases hok : (PathPolicy.joinLexicallyUnderRoot qt request.targetRoot
      (ConflictResolver.renamedRelativePath arg normalized index) request.pathLimits).1.ok = true
  · rw [if_neg (not_not_intro hok)] at h
    split_ifs at h with hskip hask hreserved hdirectory hrename hreplaces
    · cases h
      exact .inr ⟨nofun, rfl⟩
    · cases h
      exact .inr ⟨nofun, rfl⟩
    · cases h
      exact .inr ⟨nofun, rfl⟩
    · cases h
      exact .inr ⟨nofun, rfl⟩
    · cases h
      exact .inl ⟨_, _, rfl, rfl, fun _ => hreplaces.1, isAbsolutePath_of_join hok⟩
    · cases h
      exact .inl ⟨_, _, rfl, rfl, nofun, isAbsolutePath_of_join hok⟩
  · rw [if_pos hok] at h
    split_ifs at h
    cases h
    exact .inr ⟨nofun, rfl⟩

theorem search_answers {request : ConflictResolveRequest} {normalized : QString}
    {views : Nat → DirectoryView} {uuid : QUuid} {resolver : ConflictResolver}
    (remaining index : Nat) :
    Answers qt request uuid resolver
      (ConflictResolver.search qt arg request normalized views uuid resolver remaining index) := by
  induction remaining generalizing index with
  | zero => exact .inr ⟨nofun, rfl⟩
  | succ remaining ih =>
    rw [ConflictResolver.search]
    split
    · rename_i answer hattempt
      exact attempt_answers hattempt
    · exact ih (index + 1)

theorem resolve_answers (request : ConflictResolveRequest) (views : Nat → DirectoryView)
    (uuid : QUuid) (resolver : ConflictResolver) :
    Answers qt request uuid resolver (resolver.resolve qt arg request views uuid) := by
  unfold ConflictResolver.resolve
  dsimp only
  split
  · exact .inr ⟨nofun, rfl⟩
  · split
    · exact .inr ⟨nofun, rfl⟩
    · exact search_answers _ 0

def HoldsOnly (conflicts : ConflictResolver) (reservationId : QUuid) : Prop :=
  reservationId ≠ 0 ∧ ∃ key, conflicts.reservations = [(reservationId, key)]

variable {conflicts : ConflictResolver}

theorem HoldsOnly.insert {uuid : QUuid} {key : QString} (hempty : conflicts.reservations = [])
    (hnonNull : uuid ≠ 0) :
    HoldsOnly (conflicts.insert uuid key) uuid := by
  refine ⟨hnonNull, key, ?_⟩
  rw [ConflictResolver.insert, hempty]
  rfl

variable {reservationId : QUuid}

theorem HoldsOnly.remove (h : HoldsOnly conflicts reservationId) :
    conflicts.remove reservationId = (true, {}) := by
  obtain ⟨-, key, hkey⟩ := h
  rw [ConflictResolver.remove, hkey]
  simp

theorem HoldsOnly.release (h : HoldsOnly conflicts reservationId) :
    (conflicts.release reservationId).2.reservations = [] := by
  rw [ConflictResolver.release, if_neg h.1, h.remove]

theorem HoldsOnly.retry (h : HoldsOnly conflicts reservationId) (request : ConflictResolveRequest)
    (views : Nat → DirectoryView) (uuid : QUuid) :
    conflicts.retry qt arg request reservationId views uuid =
      ({} : ConflictResolver).resolve qt arg request views uuid := by
  rw [ConflictResolver.retry, if_neg h.1, h.remove]
  rfl

structure Holds (request : ConflictResolveRequest) (conflicts : ConflictResolver)
    (journal : List WorkerEvent) (target : UseTarget) : Prop where
  only : HoldsOnly conflicts target.reservationId
  decided : journal.findSome? decision? = some (.useTarget target)
  replaces : target.commitDisposition = .replaceExisting → request.policy = .overwrite

structure Committing (sha : Sha256) (worker : IncomingFileReceiverWorker)
    (journal : List WorkerEvent) : Prop where
  justified : AllJustified sha journal
  overwriting : worker.conflictRequest.policy = .overwrite → Overwriting journal
  staged : ∃ receiver, journal.findSome? staged? = some receiver ∧ receiver.Complete sha ∧
    receiver.snapshot.partPath = worker.receiver.snapshot.partPath

/-- The loop has come to its end: at most the reservation of the target is left. -/
structure Settled (sha : Sha256) (worker : IncomingFileReceiverWorker) (outcome : CommitOutcome) :
    Prop where
  committing : Committing sha worker outcome.journal
  released : ∀ target, outcome.target = some target →
    HoldsOnly outcome.conflicts target.reservationId
  empty : outcome.target = none → outcome.conflicts.reservations = []
  delivered : outcome.committedPath ≠ [] → outcome.commit.ok = true →
    Delivered sha outcome.journal outcome.committedPath

variable {worker : IncomingFileReceiverWorker} {journal : List WorkerEvent}

theorem Committing.decided (h : Committing sha worker journal) (decision : ConflictDecision) :
    Committing sha worker (.decided decision :: journal) :=
  ⟨⟨trivial, h.justified⟩, h.overwriting, h.staged⟩

variable {target : UseTarget}

theorem Committing.commit (h : Committing sha worker journal)
    (hholds : Holds worker.conflictRequest conflicts journal target) (io : WorkerIo) (attempt : Nat) :
    Committing sha worker
      (.committing (worker.commitRequest target)
        (io.commits.commitStagedFile attempt (worker.commitRequest target))
        (io.commits.standing attempt target.absolutePath) :: journal) := by
  refine ⟨⟨fun hok hstanding => h.overwriting (hholds.replaces ?_), h.justified⟩,
    h.overwriting, h.staged⟩
  cases hdisposition : target.commitDisposition with
  | replaceExisting => rfl
  | failIfExists =>
    have hfree := io.commits.failsIfExists attempt (worker.commitRequest target) hok hdisposition
    exact absurd (hstanding.symm.trans hfree) (by decide)

inductive Rounds (sha : Sha256) (worker : IncomingFileReceiverWorker) : CommitRound → Prop
  | ends {outcome : CommitOutcome} (h : Settled sha worker outcome) :
      Rounds sha worker (.ends outcome)
  | again {commit : FileSafetyResult} {target : UseTarget} {conflicts : ConflictResolver}
      {journal : List WorkerEvent} (h : Committing sha worker journal)
      (hholds : Holds worker.conflictRequest conflicts journal target) :
      Rounds sha worker (.again commit target conflicts journal)

theorem Settled.of_empty (h : Committing sha worker journal) {commit : FileSafetyResult}
    (hempty : conflicts.reservations = []) :
    Settled sha worker { commit, target := none, conflicts, journal } :=
  ⟨h, nofun, fun _ => hempty, fun hpath => absurd rfl hpath⟩

variable {io : WorkerIo}

theorem commitRound_rounds {attempt : Nat} (h : Committing sha worker journal)
    (hholds : Holds worker.conflictRequest conflicts journal target) :
    Rounds sha worker (worker.commitRound qt arg io attempt target conflicts journal) := by
  have hcommitting : Committing sha worker _ := h.commit hholds io attempt
  unfold commitRound
  dsimp only
  split
  · rename_i hok
    refine .ends ⟨hcommitting, nofun, fun _ => hholds.only.release, fun _ _ => ?_⟩
    obtain ⟨receiver, hstaged, hcomplete, hpart⟩ := h.staged
    exact ⟨⟨target, hholds.decided, rfl⟩,
      ⟨_, _, receiver, rfl, hok, rfl, hstaged, hcomplete, hpart.symm⟩⟩
  · split
    · refine .ends ⟨hcommitting, ?_, nofun, fun hpath => absurd rfl hpath⟩
      rintro held ⟨⟩
      exact hholds.only
    · rw [hholds.only.retry]
      have hanswers : Answers qt worker.conflictRequest (io.createUuid (attempt + 1)).val {} _ :=
        @resolve_answers qt arg _ (io.views (attempt + 1)) _ _
      generalize ({} : ConflictResolver).resolve qt arg worker.conflictRequest
        (io.views (attempt + 1)) (io.createUuid (attempt + 1)).val = answer at hanswers
      obtain ⟨next, key, rfl, hid, hreplaces, -⟩ | ⟨hother, hsame⟩ := hanswers
      · have honly : HoldsOnly
            (({} : ConflictResolver).insert (io.createUuid (attempt + 1)).val key)
            next.reservationId := by
          rw [hid]
          exact .insert rfl (io.createUuid (attempt + 1)).property
        dsimp only
        split
        · exact .ends (.of_empty (hcommitting.decided _) honly.release)
        · split
          · exact .ends (.of_empty (hcommitting.decided _) honly.release)
          · exact .again (hcommitting.decided _) ⟨honly, rfl, hreplaces⟩
      · obtain ⟨decision, after⟩ := answer
        obtain rfl : after = {} := hsame
        cases decision with
        | useTarget next => exact absurd rfl (hother next)
        | failure => exact .ends (.of_empty (hcommitting.decided _) rfl)
        | skipTarget => exact .ends (.of_empty (hcommitting.decided _) rfl)
        | askTarget => exact .ends (.of_empty (hcommitting.decided _) rfl)

theorem commitLoop_settled {remaining attempt : Nat} {commit : FileSafetyResult}
    (h : Committing sha worker journal)
    (hholds : Holds worker.conflictRequest conflicts journal target) :
    Settled sha worker
      (worker.commitLoop qt arg io remaining attempt commit target conflicts journal) := by
  induction remaining generalizing attempt commit target conflicts journal with
  | zero =>
    refine ⟨h, ?_, nofun, fun hpath => absurd rfl hpath⟩
    rintro held ⟨⟩
    exact hholds.only
  | succ remaining ih =>
    have hround : Rounds sha worker
        (worker.commitRound qt arg io attempt target conflicts journal) :=
      commitRound_rounds h hholds
    unfold commitLoop
    generalize worker.commitRound qt arg io attempt target conflicts journal = round at hround
    cases hround with
    | ends hsettled => exact hsettled
    | again hagain hnext => exact ih hagain hnext

structure Idle (sha : Sha256) (worker : IncomingFileReceiverWorker) : Prop where
  justified : AllJustified sha worker.journal
  no_target : worker.target = none
  empty : worker.conflicts.reservations = []

structure Open (sha : Sha256) (worker : IncomingFileReceiverWorker) (target : UseTarget) :
    Prop where
  justified : AllJustified sha worker.journal
  open_target : worker.target = some target
  holds : Holds worker.conflictRequest worker.conflicts worker.journal target
  overwriting : worker.conflictRequest.policy = .overwrite → Overwriting worker.journal
  unanswered : worker.pendingRequest = none
  receiveRoot : worker.receiveRoot ≠ []

def Begun (sha : Sha256) (begun : FileReceiverResult × IncomingFileReceiverWorker) : Prop :=
  Idle sha begun.2 ∧ (begun.1.ok && begun.2.disposition = .receive) = false ∨
    (∃ target, Open sha begun.2 target) ∧ (begun.1.ok && begun.2.disposition = .receive) = true

theorem begun_of_refused {result : FileReceiverResult} (hidle : Idle sha worker)
    (hrefused : result.ok = false) : Begun sha (result, worker) :=
  .inl ⟨hidle, by rw [hrefused]; rfl⟩

theorem openTarget_begun {request : FileReceiveRequest} {resumeState : Option ResumeState}
    (hjustified : AllJustified sha worker.journal) (htarget : worker.target = none)
    (hholds : Holds worker.conflictRequest worker.conflicts worker.journal target)
    (hoverwriting : worker.conflictRequest.policy = .overwrite → Overwriting worker.journal)
    (hunanswered : worker.pendingRequest = none) (hreceives : worker.disposition = .receive)
    (hroot : request.receiveRoot ≠ []) :
    Begun sha (worker.openTarget qt relativeFilePath request resumeState target io) := by
  unfold openTarget
  dsimp only
  split
  · rename_i hrefused
    exact begun_of_refused ⟨hjustified, htarget, hholds.only.release⟩
      (Bool.eq_false_of_not_eq_true hrefused)
  · rename_i hbegun
    refine .inr ⟨⟨target, hjustified, rfl, hholds, hoverwriting, hunanswered, hroot⟩, ?_⟩
    rw [not_not.mp hbegun]
    exact decide_eq_true hreceives

theorem beginInternal_begun (hempty : qt.isAbsolutePath [] = false) {request : FileReceiveRequest}
    {resumeState : Option ResumeState} (hidle : Idle sha worker)
    (hoverwriting : request.conflictPolicy = .overwrite → Overwriting worker.journal) :
    Begun sha (worker.beginInternal qt relativeFilePath arg request resumeState io) := by
  unfold beginInternal
  split
  · exact begun_of_refused hidle rfl
  · dsimp only
    split
    · exact begun_of_refused hidle (safetyFailure_ok _)
    · generalize hrequest : (ConflictResolveRequest.mk request.receiveRoot
        request.entry.relativeProtocolPath request.conflictPolicy request.pathLimits
        kDefaultConflictRenameAttempts) = conflictRequest
      have hanswers : Answers qt conflictRequest (io.createUuid 0).val worker.conflicts _ :=
        @resolve_answers qt arg _ (io.views 0) _ _
      generalize worker.conflicts.resolve qt arg conflictRequest (io.views 0)
        (io.createUuid 0).val = answer at hanswers
      obtain ⟨target, key, rfl, hid, hreplaces, habsolute⟩ | ⟨hother, hsame⟩ := hanswers
      · have honly : HoldsOnly (worker.conflicts.insert (io.createUuid 0).val key)
            target.reservationId := by
          rw [hid]
          exact .insert hidle.empty (io.createUuid 0).property
        refine openTarget_begun ⟨trivial, hidle.justified⟩ hidle.no_target
          ⟨honly, rfl, hreplaces⟩ ?_ rfl rfl ?_
        · intro hpolicy
          rw [← hrequest] at hpolicy
          exact hoverwriting hpolicy
        · intro hroot
          rw [← hrequest] at habsolute
          rw [hroot, hempty] at habsolute
          cases habsolute
      · obtain ⟨decision, after⟩ := answer
        obtain rfl : after = worker.conflicts := hsame
        have hidle' : AllJustified sha (.decided decision :: worker.journal) :=
          ⟨trivial, hidle.justified⟩
        cases decision with
        | useTarget next => exact absurd rfl (hother next)
        | failure error pathError diagnostic =>
          refine begun_of_refused ⟨hidle', hidle.no_target, hidle.empty⟩ ?_
          dsimp only [FileReceiver.failure, FileReceiverResult.ok]
          split <;> rfl
        | skipTarget => exact .inl ⟨⟨hidle', hidle.no_target, hidle.empty⟩, rfl⟩
        | askTarget => exact begun_of_refused ⟨hidle', hidle.no_target, hidle.empty⟩ rfl

theorem resolveConflict_begun (hempty : qt.isAbsolutePath [] = false)
    {decision : IncomingConflictDecision} (hidle : Idle sha worker) :
    Begun sha (worker.resolveConflict qt relativeFilePath arg decision io) := by
  unfold resolveConflict
  split
  · exact begun_of_refused hidle rfl
  · split
    · exact begun_of_refused hidle rfl
    · split
      · exact begun_of_refused hidle rfl
      · apply beginInternal_begun hempty
        · exact ⟨⟨trivial, hidle.justified⟩, hidle.no_target, hidle.empty⟩
        · intro hpolicy
          cases decision with
          | overwrite => rfl
          | autoRename => cases hpolicy
          | skip => cases hpolicy
          | cancelTransfer => cases hpolicy

theorem resolveConflict_open {decision : IncomingConflictDecision} (hopen : Open sha worker target) :
    (worker.resolveConflict qt relativeFilePath arg decision io).2 = worker := by
  unfold resolveConflict
  rw [hopen.unanswered]
  split <;> rfl

theorem append_worker (chunk : FileChunkMessage) (payload : QByteArray) (io : WorkerIo)
    (worker : IncomingFileReceiverWorker) :
    ∃ receiver, (worker.append chunk payload io).2 = { worker with receiver } := by
  unfold append
  split
  · exact ⟨worker.receiver, rfl⟩
  · exact ⟨_, rfl⟩

theorem conclude_idle {outcome : CommitOutcome} (h : Settled sha worker outcome) :
    Idle sha (worker.conclude io outcome).2 := by
  unfold conclude
  extract_lets conflicts concluded removes
  have hreleased : conflicts.reservations = [] := by
    cases htarget : outcome.target with
    | none => simpa only [conflicts, htarget] using h.empty htarget
    | some target => simpa only [conflicts, htarget] using (h.released target htarget).release
  split
  · refine ⟨?_, rfl, hreleased⟩
    dsimp only
    split
    · exact ⟨trivial, h.committing.justified⟩
    · exact h.committing.justified
  · rename_i hok
    refine ⟨?_, rfl, hreleased⟩
    dsimp only
    split
    · rename_i hconfirmed
      unfold FileReceiver.confirmCommitted at hconfirmed ⊢
      split
      · rename_i hrefused
        rw [if_pos hrefused] at hconfirmed
        cases hconfirmed
      · rename_i hcommitted
        obtain ⟨-, hpath⟩ := not_or.mp hcommitted
        obtain ⟨hpath, -⟩ := not_or.mp hpath
        exact ⟨h.delivered hpath (not_not.mp hok), h.committing.justified⟩
    · exact h.committing.justified

theorem finish_idle {fileEnd : FileEndMessage} (hopen : Open sha worker target)
    (howning : io.owningThread = true) :
    Idle sha (worker.finish qt arg sha fileEnd io).2 := by
  unfold finish
  rw [if_neg (not_not_intro howning), hopen.open_target]
  dsimp only
  rw [if_neg hopen.receiveRoot]
  have hfinishing : FileReceiver.Finishing sha worker.receiver _ :=
    FileReceiver.finishStaging_cases fileEnd io.file worker.receiver
  generalize FileReceiver.finishStaging sha fileEnd io.file worker.receiver = finishing
    at hfinishing
  cases hfinishing with
  | refuses hrefused =>
    rw [hrefused, if_pos Bool.false_ne_true]
    exact ⟨hopen.justified, rfl, hopen.holds.only.release⟩
  | fails hfailed =>
    rw [hfailed, if_pos Bool.false_ne_true]
    exact ⟨hopen.justified, rfl, hopen.holds.only.release⟩
  | stages hcomplete =>
    have hstaged : ¬ ¬ ({} : FileReceiverResult).ok = true := not_not_intro rfl
    dsimp only
    rw [if_neg hstaged]
    apply conclude_idle
    apply commitLoop_settled
    · exact ⟨⟨trivial, hopen.justified⟩, hopen.overwriting, worker.receiver, rfl, hcomplete, rfl⟩
    · exact ⟨hopen.holds.only, hopen.holds.decided, hopen.holds.replaces⟩

end IncomingFileReceiverWorker

inductive WorkerCall where
  | begin (request : FileReceiveRequest)
  | resume (request : FileReceiveRequest) (state : ResumeState)
  | resolveConflict (decision : IncomingConflictDecision)
  | append (chunk : FileChunkMessage) (payload : QByteArray)
  | finish (fileEnd : FileEndMessage)

/-- A worker, and whether a file was begun that is not finished yet. -/
structure WorkerSession where
  worker : IncomingFileReceiverWorker := {}
  opened : Bool := false

namespace WorkerSession

variable (qt : QtText) (relativeFilePath : QString → QString → QString)
  (arg : ConflictResolver.Arg) (sha : Sha256)

/-- A begin opens a file unless it fails or skips. -/
def begun (result : FileReceiverResult × IncomingFileReceiverWorker) : WorkerSession :=
  ⟨result.2, result.1.ok && result.2.disposition = .receive⟩

def step (session : WorkerSession) (call : WorkerCall × WorkerIo) : Option WorkerSession :=
  let (call, io) := call
  match call with
  | .begin request =>
    if session.opened then none
    else some (begun (session.worker.begin qt relativeFilePath arg request io))
  | .resume request state =>
    if session.opened then none
    else some (begun (session.worker.resume qt relativeFilePath arg request state io))
  | .resolveConflict decision =>
    let result := session.worker.resolveConflict qt relativeFilePath arg decision io
    some ⟨result.2, session.opened || (begun result).opened⟩
  | .append chunk payload =>
    some { session with worker := (session.worker.append chunk payload io).2 }
  | .finish fileEnd =>
    some ⟨(session.worker.finish qt arg sha fileEnd io).2, session.opened && !io.owningThread⟩

def machine : Machine WorkerSession (WorkerCall × WorkerIo) where
  start session := session = {}
  step := step qt relativeFilePath arg sha

/-- One reservation while a file is open and none otherwise; nothing is replaced but where that is
asked for, and nothing is reported that was not verified and committed. -/
structure Safe (session : WorkerSession) : Prop where
  reservations : session.worker.conflicts.reservations.length = if session.opened then 1 else 0
  journal : AllJustified sha session.worker.journal

open IncomingFileReceiverWorker

def Tracked (session : WorkerSession) : Prop :=
  Idle sha session.worker ∧ session.opened = false ∨
    (∃ target, Open sha session.worker target) ∧ session.opened = true

variable {qt relativeFilePath arg sha}

theorem Tracked.safe {session : WorkerSession} (h : Tracked sha session) : Safe sha session := by
  obtain ⟨hidle, hopened⟩ | ⟨⟨target, hopen⟩, hopened⟩ := h
  · refine ⟨?_, hidle.justified⟩
    rw [hidle.empty, hopened]
    rfl
  · refine ⟨?_, hopen.justified⟩
    obtain ⟨-, key, hkey⟩ := hopen.holds.only
    rw [hkey, hopened]
    rfl

theorem Tracked.step (hempty : qt.isAbsolutePath [] = false) {session after : WorkerSession}
    {call : WorkerCall × WorkerIo} (h : Tracked sha session)
    (hstep : step qt relativeFilePath arg sha session call = some after) : Tracked sha after := by
  obtain ⟨call, io⟩ := call
  cases call with
  | begin request | resume request state =>
    obtain ⟨hclosed, hafter⟩ := Option.ite_none_left_eq_some.mp hstep
    cases hafter
    obtain ⟨hidle, -⟩ | ⟨-, hopened⟩ := h
    · refine beginInternal_begun hempty
        ⟨⟨trivial, hidle.justified⟩, hidle.no_target, hidle.empty⟩ ?_
      exact fun hpolicy => congrArg some (decide_eq_true hpolicy)
    · exact absurd hopened hclosed
  | resolveConflict decision =>
    cases hstep
    obtain ⟨hidle, hclosed⟩ | ⟨⟨target, hopen⟩, hopened⟩ := h
    · rw [hclosed]
      exact resolveConflict_begun hempty hidle
    · have hsame : (session.worker.resolveConflict qt relativeFilePath arg decision io).2 =
          session.worker := resolveConflict_open hopen
      refine .inr ⟨⟨target, ?_⟩, by rw [hopened]; rfl⟩
      rw [hsame]
      exact hopen
  | append chunk payload =>
    cases hstep
    obtain ⟨receiver, hworker⟩ := append_worker chunk payload io session.worker
    rw [hworker]
    obtain ⟨hidle, hclosed⟩ | ⟨⟨target, hopen⟩, hopened⟩ := h
    · exact .inl ⟨⟨hidle.justified, hidle.no_target, hidle.empty⟩, hclosed⟩
    · exact .inr ⟨⟨target, hopen.justified, hopen.open_target, hopen.holds, hopen.overwriting,
        hopen.unanswered, hopen.receiveRoot⟩, hopened⟩
  | finish fileEnd =>
    cases hstep
    obtain ⟨hidle, hclosed⟩ | ⟨⟨target, hopen⟩, hopened⟩ := h
    · refine .inl ⟨?_, by rw [hclosed]; rfl⟩
      unfold finish
      rw [hidle.no_target]
      split <;> exact hidle
    · by_cases howning : io.owningThread = true
      · exact .inl ⟨finish_idle hopen howning, by rw [howning, Bool.not_true, Bool.and_false]⟩
      · refine .inr ⟨⟨target, ?_⟩, ?_⟩
        · unfold finish
          rw [if_pos howning]
          exact hopen
        · rw [hopened, Bool.eq_false_of_not_eq_true howning]
          rfl

end WorkerSession

end DeskflowPlus.App
