import DeskflowPlus.FileTransport.FileTlsTransport

/-!
# The authentication gate

What a connection is for, as a machine of its own: it hears one HELLO that fits the peer's
certificate and one accepting AUTH_RESULT, in either order, opens, and then lets frames through one
by one; whatever else it hears closes it.
-/

namespace DeskflowPlus.FileTransport

open Transfer Trust

def helloVerified (trustedDevices : TrustedDeviceStore) (digest : QByteArray) (frame : Frame) :
    Bool :=
  frame.payload = [] && frame.streamId = 0 &&
    match SessionMessageCodec.decodeHello frame.type frame.metadata with
    | .error _ => false
    | .ok hello => hello.certificateFingerprintSha256 = digest &&
      (TlsPeerPinningPolicy.verify trustedDevices hello.deviceId digest).ok

def resultAccepted (frame : Frame) : Bool :=
  frame.payload = [] && frame.streamId = 0 &&
    match SessionMessageCodec.decodeAuthResult frame.type frame.metadata with
    | .error _ => false
    | .ok message => message.accepted

inductive GatePhase where
  | greeting (certificate : Option QByteArray) (hello result : Bool)
  | opened
  | delivering (frame : Frame)
  | refusing
  | closed
  deriving DecidableEq

namespace GatePhase

def hear (trustedDevices : TrustedDeviceStore) (frame : Frame) : GatePhase → Option GatePhase
  | .greeting certificate hello result =>
    if ¬ hello ∧ certificate.any (helloVerified trustedDevices · frame) then
      some (.greeting certificate true result)
    else if ¬ result ∧ resultAccepted frame then some (.greeting certificate hello true)
    else some .refusing
  | .opened =>
    if frame.type = .hello ∨ frame.type = .authResult then some .refusing
    else some (.delivering frame)
  | _ => none

def step (phase : GatePhase) : ConnectionTrace → Option GatePhase
  | .writeCapacityAvailable _ | .disconnected => some phase
  | .peerCertificate digest =>
    match phase with
    | .greeting none hello result => some (.greeting (some digest) hello result)
    | _ => none
  | .handled trustedDevices frame => phase.hear trustedDevices frame
  | .authenticated =>
    match phase with
    | .greeting _ true true => some .opened
    | _ => none
  | .frameReceived frame => if phase = .delivering frame then some .opened else none
  | .failed _ _ =>
    match phase with
    | .greeting _ _ _ | .opened | .refusing => some .closed
    | _ => none

end GatePhase

def gate : Machine GatePhase ConnectionTrace where
  start phase := phase = .greeting none false false
  step := GatePhase.step

def handledFrames (trace : List ConnectionTrace) : List (TrustedDeviceStore × Frame) :=
  trace.filterMap fun
    | .handled trustedDevices frame => some (trustedDevices, frame)
    | _ => none

variable {store : TrustedDeviceStore} {frame : Frame}

theorem type_of_helloVerified {digest : QByteArray} (h : helloVerified store digest frame = true) :
    frame.type = .hello := by
  unfold helloVerified at h
  split at h
  · simp at h
  · rename_i hello hdecode
    unfold SessionMessageCodec.decodeHello at hdecode
    obtain ⟨_, htype, -⟩ := Checks.bind_eq_ok.mp hdecode
    exact Checks.require_eq_ok.mp htype

theorem type_of_resultAccepted (h : resultAccepted frame = true) :
    frame.type = .authResult := by
  unfold resultAccepted at h
  split at h
  · simp at h
  · rename_i message hdecode
    unfold SessionMessageCodec.decodeAuthResult at hdecode
    obtain ⟨_, htype, -⟩ := Checks.bind_eq_ok.mp hdecode
    exact Checks.require_eq_ok.mp htype

/-- The event is neither a frame nor the opening. -/
def quiet : ConnectionTrace → Bool
  | .handled _ _ | .authenticated | .frameReceived _ => false
  | _ => true

variable {trace : List ConnectionTrace} {event : ConnectionTrace}

theorem handledFrames_concat_quiet (h : quiet event = true) :
    handledFrames (trace ++ [event]) = handledFrames trace := by
  unfold handledFrames
  rw [List.filterMap_append]
  cases event with
  | handled store frame => cases h
  | _ => exact List.append_nil _

theorem handledFrames_concat : handledFrames (trace ++ [.handled store frame]) =
      handledFrames trace ++ [(store, frame)] := by
  unfold handledFrames
  rw [List.filterMap_append]
  rfl

structure Heard (certificate : Option QByteArray) (hello result : Bool)
    (trace : List ConnectionTrace) : Prop where
  shut : .authenticated ∉ trace ∧ ∀ frame, .frameReceived frame ∉ trace
  pinned : ∀ digest, certificate = some digest → .peerCertificate digest ∈ trace
  frames : ∃ hellos results, (handledFrames trace).Perm (hellos ++ results) ∧
    hellos.length = hello.toNat ∧ results.length = result.toNat ∧
    (∀ heard ∈ hellos, certificate.any (helloVerified heard.1 · heard.2) = true) ∧
    ∀ heard ∈ results, resultAccepted heard.2 = true

theorem shut_concat (h : .authenticated ∉ trace ∧ ∀ frame, .frameReceived frame ∉ trace)
    (hauthenticated : event ≠ .authenticated) (hreceived : ∀ frame, event ≠ .frameReceived frame) :
    .authenticated ∉ trace ++ [event] ∧ ∀ frame, .frameReceived frame ∉ trace ++ [event] := by
  refine ⟨fun hmem => ?_, fun frame hmem => ?_⟩
  · rcases List.mem_append.mp hmem with hmem | hmem
    · exact h.1 hmem
    · exact hauthenticated (List.mem_singleton.mp hmem).symm
  · rcases List.mem_append.mp hmem with hmem | hmem
    · exact h.2 frame hmem
    · exact hreceived frame (List.mem_singleton.mp hmem).symm

namespace Heard

variable {certificate : Option QByteArray} {hello result : Bool} {trace : List ConnectionTrace}

theorem empty : Heard none false false [] where
  shut := ⟨List.not_mem_nil, fun _ => List.not_mem_nil⟩
  pinned _ h := by cases h
  frames := ⟨[], [], .refl _, rfl, rfl, nofun, nofun⟩

theorem concat_quiet {event : ConnectionTrace} (h : Heard certificate hello result trace)
    (hquiet : quiet event = true) : Heard certificate hello result (trace ++ [event]) where
  shut := shut_concat h.shut (by rintro rfl; cases hquiet) (by rintro _ rfl; cases hquiet)
  pinned digest hdigest := List.mem_append_left _ (h.pinned digest hdigest)
  frames := by
    rw [handledFrames_concat_quiet hquiet]
    exact h.frames

theorem concat_certificate {digest : QByteArray} (h : Heard none hello result trace) :
    Heard (some digest) hello result (trace ++ [.peerCertificate digest]) where
  shut := shut_concat h.shut nofun nofun
  pinned _ hdigest := by
    cases hdigest
    exact List.mem_append_right _ (List.mem_singleton_self _)
  frames := by
    rw [handledFrames_concat_quiet rfl]
    obtain ⟨hellos, results, hperm, hhello, hresult, hverified, haccepted⟩ := h.frames
    exact ⟨hellos, results, hperm, hhello, hresult,
      fun heard hmem => absurd (hverified heard hmem) Bool.false_ne_true, haccepted⟩

theorem concat_hello {store : TrustedDeviceStore} {frame : Frame}
    (h : Heard certificate false result trace)
    (hverified : certificate.any (helloVerified store · frame) = true) :
    Heard certificate true result (trace ++ [.handled store frame]) where
  shut := shut_concat h.shut nofun nofun
  pinned digest hdigest := List.mem_append_left _ (h.pinned digest hdigest)
  frames := by
    rw [handledFrames_concat]
    obtain ⟨hellos, results, hperm, hhello, hresult, -, haccepted⟩ := h.frames
    obtain rfl : hellos = [] := List.length_eq_zero_iff.mp hhello
    refine ⟨[(store, frame)], results, ?_, rfl, hresult, ?_, haccepted⟩
    · exact (hperm.append_right _).trans List.perm_append_comm
    · intro heard hmem
      obtain rfl := List.mem_singleton.mp hmem
      exact hverified

theorem concat_result {store : TrustedDeviceStore} {frame : Frame}
    (h : Heard certificate hello false trace) (haccepts : resultAccepted frame = true) :
    Heard certificate hello true (trace ++ [.handled store frame]) where
  shut := shut_concat h.shut nofun nofun
  pinned digest hdigest := List.mem_append_left _ (h.pinned digest hdigest)
  frames := by
    rw [handledFrames_concat]
    obtain ⟨hellos, results, hperm, hhello, hresult, hverified, -⟩ := h.frames
    obtain rfl : results = [] := List.length_eq_zero_iff.mp hresult
    refine ⟨hellos, [(store, frame)], ?_, hhello, rfl, hverified, ?_⟩
    · rw [List.append_nil] at hperm
      exact hperm.append_right _
    · intro heard hmem
      obtain rfl := List.mem_singleton.mp hmem
      exact haccepts

end Heard

variable {certificate : Option QByteArray}

theorem GatePhase.step_eq_greeting {phase : GatePhase} {hello result : Bool}
    (h : phase.step event = some (.greeting certificate hello result)) :
    (quiet event = true ∧ phase = .greeting certificate hello result) ∨
    (∃ digest, event = .peerCertificate digest ∧ certificate = some digest ∧
      phase = .greeting none hello result) ∨
    (∃ store frame, event = .handled store frame ∧ hello = true ∧
      phase = .greeting certificate false result ∧
      certificate.any (helloVerified store · frame) = true) ∨
    ∃ store frame, event = .handled store frame ∧ result = true ∧
      phase = .greeting certificate hello false ∧ resultAccepted frame = true := by
  cases event with
  | writeCapacityAvailable queuedBytes => exact .inl ⟨rfl, Option.some.inj h⟩
  | disconnected => exact .inl ⟨rfl, Option.some.inj h⟩
  | peerCertificate digest =>
    rcases phase with ⟨_ | certificate, hello, result⟩ | _ | _ | _ | _
    · cases h
      exact .inr (.inl ⟨digest, rfl, rfl, rfl⟩)
    all_goals cases h
  | authenticated =>
    rcases phase with ⟨certificate, _ | _, _ | _⟩ | _ | _ | _ | _ <;> cases h
  | frameReceived frame =>
    dsimp only [step] at h
    split at h <;> cases h
  | failed error diagnostic => cases phase <;> cases h
  | handled store frame =>
    cases phase with
    | greeting certificate' hello' result' =>
      dsimp only [step, hear] at h
      split at h
      · rename_i hverified
        cases h
        exact .inr (.inr (.inl ⟨store, frame, rfl, rfl, by
          rw [Bool.not_eq_true] at hverified
          rw [hverified.1], hverified.2⟩))
      split at h
      · rename_i haccepts
        cases h
        exact .inr (.inr (.inr ⟨store, frame, rfl, rfl, by
          rw [Bool.not_eq_true] at haccepts
          rw [haccepts.1], haccepts.2⟩))
      · cases h
    | opened =>
      dsimp only [step, hear] at h
      split at h <;> cases h
    | _ => cases h

theorem heard_of_exec {hello result : Bool}
    (h : gate.exec (.greeting none false false) trace = some (.greeting certificate hello result)) :
    Heard certificate hello result trace := by
  induction trace using List.reverseRecOn generalizing certificate hello result with
  | nil =>
    cases h
    exact .empty
  | append_singleton trace event ih =>
    obtain ⟨middle, hbefore, hstep⟩ := Machine.exec_concat h
    rcases GatePhase.step_eq_greeting hstep with
      ⟨hquiet, rfl⟩ | ⟨digest, rfl, rfl, rfl⟩ | ⟨store, frame, rfl, rfl, rfl, hverified⟩ |
        ⟨store, frame, rfl, rfl, rfl, haccepts⟩
    · exact (ih hbefore).concat_quiet hquiet
    · exact (ih hbefore).concat_certificate
    · exact (ih hbefore).concat_hello hverified
    · exact (ih hbefore).concat_result haccepts

/-- What was heard when the gate opens. -/
def Greeted (trace : List ConnectionTrace) : Prop :=
  ∃ digest hello result, .peerCertificate digest ∈ trace ∧
    (handledFrames trace).Perm [hello, result] ∧
    helloVerified hello.1 digest hello.2 = true ∧ resultAccepted result.2 = true

theorem Heard.greeted (h : Heard certificate true true trace) : Greeted trace := by
  obtain ⟨hellos, results, hperm, hhello, hresult, hverified, haccepts⟩ := h.frames
  obtain ⟨hello, rfl⟩ := List.length_eq_one_iff.mp hhello
  obtain ⟨result, rfl⟩ := List.length_eq_one_iff.mp hresult
  have hverified := hverified hello (List.mem_singleton_self _)
  cases certificate with
  | none => exact absurd hverified Bool.false_ne_true
  | some digest =>
    exact ⟨digest, hello, result, h.pinned digest rfl, hperm, hverified,
      haccepts result (List.mem_singleton_self _)⟩

namespace GatePhase

def waits : GatePhase → Bool
  | .greeting _ _ _ => true
  | _ => false

def refused : GatePhase → Bool
  | .refusing | .closed => true
  | _ => false

variable {next : GatePhase} {event : ConnectionTrace}

theorem step_not_waits {phase : GatePhase} (h : phase.step event = some next)
    (hwaits : phase.waits = false) :
    next.waits = false ∧ event ≠ .authenticated := by
  refine ⟨?_, fun hopening => ?_⟩
  · cases next with
    | greeting certificate hello result =>
      rcases step_eq_greeting h with
        ⟨-, rfl⟩ | ⟨_, -, -, rfl⟩ | ⟨_, _, -, -, rfl, -⟩ | ⟨_, _, -, -, rfl, -⟩ <;> cases hwaits
    | _ => rfl
  · subst hopening
    cases phase with
    | greeting certificate hello result => cases hwaits
    | _ => cases h

theorem step_refused {phase : GatePhase} (h : phase.step event = some next)
    (hrefused : phase.refused = true) :
    next.refused = true ∧ quiet event = true := by
  cases phase with
  | refusing =>
    cases event with
    | frameReceived frame => cases h
    | _ => cases h <;> exact ⟨rfl, rfl⟩
  | closed =>
    cases event with
    | frameReceived frame => cases h
    | _ => cases h <;> exact ⟨rfl, rfl⟩
  | _ => cases hrefused

theorem step_refusing (h : step .refusing event = some next) :
    next = .refusing ∨ ∃ error diagnostic, event = .failed error diagnostic := by
  cases event with
  | failed error diagnostic => exact .inr ⟨error, diagnostic, rfl⟩
  | frameReceived frame => cases h
  | _ => cases h <;> exact .inl rfl

theorem step_passed {phase : GatePhase} (h : phase.step event = some next)
    (hwaits : next.waits = false) (hrefused : next.refused = false) :
    event = .authenticated ∨ phase.waits = false ∧ phase.refused = false := by
  cases phase with
  | greeting certificate hello result =>
    cases event with
    | authenticated => exact .inl rfl
    | handled store frame =>
      dsimp only [step, hear] at h
      split at h
      · cases h
        cases hwaits
      split at h <;> cases h
      · cases hwaits
      · cases hrefused
    | peerCertificate digest =>
      cases certificate <;> cases h
      cases hwaits
    | frameReceived frame => cases h
    | failed error diagnostic =>
      cases h
      cases hrefused
    | _ =>
      cases h
      cases hwaits
  | refusing => exact absurd (step_refused h rfl).1 (by rw [hrefused]; exact Bool.false_ne_true)
  | closed => exact absurd (step_refused h rfl).1 (by rw [hrefused]; exact Bool.false_ne_true)
  | _ => exact .inr ⟨rfl, rfl⟩

end GatePhase

theorem authenticated_of_exec {phase : GatePhase}
    (h : gate.exec (.greeting none false false) trace = some phase) (hwaits : phase.waits = false)
    (hrefused : phase.refused = false) : .authenticated ∈ trace := by
  induction trace using List.reverseRecOn generalizing phase with
  | nil =>
    cases h
    cases hwaits
  | append_singleton trace event ih =>
    obtain ⟨middle, hbefore, hstep⟩ := Machine.exec_concat h
    rcases GatePhase.step_passed hstep hwaits hrefused with rfl | ⟨hwaits, hrefused⟩
    · exact List.mem_append_right _ (List.mem_singleton_self _)
    · exact List.mem_append_left _ (ih hbefore hwaits hrefused)

variable {last : GatePhase}

theorem not_authenticated_of_exec {phase : GatePhase} (h : gate.exec phase trace = some last)
    (hwaits : phase.waits = false) :
    .authenticated ∉ trace := by
  induction trace generalizing phase with
  | nil => exact List.not_mem_nil
  | cons event trace ih =>
    obtain ⟨next, hstep, hrest⟩ := Option.bind_eq_some_iff.mp h
    obtain ⟨hnext, hevent⟩ := GatePhase.step_not_waits hstep hwaits
    rintro (_ | ⟨_, hmem⟩)
    · exact hevent rfl
    · exact ih hrest hnext hmem

theorem quiet_of_exec {phase : GatePhase} (h : gate.exec phase trace = some last)
    (hrefused : phase.refused = true) :
    last.refused = true ∧ ∀ event ∈ trace, quiet event = true := by
  induction trace generalizing phase with
  | nil =>
    cases h
    exact ⟨hrefused, nofun⟩
  | cons event trace ih =>
    obtain ⟨next, hstep, hrest⟩ := Option.bind_eq_some_iff.mp h
    obtain ⟨hnext, hevent⟩ := GatePhase.step_refused hstep hrefused
    obtain ⟨hlast, hquiet⟩ := ih hrest hnext
    refine ⟨hlast, fun event' hmem => ?_⟩
    rcases List.mem_cons.mp hmem with rfl | hmem
    · exact hevent
    · exact hquiet event' hmem

theorem failed_of_exec (h : gate.exec .refusing trace = some last) :
    last = .refusing ∨ ∃ error diagnostic, .failed error diagnostic ∈ trace := by
  induction trace with
  | nil =>
    cases h
    exact .inl rfl
  | cons event trace ih =>
    obtain ⟨next, hstep, hrest⟩ := Option.bind_eq_some_iff.mp h
    rcases GatePhase.step_refusing hstep with rfl | ⟨error, diagnostic, rfl⟩
    · rcases ih hrest with hlast | ⟨error, diagnostic, hmem⟩
      · exact .inl hlast
      · exact .inr ⟨error, diagnostic, List.mem_cons_of_mem _ hmem⟩
    · exact .inr ⟨error, diagnostic, List.mem_cons_self⟩

variable {before after : List ConnectionTrace}

theorem greeted_of_exec
    (h : gate.exec (.greeting none false false) (before ++ .authenticated :: after) = some last) :
    Greeted before ∧ (∀ frame, .frameReceived frame ∉ before) ∧ .authenticated ∉ before ∧
      .authenticated ∉ after := by
  obtain ⟨middle, next, hbefore, hstep, hafter⟩ := Machine.exec_split h
  have hmiddle : ∃ certificate, middle = .greeting certificate true true ∧ next = .opened := by
    rcases middle with ⟨certificate, _ | _, _ | _⟩ | _ | _ | _ | _ <;> cases hstep
    exact ⟨certificate, rfl, rfl⟩
  obtain ⟨certificate, rfl, rfl⟩ := hmiddle
  have hheard := heard_of_exec hbefore
  exact ⟨hheard.greeted, hheard.shut.2, hheard.shut.1, not_authenticated_of_exec hafter rfl⟩

theorem authenticated_of_frameReceived
    (h : gate.exec (.greeting none false false)
      (before ++ .frameReceived frame :: after) = some last) : .authenticated ∈ before := by
  obtain ⟨middle, next, hbefore, hstep, -⟩ := Machine.exec_split h
  have hmiddle : middle = .delivering frame := by
    replace hstep : (if middle = .delivering frame then some GatePhase.opened else none) =
      some next := hstep
    split at hstep
    · assumption
    · cases hstep
  subst hmiddle
  exact authenticated_of_exec hbefore rfl rfl

def Misplaced (before : List ConnectionTrace) (frame : Frame) : Prop :=
  (frame.type = .hello ∧ ∃ earlier ∈ handledFrames before, earlier.2.type = .hello) ∨
  (frame.type = .authResult ∧ ∃ earlier ∈ handledFrames before, earlier.2.type = .authResult) ∨
  frame.type ≠ .hello ∧ frame.type ≠ .authResult ∧ .authenticated ∉ before

theorem Heard.awaited {hello result : Bool} (h : Heard certificate hello result trace)
    {earlier : TrustedDeviceStore × Frame} (hmem : earlier ∈ handledFrames trace) :
    (earlier.2.type = .hello → hello = true) ∧ (earlier.2.type = .authResult → result = true) := by
  obtain ⟨hellos, results, hperm, hhello, hresult, hverified, haccepts⟩ := h.frames
  rcases List.mem_append.mp (hperm.mem_iff.mp hmem) with hmem | hmem
  · have htype : earlier.2.type = .hello := by
      obtain ⟨digest, -, hdigest⟩ := Option.any_eq_true _ _ |>.mp (hverified earlier hmem)
      exact type_of_helloVerified hdigest
    refine ⟨fun _ => ?_, fun hother => ?_⟩
    · cases hello with
      | true => rfl
      | false => exact absurd hhello (List.length_pos_of_mem hmem).ne'
    · rw [htype] at hother
      cases hother
  · have htype := type_of_resultAccepted (haccepts earlier hmem)
    refine ⟨fun hother => ?_, fun _ => ?_⟩
    · rw [htype] at hother
      cases hother
    · cases result with
      | true => rfl
      | false => exact absurd hresult (List.length_pos_of_mem hmem).ne'

theorem GatePhase.hear_greeting_of_refused {hello result : Bool}
    (hhello : hello = false → certificate.any (helloVerified store · frame) = false)
    (hresult : result = false → resultAccepted frame = false) :
    hear store frame (.greeting certificate hello result) = some .refusing := by
  refine (if_neg ?_).trans (if_neg ?_)
  · rintro ⟨hawaited, hverified⟩
    rw [hhello (Bool.not_eq_true _ |>.mp hawaited)] at hverified
    cases hverified
  · rintro ⟨hawaited, haccepts⟩
    rw [hresult (Bool.not_eq_true _ |>.mp hawaited)] at haccepts
    cases haccepts

theorem not_helloVerified_of_type {d : Option QByteArray} (h : frame.type ≠ .hello) :
    d.any (helloVerified store · frame) = false := by
  cases d with
  | none => rfl
  | some digest => exact Bool.eq_false_iff.mpr fun hverified => h (type_of_helloVerified hverified)

theorem not_resultAccepted_of_type (h : frame.type ≠ .authResult) :
    resultAccepted frame = false :=
  Bool.eq_false_iff.mpr fun haccepts => h (type_of_resultAccepted haccepts)

theorem refused_of_misplaced
    (h : gate.exec (.greeting none false false)
      (before ++ .handled store frame :: after) = some last) (hmisplaced : Misplaced before frame) :
    gate.exec .refusing after = some last := by
  obtain ⟨middle, next, hbefore, hstep, hafter⟩ := Machine.exec_split h
  suffices hrefuse : middle.step (.handled store frame) = some .refusing by
    obtain rfl : GatePhase.refusing = next := Option.some.inj (hrefuse.symm.trans hstep)
    exact hafter
  cases middle with
  | greeting certificate hello result =>
    have hheard := heard_of_exec hbefore
    rcases hmisplaced with ⟨htype, earlier, hmem, hearlier⟩ | ⟨htype, earlier, hmem, hearlier⟩ |
      ⟨hhello, hresult, -⟩
    · refine GatePhase.hear_greeting_of_refused (fun hawaited => ?_) fun _ => ?_
      · rw [(hheard.awaited hmem).1 hearlier] at hawaited
        cases hawaited
      · exact not_resultAccepted_of_type (by rw [htype]; nofun)
    · refine GatePhase.hear_greeting_of_refused (fun _ => ?_) fun hawaited => ?_
      · exact not_helloVerified_of_type (by rw [htype]; nofun)
      · rw [(hheard.awaited hmem).2 hearlier] at hawaited
        cases hawaited
    · exact GatePhase.hear_greeting_of_refused (fun _ => not_helloVerified_of_type hhello)
        fun _ => not_resultAccepted_of_type hresult
  | opened =>
    refine if_pos ?_
    rcases hmisplaced with ⟨htype, -⟩ | ⟨htype, -⟩ | ⟨-, -, hunopened⟩
    · exact .inl htype
    · exact .inr htype
    · exact absurd (authenticated_of_exec hbefore rfl rfl) hunopened
  | _ => cases hstep

namespace ConnectionState

variable (env : SocketAnswers) (c : ConnectionState)

/-- Where the gate of a connection stands. -/
def phase : GatePhase :=
  if c.failed then .closed
  else if c.authenticated then .opened
  else
    .greeting (if c.peerFingerprint = [] then none else some c.peerFingerprint) c.peerHelloVerified
      c.peerAccepted

def At (phase : GatePhase) : Prop :=
  gate.exec (.greeting none false false) c.trace = some phase

structure Gated : Prop where
  stands : c.At c.phase
  pinned : c.peerHelloVerified = true → c.peerFingerprint ≠ []
  opened : c.authenticated = true → c.peerHelloVerified = true

variable {env c}

theorem At.emit {phase next : GatePhase} {e : ConnectionTrace} (h : c.At phase)
    (hstep : phase.step e = some next) : (c.emit e).At next := by
  have hrun : gate.exec (.greeting none false false) (c.trace ++ [e]) =
      (gate.exec (.greeting none false false) c.trace).bind (gate.exec · [e]) :=
    Machine.exec_append
  rw [show gate.exec (.greeting none false false) c.trace = some phase from h] at hrun
  exact hrun.trans ((congrArg (Option.bind · some) hstep).trans rfl)

theorem phase_of_authenticated (hfailed : c.failed = false) (h : c.authenticated = true) :
    c.phase = .opened := by
  unfold phase
  rw [hfailed, h]
  rfl

theorem phase_of_greeting (hfailed : c.failed = false) (h : c.authenticated = false) :
    c.phase = .greeting (if c.peerFingerprint = [] then none else some c.peerFingerprint)
      c.peerHelloVerified c.peerAccepted := by
  unfold phase
  rw [hfailed, h]
  rfl

theorem At.fail {phase : GatePhase} {error : FileTlsError} {diagnostic : String} (h : c.At phase)
    (hstep : phase.step (.failed error diagnostic) = some .closed) (hfailed : c.failed = false)
    (hpinned : c.peerHelloVerified = true → c.peerFingerprint ≠ [])
    (hopened : c.authenticated = true → c.peerHelloVerified = true) :
    (c.fail error diagnostic).Gated := by
  unfold ConnectionState.fail
  rw [hfailed]
  have hemit := At.emit (c :=
    { c with failure := some (error, diagnostic), handshakeTimer := false }) h hstep
  exact ⟨hemit, hpinned, hopened⟩

namespace Gated

variable {error : FileTlsError} {diagnostic : String}

theorem start {localDeviceId : DeviceId} {localFingerprint : QByteArray}
    {settings : FileTlsSettings} : (start localDeviceId localFingerprint settings).Gated where
  stands := rfl
  pinned := nofun
  opened := nofun

theorem fail (h : c.Gated) : (c.fail error diagnostic).Gated := by
  cases hfailed : c.failed with
  | true =>
    unfold ConnectionState.fail
    rw [hfailed]
    exact h
  | false =>
    refine h.stands.fail ?_ hfailed h.pinned h.opened
    cases hauthenticated : c.authenticated with
    | true => rw [phase_of_authenticated hfailed hauthenticated]; rfl
    | false => rw [phase_of_greeting hfailed hauthenticated]; rfl

theorem greeting (h : c.Gated) (hfailed : c.failed = false) (hauthenticated : c.authenticated = false) :
    c.At (.greeting (if c.peerFingerprint = [] then none else some c.peerFingerprint)
      c.peerHelloVerified c.peerAccepted) := by
  rw [← phase_of_greeting hfailed hauthenticated]
  exact h.stands

theorem of_greeting
    (h : c.At (.greeting (if c.peerFingerprint = [] then none else some c.peerFingerprint)
      c.peerHelloVerified c.peerAccepted))
    (hfailed : c.failed = false) (hauthenticated : c.authenticated = false)
    (hpinned : c.peerHelloVerified = true → c.peerFingerprint ≠ [])
    (hopened : c.authenticated = true → c.peerHelloVerified = true) : c.Gated where
  stands := by
    rw [phase_of_greeting hfailed hauthenticated]
    exact h
  pinned := hpinned
  opened := hopened

theorem of_opened (h : c.At .opened) (hfailed : c.failed = false)
    (hauthenticated : c.authenticated = true)
    (hpinned : c.peerHelloVerified = true → c.peerFingerprint ≠ [])
    (hopened : c.authenticated = true → c.peerHelloVerified = true) : c.Gated where
  stands := by
    rw [phase_of_authenticated hfailed hauthenticated]
    exact h
  pinned := hpinned
  opened := hopened

theorem maybeAuthenticate (h : c.Gated) (hfailed : c.failed = false) :
    c.maybeAuthenticate.Gated := by
  unfold ConnectionState.maybeAuthenticate
  split
  · exact h
  rename_i hready
  obtain ⟨hauthenticated, hverified, haccepted⟩ :
      c.authenticated = false ∧ c.peerHelloVerified = true ∧ c.peerAccepted = true := by
    simpa using hready
  have hgreeting := h.greeting hfailed hauthenticated
  rw [hverified, haccepted] at hgreeting
  have hopen := At.emit (c := { c with authenticated := true, handshakeTimer := false }) hgreeting
    (e := .authenticated) rfl
  exact of_opened hopen hfailed rfl h.pinned fun _ => hverified

variable {frame : Frame}

theorem refuse (h : c.Gated) (hfailed : c.failed = false) (hauthenticated : c.authenticated = false)
    (hhello : c.peerHelloVerified = false → c.peerFingerprint ≠ [] →
      helloVerified env.trustedDevices c.peerFingerprint frame = false)
    (hresult : c.peerAccepted = false → resultAccepted frame = false) :
    ((c.emit (.handled env.trustedDevices frame)).fail error diagnostic).Gated := by
  have hrefuse := (h.greeting hfailed hauthenticated).emit
    (e := .handled env.trustedDevices frame)
    (GatePhase.hear_greeting_of_refused (fun hawaited => ?_) hresult)
  · exact hrefuse.fail rfl hfailed h.pinned h.opened
  · split
    · rfl
    · rename_i hfingerprint
      exact hhello hawaited hfingerprint

theorem handleAuthResult (h : c.Gated) (hfailed : c.failed = false)
    (hauthenticated : c.authenticated = false) (hbare : frame.payload = [] ∧ frame.streamId = 0)
    (htype : frame.type = .authResult) :
    ((c.emit (.handled env.trustedDevices frame)).handleAuthResult frame).Gated := by
  have hhello (digest : QByteArray) : helloVerified env.trustedDevices digest frame = false :=
    not_helloVerified_of_type (d := some digest) (by rw [htype]; nofun)
  unfold ConnectionState.handleAuthResult
  split
  · rename_i haccepted
    replace haccepted : c.peerAccepted = true := haccepted
    refine h.refuse hfailed hauthenticated (fun _ _ => hhello _) fun hawaited => ?_
    rw [haccepted] at hawaited
    cases hawaited
  rename_i hawaited
  replace hawaited : c.peerAccepted = false := Bool.not_eq_true _ |>.mp hawaited
  have hresult : resultAccepted frame =
      match SessionMessageCodec.decodeAuthResult frame.type frame.metadata with
      | .error _ => false
      | .ok message => message.accepted := by
    unfold resultAccepted
    rw [hbare.1, hbare.2]
    rfl
  split
  · rename_i hdecode
    refine h.refuse hfailed hauthenticated (fun _ _ => hhello _) fun _ => ?_
    rw [hresult, hdecode]
  rename_i message hdecode
  rw [hdecode] at hresult
  split
  · rename_i hrejected
    refine h.refuse hfailed hauthenticated (fun _ _ => hhello _) fun _ => ?_
    rw [hresult]
    exact Bool.not_eq_true _ |>.mp hrejected
  rename_i haccepted
  have hstep : (GatePhase.greeting
      (if c.peerFingerprint = [] then none else some c.peerFingerprint) c.peerHelloVerified
      c.peerAccepted).step (.handled env.trustedDevices frame) =
      some (.greeting (if c.peerFingerprint = [] then none else some c.peerFingerprint)
        c.peerHelloVerified true) := by
    refine (if_neg ?_).trans (if_pos ⟨?_, ?_⟩)
    · rintro ⟨-, hverified⟩
      rw [not_helloVerified_of_type (by rw [htype]; nofun)] at hverified
      cases hverified
    · rw [hawaited]
      exact Bool.false_ne_true
    · rw [hresult]
      exact not_not.mp haccepted
  have hheard := (h.greeting hfailed hauthenticated).emit hstep
  exact maybeAuthenticate (of_greeting hheard hfailed hauthenticated h.pinned h.opened) hfailed

theorem acceptHello {hello : HelloMessage} (h : { c with peerHelloVerified := true }.Gated)
    (hfailed : c.failed = false) : (c.acceptHello env hello).Gated := by
  have hverified : { c with
      peerDeviceId := some hello.deviceId, peerHelloVerified := true }.Gated :=
    ⟨h.stands, h.pinned, h.opened⟩
  unfold ConnectionState.acceptHello
  dsimp only
  split
  · exact hverified.fail
  · exact hverified.maybeAuthenticate hfailed

theorem handleHello (h : c.Gated) (hfailed : c.failed = false)
    (hauthenticated : c.authenticated = false) (hbare : frame.payload = [] ∧ frame.streamId = 0)
    (htype : frame.type ≠ .authResult) :
    ((c.emit (.handled env.trustedDevices frame)).handleHello env frame).Gated := by
  have hresult : resultAccepted frame = false := not_resultAccepted_of_type htype
  have hhello (digest : QByteArray) : helloVerified env.trustedDevices digest frame =
      match SessionMessageCodec.decodeHello frame.type frame.metadata with
      | .error _ => false
      | .ok hello => hello.certificateFingerprintSha256 = digest &&
        (TlsPeerPinningPolicy.verify env.trustedDevices hello.deviceId digest).ok := by
    unfold helloVerified
    rw [hbare.1, hbare.2]
    rfl
  unfold ConnectionState.handleHello
  split
  · rename_i hunexpected
    refine h.refuse hfailed hauthenticated (fun hawaited _ => ?_) fun _ => hresult
    rcases hunexpected with hother | hverified
    · exact not_helloVerified_of_type (d := some c.peerFingerprint) hother
    · rw [show c.peerHelloVerified = true from hverified] at hawaited
      cases hawaited
  rename_i hexpected
  split
  · rename_i hdecode
    refine h.refuse hfailed hauthenticated (fun _ _ => ?_) fun _ => hresult
    rw [hhello, hdecode]
  rename_i hello hdecode
  split
  · rename_i hfingerprint
    refine h.refuse hfailed hauthenticated (fun _ _ => ?_) fun _ => hresult
    rw [hhello, hdecode]
    simp [show hello.certificateFingerprintSha256 ≠ c.peerFingerprint from hfingerprint]
  rename_i hfingerprint
  dsimp only
  split
  · rename_i hpinning
    refine h.refuse hfailed hauthenticated (fun _ _ => ?_) fun _ => hresult
    rw [hhello, hdecode]
    replace hpinning : (TlsPeerPinningPolicy.verify env.trustedDevices hello.deviceId
      c.peerFingerprint).ok = false := Bool.not_eq_true _ |>.mp hpinning
    simp [hpinning]
  rename_i hpinning
  replace hpinning : (TlsPeerPinningPolicy.verify env.trustedDevices hello.deviceId
    c.peerFingerprint).ok = true := not_not.mp hpinning
  have hpinned : c.peerFingerprint ≠ [] := TlsPeerPinningPolicy.ne_nil_of_ok hpinning
  have hverified : helloVerified env.trustedDevices c.peerFingerprint frame = true := by
    rw [hhello, hdecode]
    simp [show hello.certificateFingerprintSha256 = c.peerFingerprint from not_not.mp hfingerprint,
      hpinning]
  have hstep : (GatePhase.greeting
      (if c.peerFingerprint = [] then none else some c.peerFingerprint) c.peerHelloVerified
      c.peerAccepted).step (.handled env.trustedDevices frame) =
      some (.greeting (if c.peerFingerprint = [] then none else some c.peerFingerprint)
        true c.peerAccepted) := by
    refine if_pos ⟨fun h => hexpected (.inr h), ?_⟩
    rw [if_neg hpinned]
    exact hverified
  have hheard := (h.greeting hfailed hauthenticated).emit hstep
  exact acceptHello (of_greeting hheard hfailed hauthenticated (fun _ => hpinned) fun _ => rfl)
    hfailed

theorem handleFrame (h : c.Gated) (hfailed : c.failed = false) :
    (c.handleFrame env frame).Gated := by
  unfold ConnectionState.handleFrame
  dsimp only
  split
  · rename_i hauthenticated
    replace hauthenticated : c.authenticated = false := Bool.not_eq_true _ |>.mp hauthenticated
    split
    · rename_i hload
      have hbare : (frame.payload = [] && frame.streamId = 0) = false := by
        rw [← Bool.not_eq_true, Bool.and_eq_true, decide_eq_true_iff, decide_eq_true_iff]
        exact not_and_or.mpr hload
      refine h.refuse hfailed hauthenticated (fun _ _ => ?_) fun _ => ?_
      · unfold helloVerified
        rw [hbare]
        rfl
      · unfold resultAccepted
        rw [hbare]
        rfl
    rename_i hbare
    simp only [not_or, not_not] at hbare
    split
    · rename_i htype
      exact h.handleAuthResult hfailed hauthenticated hbare htype
    · rename_i htype
      exact h.handleHello hfailed hauthenticated hbare htype
  · rename_i hauthenticated
    replace hauthenticated : c.authenticated = true := not_not.mp hauthenticated
    have hstand : c.At .opened := by
      rw [← phase_of_authenticated hfailed hauthenticated]
      exact h.stands
    split
    · rename_i htype
      exact (hstand.emit (e := .handled env.trustedDevices frame) (if_pos htype)).fail rfl
        hfailed h.pinned h.opened
    · rename_i htype
      have hdeliver := (hstand.emit (e := .handled env.trustedDevices frame)
        (if_neg htype)).emit (e := .frameReceived frame) (if_pos rfl)
      exact of_opened hdeliver hfailed hauthenticated h.pinned h.opened

theorem drainFuel {fuel : Nat} (h : c.Gated) : (c.drainFuel env fuel).Gated := by
  induction fuel generalizing c with
  | zero => exact h
  | succ fuel ih =>
    unfold ConnectionState.drainFuel
    split
    · exact h
    rename_i hactive
    have hfailed : c.failed = false := Bool.not_eq_true _ |>.mp (not_or.mp hactive).2
    dsimp only
    split
    · exact h
    · exact h.fail
    · have htaken : { c with receiveBuffer := (FrameCodec.tryDecode c.receiveBuffer {}
          c.settings.protocolLimits).2.1 }.Gated := ⟨h.stands, h.pinned, h.opened⟩
      exact ih (htaken.handleFrame hfailed)

theorem handleReadyRead {available : QByteArray} (h : c.Gated) :
    (c.handleReadyRead env available).Gated := by
  unfold ConnectionState.handleReadyRead
  split
  · exact h
  dsimp only
  split
  · exact h.fail
  · have hread : { c with receiveBuffer := c.receiveBuffer ++ available }.Gated :=
      ⟨h.stands, h.pinned, h.opened⟩
    exact hread.drainFuel

theorem handleEncrypted {certificate : Option QByteArray} (h : c.Gated) :
    (c.handleEncrypted env certificate).Gated := by
  unfold ConnectionState.handleEncrypted
  split
  · exact h
  rename_i hfirst
  obtain ⟨hfailed, hfingerprint⟩ : c.failed = false ∧ c.peerFingerprint = [] := by
    simpa using hfirst
  have hverified : c.peerHelloVerified = false :=
    Bool.eq_false_iff.mpr fun hverified => h.pinned hverified hfingerprint
  have hauthenticated : c.authenticated = false :=
    Bool.eq_false_iff.mpr fun hauthenticated => by
      rw [h.opened hauthenticated] at hverified
      cases hverified
  cases certificate with
  | none => exact h.fail
  | some digest =>
    dsimp only
    have hgreeting := h.greeting hfailed hauthenticated
    rw [if_pos hfingerprint] at hgreeting
    have hread : ({ c with peerFingerprint := digest }.emit (.peerCertificate digest)).At
        (.greeting (some digest) c.peerHelloVerified c.peerAccepted) :=
      At.emit (c := { c with peerFingerprint := digest }) hgreeting rfl
    have hunverified : c.peerHelloVerified = true → digest ≠ [] := by
      rw [hverified]
      nofun
    split
    · exact hread.fail rfl hfailed hunverified h.opened
    rename_i hdigest
    have hpresent : digest ≠ [] := by
      rintro rfl
      exact hdigest (by simp)
    have hgated : ({ c with peerFingerprint := digest }.emit (.peerCertificate digest)).Gated := by
      have hcertificate : (if digest = [] then none else some digest) = some digest :=
        if_neg hpresent
      rw [← hcertificate] at hread
      exact of_greeting hread hfailed hauthenticated hunverified h.opened
    split
    · exact hgated.fail
    split
    · exact hgated.fail
    · exact hgated

theorem emit_inert {event : ConnectionTrace} (h : c.Gated)
    (hevent : ∀ phase : GatePhase, phase.step event = some phase) : (c.emit event).Gated :=
  ⟨h.stands.emit (hevent _), h.pinned, h.opened⟩

theorem step {event : ConnectionEvent} {next : ConnectionState} (h : c.Gated)
    (hstep : c.step env event = some next) : next.Gated := by
  cases event with
  | encrypted certificate =>
    cases hstep
    exact h.handleEncrypted
  | readyRead available =>
    cases hstep
    exact h.handleReadyRead
  | bytesWritten =>
    cases hstep
    exact h.emit_inert fun _ => rfl
  | handshakeTimeout =>
    have hfired : some ({ c with handshakeTimer := false }.fail .handshakeTimeout
        "file TLS handshake timed out") = some next := by
      cases htimer : c.handshakeTimer with
      | true => rw [← hstep, ConnectionState.step, htimer]; rfl
      | false =>
        rw [ConnectionState.step, htimer] at hstep
        cases hstep
    cases hfired
    have hstopped : { c with handshakeTimer := false }.Gated := ⟨h.stands, h.pinned, h.opened⟩
    exact hstopped.fail
  | errorOccurred encrypted remoteHostClosed errorString =>
    cases hstep
    split
    · exact h
    · exact h.fail
  | disconnected =>
    cases hstep
    exact h.emit_inert fun _ => rfl
  | close =>
    cases hstep
    exact ⟨h.stands, h.pinned, h.opened⟩

end Gated

end ConnectionState

theorem gated_of_reachable {c : ConnectionState}
    (hreach : connectionMachine.Reachable (fun _ _ => True) c) : c.Gated := by
  refine hreach.invariant ?_ ?_
  · rintro _ ⟨localDeviceId, localFingerprint, settings, rfl⟩
    exact .start
  · intro c event next h _ hstep
    exact h.step hstep

/-- **The authentication gate.** A connection is authenticated at most once, after taking up exactly
one HELLO, which its pinning verifier accepted and which declares the digest of the peer's
certificate, and exactly one accepting AUTH_RESULT; it hands out frames only after that. A second
HELLO, a second AUTH_RESULT or an application frame ahead of authentication ends it. -/
theorem authentication_gate {c : ConnectionState}
    (hreach : connectionMachine.Reachable (fun _ _ => True) c) :
    (∀ before after, c.trace = before ++ .authenticated :: after →
      Greeted before ∧ (∀ frame, .frameReceived frame ∉ before) ∧
        .authenticated ∉ before ∧ .authenticated ∉ after) ∧
    (∀ before after frame, c.trace = before ++ .frameReceived frame :: after →
      .authenticated ∈ before) ∧
    ∀ before after trustedDevices frame,
      c.trace = before ++ .handled trustedDevices frame :: after → Misplaced before frame →
        c.failed = true ∧ (∃ error diagnostic, .failed error diagnostic ∈ after) ∧
          ∀ event ∈ after, quiet event = true := by
  have hstands : gate.exec (.greeting none false false) c.trace = some c.phase :=
    (gated_of_reachable hreach).stands
  refine ⟨fun before after htrace => ?_, fun before after frame htrace => ?_,
    fun before after trustedDevices frame htrace hmisplaced => ?_⟩ <;> rw [htrace] at hstands
  · exact greeted_of_exec hstands
  · exact authenticated_of_frameReceived hstands
  · have hrefused := refused_of_misplaced hstands hmisplaced
    obtain ⟨hphase, hquiet⟩ := quiet_of_exec hrefused rfl
    refine ⟨?_, ?_, hquiet⟩
    · unfold ConnectionState.phase at hphase
      cases hfailed : c.failed with
      | true => rfl
      | false =>
        rw [hfailed] at hphase
        cases hauthenticated : c.authenticated <;> rw [hauthenticated] at hphase <;> cases hphase
    · rcases failed_of_exec hrefused with hlast | hfailed
      · unfold ConnectionState.phase at hlast
        cases hfailed : c.failed <;> cases hauthenticated : c.authenticated <;>
          rw [hfailed, hauthenticated] at hlast <;> cases hlast
      · exact hfailed

namespace ConnectionGreeting

def peerId : DeviceId := ⟨5, by decide⟩

def digest : QByteArray := List.replicate 32 7

def trustedDevices : TrustedDeviceStore := [{ deviceId := peerId, fingerprintSha256 := digest }]

def answers : SocketAnswers := { trustedDevices }

def hello : Frame where
  type := .hello
  flags := FrameFlag.ackRequired
  metadata := ((SessionMessageCodec.encodeHello {
    deviceId := peerId, sessionId := 9, appVersion := QString.literal "0.1.0"
    supportedMajorVersions := [kProtocolMajorVersion]
    certificateFingerprintSha256 := digest, timestampMs := 3 }).toOption).getD []

def result : Frame where
  type := .authResult
  flags := FrameFlag.response
  metadata := ((SessionMessageCodec.encodeAuthResult { accepted := true }).toOption).getD []

def goodbye : Frame where
  type := .goodbye
  flags := FrameFlag.final
  metadata := [0xa1, 0x00]

def wire (frame : Frame) : QByteArray := ((FrameCodec.encode frame {}).toOption).getD []

def events : List (SocketAnswers × ConnectionEvent) :=
  [(answers, .encrypted (some digest)), (answers, .readyRead (wire result ++ wire hello)),
    (answers, .readyRead (wire goodbye))]

def start : ConnectionState := .start peerId (List.replicate 32 1) {}

def greeted : ConnectionState := (connectionMachine.exec start events).get (by decide +kernel)

theorem greeted_reachable : connectionMachine.Reachable (fun _ _ => True) greeted :=
  ⟨start, ⟨_, _, _, rfl⟩, Machine.run_of_exec (Option.some_get _).symm⟩

end ConnectionGreeting

open ConnectionGreeting in
theorem authentication_gate_greeted :
    Greeted [.peerCertificate digest, .handled trustedDevices result,
        .handled trustedDevices hello] ∧
      ConnectionTrace.authenticated ∉ [.handled trustedDevices goodbye, .frameReceived goodbye] :=
  have h := (authentication_gate greeted_reachable).1
    [.peerCertificate digest, .handled trustedDevices result, .handled trustedDevices hello]
    [.handled trustedDevices goodbye, .frameReceived goodbye] (by decide +kernel)
  ⟨h.1, h.2.2.2⟩

end DeskflowPlus.FileTransport
