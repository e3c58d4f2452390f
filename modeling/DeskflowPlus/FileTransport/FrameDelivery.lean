import DeskflowPlus.FileTransport.FileTlsTransport

/-!
# Delivery and the receive limit

A connection should handle the frames of a stream one after the other, however the socket cuts the
stream. It does so as long as no burst is refused: the limit is held against the bytes that wait
behind the last whole frame together with all that the socket has to read, before any frame is taken
off.
-/

namespace DeskflowPlus.FileTransport

open Transfer Trust FrameCodec

def wholeFrames : List Frame → Nat → List Frame
  | [], _ => []
  | frame :: frames, received =>
    if (wire frame).length ≤ received then
      frame :: wholeFrames frames (received - (wire frame).length)
    else []

/-- How many of the first bytes of a stream stand behind the last whole frame among them. -/
def bytesBehind : List Frame → Nat → Nat
  | [], received => received
  | frame :: frames, received =>
    if (wire frame).length ≤ received then bytesBehind frames (received - (wire frame).length)
    else received

/-- The frames still to come after those. -/
def laterFrames : List Frame → Nat → List Frame
  | [], _ => []
  | frame :: frames, received =>
    if (wire frame).length ≤ received then laterFrames frames (received - (wire frame).length)
    else frame :: frames

theorem wholeFrames_append_laterFrames (frames : List Frame) (received : Nat) :
    wholeFrames frames received ++ laterFrames frames received = frames := by
  induction frames generalizing received with
  | nil => rfl
  | cons frame frames ih =>
    unfold wholeFrames laterFrames
    split
    · rw [List.cons_append, ih]
    · rfl

theorem wholeFrames_add (frames : List Frame) (received more : Nat) :
    wholeFrames frames (received + more) = wholeFrames frames received ++
      wholeFrames (laterFrames frames received) (bytesBehind frames received + more) := by
  induction frames generalizing received with
  | nil => rfl
  | cons frame frames ih =>
    by_cases hwhole : (wire frame).length ≤ received
    · have hrest : received + more - (wire frame).length =
          received - (wire frame).length + more := by omega
      rw [wholeFrames, if_pos (by omega), wholeFrames, if_pos hwhole, laterFrames, if_pos hwhole,
        bytesBehind, if_pos hwhole, hrest, ih, List.cons_append]
    · rw [wholeFrames.eq_2 received, if_neg hwhole, laterFrames, if_neg hwhole, bytesBehind,
        if_neg hwhole, List.nil_append]

theorem bytesBehind_add (frames : List Frame) (received more : Nat) :
    bytesBehind frames (received + more) =
      bytesBehind (laterFrames frames received) (bytesBehind frames received + more) := by
  induction frames generalizing received with
  | nil => rfl
  | cons frame frames ih =>
    by_cases hwhole : (wire frame).length ≤ received
    · have hrest : received + more - (wire frame).length =
          received - (wire frame).length + more := by omega
      rw [bytesBehind, if_pos (by omega), laterFrames, if_pos hwhole, bytesBehind.eq_2 received,
        if_pos hwhole, hrest, ih]
    · rw [laterFrames, if_neg hwhole, bytesBehind.eq_2 received, if_neg hwhole]

namespace ConnectionState

variable {env : SocketAnswers} {c : ConnectionState}

def deliver (env : SocketAnswers) (frames : List Frame) (c : ConnectionState) : ConnectionState :=
  frames.foldl (fun c frame => if c.failed then c else c.handleFrame env frame) c

def receive (env : SocketAnswers) (bursts : List QByteArray) (c : ConnectionState) :
    ConnectionState :=
  bursts.foldl (fun c burst => c.handleReadyRead env burst) c

def withBuffer (buffer : QByteArray) (c : ConnectionState) : ConnectionState :=
  { c with receiveBuffer := buffer }

variable {buffer : QByteArray}

@[simp]
theorem failed_withBuffer : (c.withBuffer buffer).failed = c.failed := rfl

@[simp]
theorem withBuffer_withBuffer {buffer' : QByteArray} :
    (c.withBuffer buffer).withBuffer buffer' = c.withBuffer buffer' := rfl

theorem fail_withBuffer {error : FileTlsError} {diagnostic : String} :
    (c.withBuffer buffer).fail error diagnostic = (c.fail error diagnostic).withBuffer buffer := by
  unfold fail
  rw [failed_withBuffer]
  split <;> rfl

theorem maybeAuthenticate_withBuffer :
    (c.withBuffer buffer).maybeAuthenticate = c.maybeAuthenticate.withBuffer buffer := by
  unfold maybeAuthenticate
  show (if c.authenticated = true ∨ ¬ c.peerHelloVerified = true ∨ ¬ c.peerAccepted = true then _
    else _) = _
  split <;> rfl

variable {frame : Frame}

theorem handleAuthResult_withBuffer :
    (c.withBuffer buffer).handleAuthResult frame =
      (c.handleAuthResult frame).withBuffer buffer := by
  unfold handleAuthResult
  show (if c.peerAccepted = true then _ else _) = _
  split
  · exact fail_withBuffer
  · cases SessionMessageCodec.decodeAuthResult frame.type frame.metadata with
    | error => exact fail_withBuffer
    | ok message =>
      dsimp only
      split
      · exact fail_withBuffer
      · exact maybeAuthenticate_withBuffer (c := { c with peerAccepted := true })

theorem acceptHello_withBuffer {hello : HelloMessage} :
    (c.withBuffer buffer).acceptHello env hello =
      (c.acceptHello env hello).withBuffer buffer := by
  unfold acceptHello
  dsimp only [withBuffer]
  split
  · exact fail_withBuffer (c := { c with
      peerDeviceId := some hello.deviceId, peerHelloVerified := true })
  · exact maybeAuthenticate_withBuffer (c := { c with
      peerDeviceId := some hello.deviceId, peerHelloVerified := true })

theorem handleHello_withBuffer :
    (c.withBuffer buffer).handleHello env frame =
      (c.handleHello env frame).withBuffer buffer := by
  unfold handleHello
  show (if frame.type ≠ .hello ∨ c.peerHelloVerified = true then _ else _) = _
  split
  · exact fail_withBuffer
  · cases SessionMessageCodec.decodeHello frame.type frame.metadata with
    | error => exact fail_withBuffer
    | ok hello =>
      have hpinned : (c.withBuffer buffer).peerFingerprint = c.peerFingerprint := rfl
      dsimp only
      rw [hpinned]
      split
      · exact fail_withBuffer
      · split
        · exact fail_withBuffer
        · exact acceptHello_withBuffer

theorem handleFrame_withBuffer {buffer : QByteArray} {frame : Frame} :
    (c.withBuffer buffer).handleFrame env frame =
      (c.handleFrame env frame).withBuffer buffer := by
  unfold handleFrame
  generalize hemitted : c.emit (.handled env.trustedDevices frame) = emitted
  have hbuffer : (c.withBuffer buffer).emit (.handled env.trustedDevices frame) =
      emitted.withBuffer buffer := by
    rw [← hemitted]
    rfl
  rw [hbuffer]
  show (if ¬ emitted.authenticated = true then _ else _) = _
  dsimp only
  split
  · split
    · exact fail_withBuffer
    · split
      · exact handleAuthResult_withBuffer
      · exact handleHello_withBuffer
  · split
    · exact fail_withBuffer
    · rfl

structure Follows (c c' : ConnectionState) : Prop where
  settings : c'.settings = c.settings
  failure : c'.failure = c.failure ∨
    ∃ error diagnostic, c'.failure = some (error, diagnostic) ∧ error ≠ .receiveLimitExceeded

theorem Follows.refl : Follows c c := ⟨rfl, .inl rfl⟩

theorem Follows.trans {c' c'' : ConnectionState} (h : Follows c c') (h' : Follows c' c'') :
    Follows c c'' := by
  refine ⟨h'.settings.trans h.settings, ?_⟩
  rcases h'.failure with hsame | hother
  · rw [hsame]
    exact h.failure
  · exact .inr hother

theorem follows_fail {error : FileTlsError} {diagnostic : String}
    (herror : error ≠ .receiveLimitExceeded) : Follows c (c.fail error diagnostic) := by
  unfold fail
  split
  · exact .refl
  · exact ⟨rfl, .inr ⟨error, diagnostic, rfl, herror⟩⟩

theorem follows_maybeAuthenticate : Follows c c.maybeAuthenticate := by
  unfold maybeAuthenticate
  split
  · exact .refl
  · exact ⟨rfl, .inl rfl⟩

theorem follows_handleAuthResult : Follows c (c.handleAuthResult frame) := by
  unfold handleAuthResult
  split
  · exact follows_fail nofun
  · split
    · exact follows_fail nofun
    · split
      · exact follows_fail nofun
      · have haccepted : Follows c { c with peerAccepted := true } := ⟨rfl, .inl rfl⟩
        exact haccepted.trans follows_maybeAuthenticate

theorem follows_acceptHello {hello : HelloMessage} : Follows c (c.acceptHello env hello) := by
  have hverified : Follows c
      { c with peerDeviceId := some hello.deviceId, peerHelloVerified := true } := ⟨rfl, .inl rfl⟩
  unfold acceptHello
  dsimp only
  split
  · exact hverified.trans (follows_fail nofun)
  · exact hverified.trans follows_maybeAuthenticate

theorem mapPinningError_ne (error : PeerPinningError) :
    mapPinningError error ≠ .receiveLimitExceeded := by
  cases error <;> exact nofun

theorem follows_handleHello : Follows c (c.handleHello env frame) := by
  unfold handleHello
  split
  · exact follows_fail nofun
  · split
    · exact follows_fail nofun
    · split
      · exact follows_fail nofun
      · dsimp only
        split
        · exact follows_fail (mapPinningError_ne _)
        · exact follows_acceptHello

theorem follows_handleFrame {frame : Frame} : Follows c (c.handleFrame env frame) := by
  have hemitted {event : ConnectionTrace} : Follows c (c.emit event) := ⟨rfl, .inl rfl⟩
  unfold handleFrame
  dsimp only
  split
  · split
    · exact hemitted.trans (follows_fail nofun)
    · split
      · exact hemitted.trans follows_handleAuthResult
      · exact hemitted.trans follows_handleHello
  · split
    · exact hemitted.trans (follows_fail nofun)
    · exact ⟨rfl, .inl rfl⟩

variable {frames : List Frame}

theorem deliver_append {later : List Frame} :
    c.deliver env (frames ++ later) = (c.deliver env frames).deliver env later :=
  List.foldl_append

theorem deliver_cons (hlive : c.failed = false) :
    c.deliver env (frame :: frames) = (c.handleFrame env frame).deliver env frames := by
  simp [deliver, hlive]

theorem deliver_of_failed (hfailed : c.failed = true) :
    c.deliver env frames = c := by
  induction frames with
  | nil => rfl
  | cons frame frames ih =>
    have hstep : c.deliver env (frame :: frames) = c.deliver env frames := by
      simp [deliver, hfailed]
    rw [hstep, ih]

theorem deliver_withBuffer :
    (c.withBuffer buffer).deliver env frames = (c.deliver env frames).withBuffer buffer := by
  induction frames generalizing c with
  | nil => rfl
  | cons frame frames ih =>
    cases hfailed : c.failed with
    | false =>
      rw [deliver_cons hfailed, deliver_cons (by simpa using hfailed), handleFrame_withBuffer, ih]
    | true =>
      rw [deliver_of_failed hfailed, deliver_of_failed (by simpa using hfailed)]

theorem follows_deliver {frames : List Frame} : Follows c (c.deliver env frames) := by
  induction frames generalizing c with
  | nil => exact .refl
  | cons frame frames ih =>
    cases hfailed : c.failed with
    | false =>
      rw [deliver_cons hfailed]
      exact follows_handleFrame.trans ih
    | true =>
      rw [deliver_of_failed hfailed]
      exact .refl

theorem deliver_authenticated (hlive : c.failed = false) (hauthenticated : c.authenticated = true)
    (hframes : ∀ frame ∈ frames, frame.type ≠ .hello ∧ frame.type ≠ .authResult) :
    c.deliver env frames = { c with
      trace := c.trace ++ frames.flatMap fun frame =>
        [.handled env.trustedDevices frame, .frameReceived frame] } := by
  induction frames generalizing c with
  | nil => simp [deliver]
  | cons frame frames ih =>
    have hframe := hframes frame List.mem_cons_self
    have hhandled : c.handleFrame env frame =
        (c.emit (.handled env.trustedDevices frame)).emit (.frameReceived frame) := by
      unfold handleFrame
      dsimp only
      rw [if_neg (by simpa [emit] using hauthenticated), if_neg (not_or.mpr hframe)]
    have hlater := @ih ((c.emit (.handled env.trustedDevices frame)).emit (.frameReceived frame))
      hlive hauthenticated fun later hlater => hframes later (List.mem_cons_of_mem _ hlater)
    rw [deliver_cons hlive, hhandled, hlater]
    simp [emit]

theorem drainFuel_stream {frames : List Frame} {tail : QByteArray} {fuel : Nat}
    (hfuel : c.receiveBuffer.length ≤ fuel) (hlive : c.failed = false)
    (haccepts : ∀ frame ∈ frames, Accepts c.settings.protocolLimits frame)
    (hstream : c.receiveBuffer ++ tail = frames.flatMap wire) :
    ∃ rest, c.drainFuel env fuel =
        (c.deliver env (wholeFrames frames c.receiveBuffer.length)).withBuffer rest ∧
      ((c.deliver env (wholeFrames frames c.receiveBuffer.length)).failed = false →
        rest.length = bytesBehind frames c.receiveBuffer.length ∧
        rest ++ tail = (laterFrames frames c.receiveBuffer.length).flatMap wire) := by
  induction frames generalizing c fuel with
  | nil =>
    obtain ⟨hbuffer, htail⟩ : c.receiveBuffer = [] ∧ tail = [] := by simpa using hstream
    refine ⟨[], ?_, fun _ => ⟨by simp [bytesBehind, hbuffer], by simpa [laterFrames] using htail⟩⟩
    have hsame : c.withBuffer [] = c := by
      unfold withBuffer
      rw [← hbuffer]
    rw [wholeFrames, deliver, List.foldl_nil, hsame]
    cases fuel with
    | zero => rfl
    | succ fuel => simp [drainFuel, hbuffer]
  | cons frame frames ih =>
    have hframe := haccepts frame List.mem_cons_self
    have hlater (later : Frame) (h : later ∈ frames) : Accepts c.settings.protocolLimits later :=
      haccepts later (List.mem_cons_of_mem _ h)
    rw [List.flatMap_cons] at hstream
    by_cases hwhole : (wire frame).length ≤ c.receiveBuffer.length
    · obtain ⟨rest, hbuffer, hrest⟩ : ∃ rest, c.receiveBuffer = wire frame ++ rest ∧
          rest ++ tail = frames.flatMap wire := by
        rcases List.append_eq_append_iff.mp hstream with ⟨rest, hwire, hrest⟩ | ⟨rest, hbuffer, hrest⟩
        · have hnil : rest = [] := by
            have hlength := congrArg List.length hwire
            rw [List.length_append] at hlength
            exact List.length_eq_zero_iff.mp (by omega)
          subst hnil
          exact ⟨[], by simpa using hwire.symm, by simpa using hrest⟩
        · exact ⟨rest, hbuffer, hrest.symm⟩
      have hpositive : 0 < (wire frame).length := by
        rw [wire_length]
        have hfixed : 0 < kFixedHeaderBytes := by decide
        omega
      obtain ⟨fuel, rfl⟩ : ∃ n, fuel = n + 1 := ⟨fuel - 1, by omega⟩
      have hnonempty : c.receiveBuffer ≠ [] := fun hnil => by
        rw [hnil, List.length_nil] at hwhole
        omega
      have hdecode : tryDecode c.receiveBuffer {} c.settings.protocolLimits =
          (frameReady (wire frame).length, rest, frame) := by
        rw [hbuffer]
        exact tryDecode_wire hframe rest {}
      have hdrain : c.drainFuel env (fuel + 1) =
          ((c.handleFrame env frame).withBuffer rest).drainFuel env fuel := by
        rw [drainFuel, if_neg (by simp [hnonempty, hlive]), hdecode]
        exact congrArg _ (@handleFrame_withBuffer env c rest frame)
      have hlength : c.receiveBuffer.length - (wire frame).length = rest.length := by
        rw [hbuffer, List.length_append]
        omega
      rw [wholeFrames, if_pos hwhole, bytesBehind, if_pos hwhole, laterFrames, if_pos hwhole,
        hlength, deliver_cons hlive, hdrain]
      cases hfailed : (c.handleFrame env frame).failed with
      | true =>
        refine ⟨rest, ?_, fun hlive' => ?_⟩
        · rw [deliver_of_failed hfailed]
          cases fuel with
          | zero => rfl
          | succ fuel =>
            rw [drainFuel, if_pos (.inr hfailed)]
        · rw [deliver_of_failed hfailed, hfailed] at hlive'
          exact nomatch hlive'
      | false =>
        have hsettings := (@follows_handleFrame env c frame).settings
        obtain ⟨behind, hdrained, hbehind⟩ := @ih
          ((c.handleFrame env frame).withBuffer rest) fuel
          (by
            rw [hbuffer, List.length_append] at hfuel
            show rest.length ≤ fuel
            omega)
          hfailed
          (by
            show ∀ later ∈ frames, Accepts (c.handleFrame env frame).settings.protocolLimits later
            rw [hsettings]
            exact hlater)
          hrest
        refine ⟨behind, hdrained.trans ?_, fun hlive' => hbehind ?_⟩
        · rw [deliver_withBuffer]
          rfl
        · rw [deliver_withBuffer]
          exact hlive'
    · have hshort : c.receiveBuffer <+: wire frame ∧ c.receiveBuffer ≠ wire frame := by
        rcases List.append_eq_append_iff.mp hstream with ⟨rest, hwire, -⟩ | ⟨rest, hbuffer, -⟩
        · refine ⟨⟨rest, hwire.symm⟩, fun hsame => hwhole ?_⟩
          rw [hsame]
        · rw [hbuffer, List.length_append] at hwhole
          omega
      rw [wholeFrames, if_neg hwhole, bytesBehind, if_neg hwhole, laterFrames, if_neg hwhole]
      refine ⟨c.receiveBuffer, ?_, fun _ => ⟨rfl, by rw [hstream, List.flatMap_cons]⟩⟩
      show c.drainFuel env fuel = c
      cases fuel with
      | zero => rfl
      | succ fuel =>
        rw [drainFuel]
        split
        · rfl
        · rw [tryDecode_cut hframe hshort.1 hshort.2]
          rfl

theorem handleReadyRead_of_failed {burst : QByteArray} (hfailed : c.failed = true) :
    c.handleReadyRead env burst = c := by
  rw [handleReadyRead, if_pos hfailed]

theorem receive_of_failed {bursts : List QByteArray} (hfailed : c.failed = true) :
    c.receive env bursts = c := by
  induction bursts with
  | nil => rfl
  | cons burst bursts ih =>
    have hstep : c.receive env (burst :: bursts) = (c.handleReadyRead env burst).receive env bursts :=
      rfl
    rw [hstep, handleReadyRead_of_failed hfailed, ih]

def BurstsFit (env : SocketAnswers) (frames : List Frame) (received : Nat)
    (bursts : List QByteArray) (c : ConnectionState) : Prop :=
  ∀ before burst after, bursts = before ++ burst :: after →
    (c.deliver env (wholeFrames frames (received + before.flatten.length))).failed = false →
    bytesBehind frames (received + before.flatten.length) + burst.length ≤
      c.settings.protocolLimits.maxFrameBytes.toNat

theorem burstsFit_cons {received : Nat} {burst : QByteArray} {bursts : List QByteArray} :
    c.BurstsFit env frames received (burst :: bursts) ↔
      ((c.deliver env (wholeFrames frames received)).failed = false →
        bytesBehind frames received + burst.length ≤
          c.settings.protocolLimits.maxFrameBytes.toNat) ∧
      c.BurstsFit env frames (received + burst.length) bursts := by
  unfold BurstsFit
  constructor
  · intro h
    refine ⟨h [] burst bursts rfl, fun before later after hsplit => ?_⟩
    have hlater := h (burst :: before) later after (by rw [hsplit, List.cons_append])
    simpa [Nat.add_assoc] using hlater
  · rintro ⟨hfirst, hlater⟩ before other after hsplit
    cases before with
    | nil =>
      obtain ⟨rfl, rfl⟩ := List.cons.inj hsplit
      exact hfirst
    | cons first before =>
      obtain ⟨rfl, hrest⟩ := List.cons.inj hsplit
      simpa [Nat.add_assoc] using hlater before other after hrest

theorem burstsFit_later {frames : List Frame} {received : Nat} {bursts : List QByteArray}
    {buffer : QByteArray} :
    c.BurstsFit env frames received bursts ↔
      ((c.deliver env (wholeFrames frames received)).withBuffer buffer).BurstsFit env
        (laterFrames frames received) (bytesBehind frames received) bursts := by
  have hsettings : ((c.deliver env (wholeFrames frames received)).withBuffer buffer).settings =
      c.settings := follows_deliver.settings
  unfold BurstsFit
  simp only [hsettings, deliver_withBuffer, failed_withBuffer, ← deliver_append, ← wholeFrames_add,
    ← bytesBehind_add]

/-- **Delivery is independent of the cuts, up to the receive limit.** -/
theorem receive_stream {frames : List Frame} {bursts : List QByteArray} (hlive : c.failed = false)
    (hpending : wholeFrames frames c.receiveBuffer.length = [])
    (haccepts : ∀ frame ∈ frames, Accepts c.settings.protocolLimits frame)
    (hstream : c.receiveBuffer ++ bursts.flatten = frames.flatMap wire) :
    ((c.receive env bursts).trace = (c.deliver env frames).trace ∧
        (c.receive env bursts).failure.map Prod.fst ≠ some .receiveLimitExceeded) ↔
      c.BurstsFit env frames c.receiveBuffer.length bursts := by
  induction bursts generalizing c frames with
  | nil =>
    refine iff_of_true ⟨?_, ?_⟩ fun before burst after hsplit => by simp at hsplit
    · cases frames with
      | nil => rfl
      | cons frame frames =>
        have hlength := congrArg List.length hstream
        simp only [List.flatten_nil, List.append_nil, List.flatMap_cons, List.length_append]
          at hlength
        rw [wholeFrames, if_pos (by omega)] at hpending
        exact nomatch hpending
    · have hnone : c.failure = none := by simpa [failed] using hlive
      show c.failure.map Prod.fst ≠ _
      rw [hnone]
      exact nofun
  | cons burst bursts ih =>
    have hlater : laterFrames frames c.receiveBuffer.length = frames := by
      have hsplit := wholeFrames_append_laterFrames frames c.receiveBuffer.length
      rwa [hpending] at hsplit
    have hbehind : bytesBehind frames c.receiveBuffer.length = c.receiveBuffer.length := by
      cases frames with
      | nil => rfl
      | cons frame frames =>
        unfold wholeFrames at hpending
        unfold bytesBehind
        split
        · rename_i hwhole
          rw [if_pos hwhole] at hpending
          exact nomatch hpending
        · rfl
    have hreceive : c.receive env (burst :: bursts) =
        (c.handleReadyRead env burst).receive env bursts := rfl
    rw [burstsFit_cons, hpending, hbehind, hreceive]
    by_cases hfits : c.receiveBuffer.length + burst.length ≤
        c.settings.protocolLimits.maxFrameBytes.toNat
    · have hread : c.handleReadyRead env burst =
          (c.withBuffer (c.receiveBuffer ++ burst)).drain env := by
        unfold handleReadyRead
        dsimp only
        rw [if_neg (by simpa using hlive), if_neg (by omega)]
        rfl
      have hbuffer : (c.withBuffer (c.receiveBuffer ++ burst)).receiveBuffer.length =
          c.receiveBuffer.length + burst.length := List.length_append
      obtain ⟨rest, hdrained, hrest⟩ := @drainFuel_stream env
        (c.withBuffer (c.receiveBuffer ++ burst)) frames bursts.flatten _ le_rfl hlive haccepts
        (by
          rw [← hstream, List.flatten_cons, ← List.append_assoc]
          rfl)
      rw [hbuffer, deliver_withBuffer, withBuffer_withBuffer] at hdrained
      rw [hbuffer, deliver_withBuffer, failed_withBuffer] at hrest
      have hdrain : (c.withBuffer (c.receiveBuffer ++ burst)).drain env =
          (c.deliver env (wholeFrames frames (c.receiveBuffer.length + burst.length))).withBuffer
            rest := by
        rw [drain, hbuffer]
        exact hdrained
      rw [hread, hdrain]
      have hsplit := wholeFrames_append_laterFrames frames (c.receiveBuffer.length + burst.length)
      have hdelivered : (c.deliver env (wholeFrames frames (c.receiveBuffer.length + burst.length) ++
          laterFrames frames (c.receiveBuffer.length + burst.length))).trace =
            (c.deliver env frames).trace := by rw [hsplit]
      rw [deliver_append] at hdelivered
      rw [@burstsFit_later env c frames (c.receiveBuffer.length + burst.length) bursts rest]
      have hfollows := @follows_deliver env c
        (wholeFrames frames (c.receiveBuffer.length + burst.length))
      generalize hsent : c.deliver env
        (wholeFrames frames (c.receiveBuffer.length + burst.length)) = sent at *
      cases hfailed : sent.failed with
      | true =>
        have hclosed : (sent.withBuffer rest).failed = true := hfailed
        rw [receive_of_failed hclosed]
        rw [deliver_of_failed hfailed] at hdelivered
        refine iff_of_true ⟨hdelivered, ?_⟩ ⟨fun _ => hfits, ?_⟩
        · show sent.failure.map Prod.fst ≠ _
          rcases hfollows.failure with hsame | ⟨error, diagnostic, hsome, herror⟩
          · have hnone : c.failure = none := by simpa [failed] using hlive
            rw [hsame, hnone]
            exact nofun
          · rw [hsome]
            simpa using herror
        · intro before other after _ hlive'
          rw [deliver_of_failed hclosed] at hlive'
          exact nomatch hclosed.symm.trans hlive'
      | false =>
        obtain ⟨hlength, hstream'⟩ := hrest hfailed
        have hdone : wholeFrames (laterFrames frames (c.receiveBuffer.length + burst.length))
            rest.length = [] := by
          have hadd := wholeFrames_add frames (c.receiveBuffer.length + burst.length) 0
          rw [hlength]
          simpa using hadd
        have hnext := @ih (sent.withBuffer rest)
          (laterFrames frames (c.receiveBuffer.length + burst.length)) hfailed hdone
          (by
            intro frame hframe
            have hmem : frame ∈ frames := by
              rw [← hsplit]
              exact List.mem_append_right _ hframe
            have hsettings : (sent.withBuffer rest).settings = c.settings := hfollows.settings
            rw [hsettings]
            exact haccepts frame hmem)
          hstream'
        rw [deliver_withBuffer] at hnext
        have htrace : ((sent.deliver env (laterFrames frames
            (c.receiveBuffer.length + burst.length))).withBuffer rest).trace =
              (c.deliver env frames).trace := hdelivered
        rw [htrace] at hnext
        have hreceived : (sent.withBuffer rest).receiveBuffer.length =
            bytesBehind frames (c.receiveBuffer.length + burst.length) := hlength
        rw [hreceived] at hnext
        exact hnext.trans ⟨fun h => ⟨fun _ => hfits, h⟩, And.right⟩
    · have hrefused : c.handleReadyRead env burst = c.fail .receiveLimitExceeded
          "file TLS receive buffer exceeded one bounded frame" := by
        unfold handleReadyRead
        dsimp only
        rw [if_neg (by simpa using hlive), if_pos (by omega)]
      have hlimit : (c.fail .receiveLimitExceeded
          "file TLS receive buffer exceeded one bounded frame").failure.map Prod.fst =
            some .receiveLimitExceeded := by
        unfold fail
        rw [if_neg (by simpa using hlive)]
        rfl
      have hfailed : (c.fail .receiveLimitExceeded
          "file TLS receive buffer exceeded one bounded frame").failed = true := by
        unfold fail
        rw [if_neg (by simpa using hlive)]
        rfl
      rw [hrefused, receive_of_failed hfailed]
      refine iff_of_false (fun h => h.2 hlimit) fun h => hfits (h.1 hlive)

end ConnectionState

open ConnectionState in
/-- **Delivery does not depend on the cuts as long as every burst fits.** A stream of frames within
the limits leaves the trace that handling the frames one by one leaves, without a failure at the
receive limit, exactly when no burst exceeds the frame limit together with the bytes that wait
behind the last whole frame, as long as the frames before it have not failed the connection. On an
authenticated connection this hands every frame of the application to the owner, in order. -/
theorem delivery_iff_burstsFit {env : SocketAnswers} {c : ConnectionState} {frames : List Frame}
    {bursts : List QByteArray} (hlive : c.failed = false) (hbuffer : c.receiveBuffer = [])
    (haccepts : ∀ frame ∈ frames,
      encode frame c.settings.protocolLimits = .ok (wire frame))
    (hstream : bursts.flatten = frames.flatMap wire) :
    (((c.receive env bursts).trace = (c.deliver env frames).trace ∧
        (c.receive env bursts).failure.map Prod.fst ≠ some .receiveLimitExceeded) ↔
      c.BurstsFit env frames 0 bursts) ∧
      (c.authenticated = true →
        (∀ frame ∈ frames, frame.type ≠ .hello ∧ frame.type ≠ .authResult) →
        (c.deliver env frames).trace = c.trace ++ frames.flatMap fun frame =>
          [.handled env.trustedDevices frame, .frameReceived frame]) := by
  refine ⟨?_, fun hauthenticated hframes => ?_⟩
  · have hnone : wholeFrames frames c.receiveBuffer.length = [] := by
      rw [hbuffer, List.length_nil]
      cases frames with
      | nil => rfl
      | cons frame frames =>
        have hfixed : 0 < kFixedHeaderBytes := by decide
        have hlength := wire_length frame
        rw [wholeFrames, if_neg (by omega)]
    have hdelivery := @receive_stream env c frames bursts hlive hnone
      (fun frame hframe => (encode_eq_ok.mp (haccepts frame hframe)).1)
      (by rw [hbuffer, List.nil_append, hstream])
    rwa [hbuffer] at hdelivery
  · rw [deliver_authenticated hlive hauthenticated hframes]

namespace ConnectionBurst

def connection : ConnectionState where
  localDeviceId := ⟨1, one_nonNull⟩
  localFingerprint := List.replicate 32 7
  settings := { protocolLimits := { maxFrameBytes := 64 } }
  peerFingerprint := List.replicate 32 9
  peerDeviceId := some ⟨2, two_nonNull⟩
  peerHelloVerified := true
  peerAccepted := true
  authenticated := true

def goodbye : Frame where
  type := .goodbye
  flags := FrameFlag.final
  metadata := [0xa1, 0x00]

end ConnectionBurst

open ConnectionState ConnectionBurst in
theorem delivery_iff_burstsFit_goodbye :
    (((connection.receive {} [wire goodbye, wire goodbye]).trace =
          (connection.deliver {} [goodbye, goodbye]).trace ∧
        (connection.receive {} [wire goodbye, wire goodbye]).failure.map Prod.fst ≠
          some .receiveLimitExceeded) ↔
      connection.BurstsFit {} [goodbye, goodbye] 0 [wire goodbye, wire goodbye]) ∧
      (connection.authenticated = true →
        (∀ frame ∈ [goodbye, goodbye], frame.type ≠ .hello ∧ frame.type ≠ .authResult) →
        (connection.deliver {} [goodbye, goodbye]).trace =
          connection.trace ++ [goodbye, goodbye].flatMap fun frame =>
            [.handled [] frame, .frameReceived frame]) :=
  delivery_iff_burstsFit rfl rfl (by decide) rfl

open ConnectionState ConnectionBurst in
/-- Two frames that each fit, read in one burst, fail the connection, and none is delivered. -/
theorem burst_of_two_frames_refused :
    (∀ frame ∈ [goodbye, goodbye],
        encode frame connection.settings.protocolLimits = .ok (wire frame)) ∧
      [wire goodbye ++ wire goodbye].flatten = [goodbye, goodbye].flatMap wire ∧
      (connection.receive {} [wire goodbye ++ wire goodbye]).trace =
        [.failed .receiveLimitExceeded "file TLS receive buffer exceeded one bounded frame"] := by
  refine ⟨by decide, rfl, by decide⟩

end DeskflowPlus.FileTransport
