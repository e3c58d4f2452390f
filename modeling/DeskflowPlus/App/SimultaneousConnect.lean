import Mathlib.Data.List.Nodup
import DeskflowPlus.App.PeerConnections
import DeskflowPlus.FileTransport.AuthenticationGate

/-!
# When simultaneous connections converge

A peer keeps the connection that it finished authenticating last, and closes the other. Whether the
two peers keep the same one therefore hangs on the order in which each of them finished: if it is
the same, the connection that both keep is closed by nobody; if it is not, each closes the one that
the other keeps.
-/

namespace DeskflowPlus.App

/-- What every end writes, as far as it comes. -/
def script : List ChannelMessage := [.hello, .authResult, .capabilities, .close]

/-- How much of the script an end has written. -/
def ConnectionEnd.stage (e : ConnectionEnd) : Nat :=
  if e.closing then 4 else if e.authenticated then 3 else if e.peerHelloVerified then 2
  else if e.encrypted then 1 else 0

structure ConnectionEnd.Ok (own : Bool) (e : ConnectionEnd) : Prop where
  written : e.written = script.take e.stage
  verified : e.peerHelloVerified = decide (1 ≤ e.heard)
  accepted : e.peerAccepted = decide (2 ≤ e.heard)
  authenticated : e.authenticated = decide (2 ≤ e.heard)
  negotiated : e.negotiated = decide (3 ≤ e.heard)
  encrypted : 1 ≤ e.heard → e.encrypted = true
  closing : e.closing = true → 2 ≤ e.heard
  bounded : e.heard ≤ 4
  severed : e.heard = 4 → e.attached = false
  begun : e.attached = true ∨ e.encrypted = true → e.begun = true
  dropped : e.begun = true → e.attached = false → e.closing = true ∨ e.heard = 4
  accepts : e.begun = true → own = false → e.encrypted = true
  expected : e.expectedPeer = true → own = true

namespace ConnectionEnd.Ok

variable {own : Bool} {e : ConnectionEnd}

theorem initial : ({} : ConnectionEnd).Ok own := by
  constructor <;> simp [stage, script]

theorem of_not_encrypted (h : e.Ok own) (hfresh : e.encrypted = false) :
    e.heard = 0 ∧ e.written = [] ∧ e.closing = false := by
  have hheard : e.heard = 0 := by
    by_contra hpositive
    rw [h.encrypted (Nat.one_le_iff_ne_zero.mpr hpositive)] at hfresh
    cases hfresh
  have hclosing : e.closing = false :=
    Bool.eq_false_iff.mpr fun hclosing => by
      have := h.closing hclosing
      omega
  refine ⟨hheard, ?_, hclosing⟩
  rw [h.written]
  unfold stage
  rw [hclosing, h.authenticated, h.verified, hheard, hfresh]
  rfl

theorem of_not_begun (h : e.Ok own) (hfresh : e.begun = false) :
    e.attached = false ∧ e.encrypted = false := by
  constructor <;> refine Bool.eq_false_iff.mpr fun hset => ?_
  · rw [h.begun (.inl hset)] at hfresh
    cases hfresh
  · rw [h.begun (.inr hset)] at hfresh
    cases hfresh

theorem encrypt (h : e.Ok own) (hattached : e.attached = true) (hfresh : e.encrypted = false) :
    { e with encrypted := true, written := e.written ++ [ChannelMessage.hello] }.Ok own := by
  obtain ⟨hheard, hwritten, hclosing⟩ := h.of_not_encrypted hfresh
  obtain ⟨-, hverified, haccepted, hauthenticated, hnegotiated, -, -, -, -, hbegun, -, -, hexpected⟩
    := h
  constructor <;> simp_all [stage, script]

theorem dial (h : e.Ok true) (hfresh : e.begun = false) :
    { e with begun := true, attached := true, expectedPeer := true }.Ok true := by
  obtain ⟨hattached, hencrypted⟩ := h.of_not_begun hfresh
  obtain ⟨hheard, hwritten, hclosing⟩ := h.of_not_encrypted hencrypted
  obtain ⟨-, hverified, haccepted, hauthenticated, hnegotiated, -, -, -, -, -, -, -, -⟩ := h
  constructor <;> simp_all [stage, script]

theorem accept (h : e.Ok own) (hfresh : e.begun = false) :
    { e with begun := true, attached := true, expectedPeer := false, encrypted := true,
             written := e.written ++ [ChannelMessage.hello] }.Ok own := by
  obtain ⟨hattached, hencrypted⟩ := h.of_not_begun hfresh
  obtain ⟨hheard, hwritten, hclosing⟩ := h.of_not_encrypted hencrypted
  obtain ⟨-, hverified, haccepted, hauthenticated, hnegotiated, -, -, -, -, -, -, -, -⟩ := h
  constructor <;> simp_all [stage, script]

theorem hearHello (h : e.Ok own) (hencrypted : e.encrypted = true) (hheard : e.heard = 0) :
    { e with heard := 1, peerHelloVerified := true
             written := e.written ++ [ChannelMessage.authResult] }.Ok own := by
  obtain ⟨hwritten, hverified, haccepted, hauthenticated, hnegotiated, -, hclosing, -, -, hbegun,
    hdropped, -, hexpected⟩ := h
  constructor <;> simp_all [stage, script]

theorem hearResult (h : e.Ok own) (hencrypted : e.encrypted = true) (hheard : e.heard = 1) :
    { e with heard := 2, peerAccepted := true, authenticated := true
             written := e.written ++ [ChannelMessage.capabilities] }.Ok own := by
  obtain ⟨hwritten, hverified, haccepted, hauthenticated, hnegotiated, -, hclosing, -, -, hbegun,
    hdropped, -, hexpected⟩ := h
  constructor <;> simp_all [stage, script]

theorem hearCapabilities (h : e.Ok own) (hencrypted : e.encrypted = true) (hheard : e.heard = 2) :
    { e with heard := 3, negotiated := true }.Ok own := by
  obtain ⟨hwritten, hverified, haccepted, hauthenticated, hnegotiated, -, hclosing, -, -, hbegun,
    hdropped, -, hexpected⟩ := h
  constructor <;> simp_all [stage, script]

theorem hearClose (h : e.Ok own) (hencrypted : e.encrypted = true) (hheard : e.heard = 3) :
    { e with heard := 4, attached := false }.Ok own := by
  obtain ⟨hwritten, hverified, haccepted, hauthenticated, hnegotiated, -, hclosing, -, -, hbegun,
    -, -, hexpected⟩ := h
  constructor <;> simp_all [stage, script]

theorem close (h : e.Ok own) (hopen : e.closing = false) (hdone : e.authenticated = true) :
    { e with closing := true, written := e.written ++ [ChannelMessage.close] }.Ok own := by
  obtain ⟨hwritten, hverified, haccepted, hauthenticated, hnegotiated, hencrypted, -, hbounded,
    hsevered, hbegun, -, haccepts, hexpected⟩ := h
  constructor <;> simp_all [stage, script]

theorem drop (h : e.Ok own) (hclosing : e.closing = true) : { e with attached := false }.Ok own := by
  obtain ⟨hwritten, hverified, haccepted, hauthenticated, hnegotiated, hencrypted, hclosed, hbounded,
    -, hbegun, -, haccepts, hexpected⟩ := h
  constructor <;> simp_all [stage, script]

end ConnectionEnd.Ok

namespace PeerRuntime

structure Ok (side : Party) (p : PeerRuntime) : Prop where
  ends : ∀ link, (p.ends link).Ok (link = side)
  nodup : p.finished.Nodup
  finished : ∀ link, link ∈ p.finished ↔ (p.ends link).authenticated = true
  current : p.peerConnection = p.finished.getLast?.filter fun link => (p.ends link).attached
  closing : ∀ link, (p.ends link).closing = true → p.finished.getLast? ≠ some link
  replaced : ∀ link ∈ p.finished, p.finished.getLast? ≠ some link →
    (p.ends link).closing = true ∨ (p.ends link).attached = false
  requested : p.requested = true → (p.ends side).begun = true ∨ p.finished ≠ []
  client : p.client = true → (p.ends side).begun = true
  unrequested : (p.ends side).begun = true → p.requested = true

variable {e : ConnectionEnd}

@[simp]
theorem setEnd_self {link : Party} {p : PeerRuntime} :
    (p.setEnd link e).ends link = e :=
  Function.update_self ..

theorem setEnd_of_ne {link other : Party} {p : PeerRuntime} (h : other ≠ link) :
    (p.setEnd link e).ends other = p.ends other :=
  Function.update_of_ne h ..

theorem Ok.setEnd {side link : Party} {p : PeerRuntime} (h : p.Ok side) (he : e.Ok (link = side))
    (hauthenticated : e.authenticated = (p.ends link).authenticated)
    (hclosing : e.closing = (p.ends link).closing) (hattached : e.attached = (p.ends link).attached)
    (hbegun : e.begun = (p.ends link).begun) :
    (p.setEnd link e).Ok side := by
  have hsame (other : Party) :
      ((p.setEnd link e).ends other).authenticated = (p.ends other).authenticated ∧
      ((p.setEnd link e).ends other).closing = (p.ends other).closing ∧
      ((p.setEnd link e).ends other).attached = (p.ends other).attached ∧
      ((p.setEnd link e).ends other).begun = (p.ends other).begun := by
    by_cases hother : other = link
    · subst hother
      rw [setEnd_self]
      exact ⟨hauthenticated, hclosing, hattached, hbegun⟩
    · rw [setEnd_of_ne hother]
      exact ⟨rfl, rfl, rfl, rfl⟩
  refine ⟨fun other => ?_, h.nodup, fun other => ?_, ?_, fun other => ?_, fun other => ?_, ?_, ?_,
    ?_⟩
  · by_cases hother : other = link
    · subst hother
      rw [setEnd_self]
      exact he
    · rw [setEnd_of_ne hother]
      exact h.ends other
  · rw [(hsame other).1]
    exact h.finished other
  · refine h.current.trans ?_
    exact congrArg (p.finished.getLast?.filter ·) (funext fun other => (hsame other).2.2.1.symm)
  · rw [(hsame other).2.1]
    exact h.closing other
  · rw [(hsame other).2.1, (hsame other).2.2.1]
    exact h.replaced other
  · rw [(hsame side).2.2.2]
    exact h.requested
  · rw [(hsame side).2.2.2]
    exact h.client
  · rw [(hsame side).2.2.2]
    exact h.unrequested

theorem setEnd_setEnd {link : Party} {e' : ConnectionEnd} {p : PeerRuntime} :
    (p.setEnd link e).setEnd link e' = p.setEnd link e' :=
  congrArg (fun ends => { p with ends }) (Function.update_idem ..)

theorem setEnd_eq_self {link : Party} {p : PeerRuntime} : p.setEnd link (p.ends link) = p :=
  congrArg (fun ends => { p with ends }) (Function.update_eq_self ..)

def dropped (link : Party) (e : ConnectionEnd) (p : PeerRuntime) : PeerRuntime :=
  { p.setEnd link e with
    peerConnection :=
      if e.authenticated ∧ p.peerConnection = some link then none else p.peerConnection
    client := if e.expectedPeer then false else p.client }

theorem removeConnection_setEnd {link : Party} {e : ConnectionEnd} {p : PeerRuntime}
    (h : e.attached = true) :
    (p.setEnd link e).removeConnection link = p.dropped link { e with attached := false } := by
  unfold removeConnection
  dsimp only
  rw [setEnd_self, if_neg (by rw [h]; exact not_not.mpr rfl), setEnd_setEnd]
  rfl

variable {side link : Party} {p : PeerRuntime}

theorem Ok.last_mem (h : p.peerConnection = p.finished.getLast?.filter fun link =>
    (p.ends link).attached) (hheld : p.peerConnection = some link) :
    p.finished.getLast? = some link ∧ (p.ends link).attached = true := by
  rw [h] at hheld
  obtain ⟨hlast, hattached⟩ := Option.filter_eq_some_iff.mp hheld
  exact ⟨hlast, hattached⟩

theorem Ok.dropped (h : p.Ok side) (he : e.Ok (link = side))
    (hauthenticated : e.authenticated = (p.ends link).authenticated)
    (hclosing : e.closing = (p.ends link).closing) (hattached : e.attached = false)
    (hbegun : e.begun = (p.ends link).begun) : (p.dropped link e).Ok side := by
  have hlink : (p.dropped link e).ends link = e := setEnd_self
  have hother {other : Party} (hne : other ≠ link) : (p.dropped link e).ends other = p.ends other :=
    setEnd_of_ne hne
  have hsame (other : Party) :
      ((p.dropped link e).ends other).authenticated = (p.ends other).authenticated ∧
      ((p.dropped link e).ends other).closing = (p.ends other).closing ∧
      ((p.dropped link e).ends other).begun = (p.ends other).begun := by
    by_cases hcase : other = link
    · subst hcase
      rw [hlink]
      exact ⟨hauthenticated, hclosing, hbegun⟩
    · rw [hother hcase]
      exact ⟨rfl, rfl, rfl⟩
  refine ⟨fun other => ?_, h.nodup, fun other => ?_, ?_, fun other => ?_, fun other hmem hlast => ?_,
    ?_, fun hclient => ?_, ?_⟩
  · by_cases hcase : other = link
    · subst hcase
      rw [hlink]
      exact he
    · rw [hother hcase]
      exact h.ends other
  · rw [(hsame other).1]
    exact h.finished other
  · show (if e.authenticated ∧ p.peerConnection = some link then none else p.peerConnection) =
      p.finished.getLast?.filter fun other => ((p.dropped link e).ends other).attached
    cases hfinal : p.finished.getLast? with
    | none =>
      rw [h.current, hfinal]
      exact if_neg nofun
    | some last =>
      by_cases hcase : last = link
      · subst hcase
        have hdone : e.authenticated = true := by
          rw [hauthenticated]
          exact (h.finished last).mp (List.mem_of_getLast? hfinal)
        rw [Option.filter_some, hlink, hattached, h.current, hfinal, Option.filter_some]
        cases (p.ends last).attached <;> simp [hdone]
      · rw [Option.filter_some, hother hcase, h.current, hfinal, Option.filter_some, if_neg]
        rintro ⟨-, hheld⟩
        split at hheld
        · exact hcase (Option.some.inj hheld)
        · cases hheld
  · rw [(hsame other).2.1]
    exact h.closing other
  · by_cases hcase : other = link
    · subst hcase
      rw [hlink]
      exact .inr hattached
    · rw [hother hcase]
      exact h.replaced other hmem hlast
  · rw [(hsame side).2.2]
    exact h.requested
  · rw [(hsame side).2.2]
    refine h.client ?_
    replace hclient : (if e.expectedPeer then false else p.client) = true := hclient
    split at hclient
    · cases hclient
    · exact hclient
  · rw [(hsame side).2.2]
    exact h.unrequested

theorem Ok.finish {q : PeerRuntime} (h : p.Ok side) (hnew : link ∉ p.finished)
    (hfinished : q.finished = p.finished ++ [link]) (hheld : q.peerConnection = some link)
    (hends : ∀ other, (q.ends other).Ok (other = side))
    (hlink : (q.ends link).authenticated = true ∧ (q.ends link).attached = true ∧
      (q.ends link).closing = false)
    (hother : ∀ other ≠ link, (q.ends other).authenticated = (p.ends other).authenticated ∧
      (other ∈ p.finished → (q.ends other).closing = true ∨ (q.ends other).attached = false))
    (hbegun : (q.ends side).begun = (p.ends side).begun) (hrequested : q.requested = p.requested)
    (hclient : q.client = true → p.client = true) : q.Ok side where
  ends := hends
  nodup := by
    rw [hfinished, List.nodup_append]
    refine ⟨h.nodup, List.nodup_singleton _, fun other hmem last hlast => ?_⟩
    rintro rfl
    exact hnew (List.mem_singleton.mp hlast ▸ hmem)
  finished other := by
    rw [hfinished, List.mem_append, List.mem_singleton]
    by_cases hcase : other = link
    · subst hcase
      exact iff_of_true (.inr rfl) hlink.1
    · rw [(hother other hcase).1, ← h.finished other]
      exact or_iff_left hcase
  current := by
    rw [hfinished, List.getLast?_concat, Option.filter_some, hlink.2.1, hheld]
    rfl
  closing other hclosing := by
    rw [hfinished, List.getLast?_concat]
    intro hlast
    cases hlast
    rw [hlink.2.2] at hclosing
    cases hclosing
  replaced other hmem hlast := by
    rw [hfinished, List.getLast?_concat] at hlast
    have hcase : other ≠ link := fun hcase => hlast (hcase ▸ rfl)
    rw [hfinished, List.mem_append, List.mem_singleton] at hmem
    exact (hother other hcase).2 (hmem.resolve_right hcase)
  requested _ := .inr (by rw [hfinished]; exact List.append_ne_nil_of_right_ne_nil _ nofun)
  client hq := by
    rw [hbegun]
    exact h.client (hclient hq)
  unrequested hq := by
    rw [hrequested]
    rw [hbegun] at hq
    exact h.unrequested hq

theorem Ok.attach {q : PeerRuntime} (h : p.Ok side) (hnew : (p.ends link).begun = false)
    (hends : q.ends = Function.update p.ends link e) (he : e.Ok (link = side))
    (hfresh : e.authenticated = false ∧ e.closing = false) (hfinished : q.finished = p.finished)
    (hheld : q.peerConnection = p.peerConnection)
    (hrequested : q.requested = true → (q.ends side).begun = true ∨ p.finished ≠ [])
    (hclient : q.client = true → (q.ends side).begun = true)
    (hunrequested : (q.ends side).begun = true → q.requested = true) : q.Ok side := by
  have hidle : (p.ends link).authenticated = false := by
    obtain ⟨hheard, -, -⟩ := (h.ends link).of_not_encrypted ((h.ends link).of_not_begun hnew).2
    rw [(h.ends link).authenticated, hheard]
    rfl
  have hlink : q.ends link = e := by
    rw [hends]
    exact Function.update_self ..
  have hother {other : Party} (hne : other ≠ link) : q.ends other = p.ends other := by
    rw [hends]
    exact Function.update_of_ne hne ..
  have hunfinished : link ∉ p.finished := by
    rw [h.finished, hidle]
    exact Bool.false_ne_true
  refine ⟨fun other => ?_, ?_, fun other => ?_, ?_, fun other hclosing => ?_,
    fun other hmem hlast => ?_, ?_, hclient, hunrequested⟩
  · by_cases hcase : other = link
    · subst hcase
      rw [hlink]
      exact he
    · rw [hother hcase]
      exact h.ends other
  · rw [hfinished]
    exact h.nodup
  · rw [hfinished]
    by_cases hcase : other = link
    · subst hcase
      rw [hlink, hfresh.1]
      exact iff_of_false hunfinished Bool.false_ne_true
    · rw [hother hcase]
      exact h.finished other
  · rw [hheld, hfinished, h.current]
    cases hlast : p.finished.getLast? with
    | none => rfl
    | some last =>
      have hcase : last ≠ link := fun hcase =>
        hunfinished (hcase ▸ List.mem_of_getLast? hlast)
      rw [Option.filter_some, Option.filter_some, hother hcase]
  · by_cases hcase : other = link
    · subst hcase
      rw [hlink, hfresh.2] at hclosing
      cases hclosing
    · rw [hother hcase] at hclosing
      rw [hfinished]
      exact h.closing other hclosing
  · rw [hfinished] at hmem hlast
    have hcase : other ≠ link := fun hcase => hunfinished (hcase ▸ hmem)
    rw [hother hcase]
    exact h.replaced other hmem hlast
  · rw [hfinished]
    exact hrequested

theorem Ok.begun_false (h : p.Ok side) (hrequested : p.requested = false) :
    (p.ends side).begun = false :=
  Bool.eq_false_iff.mpr fun hbegun => by
    rw [h.unrequested hbegun] at hrequested
    cases hrequested

theorem Ok.connectPeerAt (h : p.Ok side) (hrequested : p.requested = false) :
    (p.connectPeerAt side).Ok side := by
  have hfresh := h.begun_false hrequested
  unfold PeerRuntime.connectPeerAt
  dsimp only
  split
  · rename_i hheld
    refine ⟨h.ends, h.nodup, h.finished, h.current, h.closing, h.replaced, fun _ => .inr ?_,
      h.client, fun _ => rfl⟩
    rcases hheld with hheld | hclient
    · rintro hnone
      rw [h.current, hnone] at hheld
      cases hheld
    · rw [h.client hclient] at hfresh
      cases hfresh
  · have hend := h.ends side
    rw [decide_eq_true rfl] at hend
    have hbegun : (({ p with requested := true, client := true }.attachConnection side
        true).ends side).begun = true := by
      unfold attachConnection
      rw [setEnd_self]
    refine h.attach hfresh rfl ?_ ?_ rfl rfl (fun _ => .inl hbegun) (fun _ => hbegun) fun _ => rfl
    · rw [decide_eq_true rfl]
      exact hend.dial hfresh
    · obtain ⟨hheard, -, hclosing⟩ := hend.of_not_encrypted (hend.of_not_begun hfresh).2
      refine ⟨?_, hclosing⟩
      rw [hend.authenticated, hheard]
      rfl

theorem Ok.accept (h : p.Ok side) (hfresh : (p.ends link).begun = false) (hne : link ≠ side) :
    (p.accept link).Ok side := by
  have hend := h.ends link
  have hside : ((p.accept link).ends side).begun = (p.ends side).begun := by
    unfold PeerRuntime.accept handleEncrypted attachConnection write
    rw [setEnd_of_ne hne.symm, setEnd_of_ne hne.symm, setEnd_of_ne hne.symm]
  have hends : (p.accept link).ends = Function.update p.ends link { p.ends link with
      begun := true, attached := true, expectedPeer := false, encrypted := true
      written := (p.ends link).written ++ [.hello] } := by
    unfold PeerRuntime.accept handleEncrypted attachConnection write
    rw [setEnd_self, setEnd_self, setEnd_setEnd, setEnd_setEnd]
    rfl
  refine h.attach hfresh hends (hend.accept hfresh) ?_ rfl rfl ?_ ?_ ?_
  · obtain ⟨hheard, -, hclosing⟩ := hend.of_not_encrypted (hend.of_not_begun hfresh).2
    refine ⟨?_, hclosing⟩
    rw [hend.authenticated, hheard]
    rfl
  · rw [hside]
    exact h.requested
  · rw [hside]
    exact h.client
  · rw [hside]
    exact h.unrequested

theorem Ok.handleEncrypted (h : p.Ok side) (hattached : (p.ends link).attached = true)
    (hfresh : (p.ends link).encrypted = false) : (p.handleEncrypted link).Ok side := by
  unfold PeerRuntime.handleEncrypted write
  rw [setEnd_self, setEnd_setEnd]
  exact h.setEnd ((h.ends link).encrypt hattached hfresh) rfl rfl rfl rfl

theorem Ok.disconnected (h : p.Ok side) (hattached : (p.ends link).attached = true)
    (hclosing : (p.ends link).closing = true) : (p.removeConnection link).Ok side := by
  have hremoved := @removeConnection_setEnd link (p.ends link) p hattached
  rw [setEnd_eq_self] at hremoved
  rw [hremoved]
  exact h.dropped ((h.ends link).drop hclosing) rfl rfl rfl rfl

variable {disconnectsAtOnce : Bool}

theorem Ok.receive_hello (h : p.Ok side) (hencrypted : (p.ends link).encrypted = true)
    (hheard : (p.ends link).heard = 0) : (p.receive disconnectsAtOnce link .hello).Ok side := by
  have hend := h.ends link
  have hverified : (p.ends link).peerHelloVerified = false := by rw [hend.verified, hheard]; rfl
  have haccepted : (p.ends link).peerAccepted = false := by rw [hend.accepted, hheard]; rfl
  have hdone : (p.ends link).authenticated = false := by rw [hend.authenticated, hheard]; rfl
  have hresult : p.receive disconnectsAtOnce link .hello = p.setEnd link { p.ends link with
      heard := 1, peerHelloVerified := true
      written := (p.ends link).written ++ [.authResult] } := by
    unfold receive handleMessage maybeAuthenticate write
    simp only [setEnd_self, setEnd_setEnd, hdone, hverified, haccepted, hheard]
    rfl
  rw [hresult]
  exact h.setEnd (hend.hearHello hencrypted hheard) rfl rfl rfl rfl

theorem Ok.receive_capabilities (h : p.Ok side) (hencrypted : (p.ends link).encrypted = true)
    (hheard : (p.ends link).heard = 2) :
    (p.receive disconnectsAtOnce link .capabilities).Ok side := by
  have hend := h.ends link
  have hdone : (p.ends link).authenticated = true := by rw [hend.authenticated, hheard]; rfl
  have hnegotiated : (p.ends link).negotiated = false := by rw [hend.negotiated, hheard]; rfl
  have hresult : p.receive disconnectsAtOnce link .capabilities = p.setEnd link { p.ends link with
      heard := 3, negotiated := true } := by
    unfold receive handleMessage
    simp only [setEnd_self, setEnd_setEnd, hdone, hnegotiated, hheard]
    rfl
  rw [hresult]
  exact h.setEnd (hend.hearCapabilities hencrypted hheard) rfl rfl rfl rfl

theorem Ok.receive_close (h : p.Ok side) (hencrypted : (p.ends link).encrypted = true)
    (hattached : (p.ends link).attached = true) (hheard : (p.ends link).heard = 3) :
    (p.receive disconnectsAtOnce link .close).Ok side := by
  have hend := h.ends link
  have hresult : p.receive disconnectsAtOnce link .close = p.dropped link { p.ends link with
      heard := 4, attached := false } := by
    unfold receive handleMessage
    rw [hheard]
    exact removeConnection_setEnd hattached
  rw [hresult]
  exact h.dropped (hend.hearClose hencrypted hheard) rfl rfl rfl rfl

/-- The connection held so far, closed and perhaps already gone. -/
def replacedBy (disconnectsAtOnce : Bool) (link : Party) (p : PeerRuntime) : PeerRuntime :=
  match p.peerConnection with
  | none => p
  | some existing =>
    if existing = link then p
    else
      let p := p.close existing
      if disconnectsAtOnce then p.removeConnection existing else p

theorem handleAuthenticated_eq : p.handleAuthenticated disconnectsAtOnce link =
    { p.replacedBy disconnectsAtOnce link with peerConnection := some link }.write link
      .capabilities := by
  unfold handleAuthenticated replacedBy
  cases p.peerConnection with
  | none => rfl
  | some existing => rfl

theorem close_eq (hopen : (p.ends link).closing = false) :
    p.close link = p.setEnd link { p.ends link with
      closing := true, written := (p.ends link).written ++ [.close] } := by
  unfold close write
  rw [if_neg (by rw [hopen]; exact Bool.false_ne_true), setEnd_self, setEnd_setEnd]

theorem removeConnection_ends : (p.removeConnection link).ends =
    Function.update p.ends link { p.ends link with attached := false } := by
  unfold removeConnection
  dsimp only
  split
  · rename_i hdetached
    rw [← Bool.not_eq_true _ |>.mp hdetached]
    exact (Function.update_eq_self ..).symm
  · rfl

theorem removeConnection_frame : (p.removeConnection link).finished = p.finished ∧
    (p.removeConnection link).requested = p.requested ∧
    ((p.removeConnection link).client = true → p.client = true) := by
  unfold removeConnection
  dsimp only
  split
  · exact ⟨rfl, rfl, id⟩
  · refine ⟨rfl, rfl, fun hclient => ?_⟩
    replace hclient : (if (p.ends link).expectedPeer then false else p.client) = true := hclient
    split at hclient
    · cases hclient
    · exact hclient

/-- What a replacement leaves of the runtime. -/
structure Replaced (side link : Party) (p q : PeerRuntime) : Prop where
  finished : q.finished = p.finished
  requested : q.requested = p.requested
  client : q.client = true → p.client = true
  kept : q.ends link = p.ends link
  ordered : ∀ other ≠ link, (q.ends other).Ok (other = side)
  same : ∀ other ≠ link, (q.ends other).authenticated = (p.ends other).authenticated ∧
    (q.ends other).begun = (p.ends other).begun
  closed : ∀ other ≠ link, p.peerConnection = some other → (q.ends other).closing = true
  others : ∀ other, p.peerConnection ≠ some other → q.ends other = p.ends other

theorem Replaced.none (hends : ∀ other ≠ link, (p.ends other).Ok (other = side))
    (hheld : p.peerConnection = none ∨ p.peerConnection = some link) :
    Replaced side link p p where
  finished := rfl
  requested := rfl
  client := id
  kept := rfl
  ordered := hends
  same _ _ := ⟨rfl, rfl⟩
  closed other hne hother := by
    rcases hheld with hheld | hheld <;> rw [hheld] at hother <;> cases hother
    exact absurd rfl hne
  others _ _ := rfl

theorem Replaced.close {existing : Party} {attached : Bool} {q : PeerRuntime}
    (hends : ∀ other ≠ link, (p.ends other).Ok (other = side))
    (hheld : p.peerConnection = some existing) (hne : existing ≠ link)
    (hopen : (p.ends existing).closing = false) (hdone : (p.ends existing).authenticated = true)
    (hattached : attached = false ∨ attached = (p.ends existing).attached)
    (hq : q.ends = Function.update p.ends existing { p.ends existing with
      attached, closing := true, written := (p.ends existing).written ++ [.close] })
    (hfinished : q.finished = p.finished) (hrequested : q.requested = p.requested)
    (hclient : q.client = true → p.client = true) : Replaced side link p q := by
  have hexisting : q.ends existing = { p.ends existing with
      attached, closing := true, written := (p.ends existing).written ++ [.close] } := by
    rw [hq]
    exact Function.update_self ..
  have hother {other : Party} (hcase : other ≠ existing) : q.ends other = p.ends other := by
    rw [hq]
    exact Function.update_of_ne hcase ..
  have hclosed := (hends existing hne).close hopen hdone
  refine ⟨hfinished, hrequested, hclient, hother hne.symm, fun other hlink => ?_,
    fun other _ => ?_, fun other _ hother => ?_, fun other hcase => ?_⟩
  · by_cases hcase : other = existing
    · subst hcase
      rw [hexisting]
      rcases hattached with rfl | rfl
      · exact hclosed.drop rfl
      · exact hclosed
    · rw [hother hcase]
      exact hends other hlink
  · by_cases hcase : other = existing
    · subst hcase
      rw [hexisting]
      exact ⟨rfl, rfl⟩
    · rw [hother hcase]
      exact ⟨rfl, rfl⟩
  · obtain rfl : existing = other := Option.some.inj (hheld.symm.trans hother)
    rw [hexisting]
  · exact hother fun hsame => hcase (hsame ▸ hheld)

theorem replacedBy_spec (hends : ∀ other ≠ link, (p.ends other).Ok (other = side))
    (hopen : ∀ existing, p.peerConnection = some existing → existing ≠ link →
      (p.ends existing).closing = false ∧ (p.ends existing).authenticated = true) :
    Replaced side link p (p.replacedBy disconnectsAtOnce link) := by
  unfold replacedBy
  cases hheld : p.peerConnection with
  | none => exact .none hends (.inl hheld)
  | some existing =>
    dsimp only
    split
    · rename_i hsame
      exact .none hends (.inr (hsame ▸ hheld))
    rename_i hne
    obtain ⟨hunclosed, hdone⟩ := hopen existing hheld hne
    have hclose := close_eq hunclosed
    cases disconnectsAtOnce with
    | true =>
      refine .close hends hheld hne hunclosed hdone (.inl rfl) ?_ ?_ ?_ ?_
      · rw [if_pos rfl, removeConnection_ends, hclose, setEnd_self]
        exact Function.update_idem ..
      · rw [if_pos rfl, removeConnection_frame.1, hclose]
        rfl
      · rw [if_pos rfl, removeConnection_frame.2.1, hclose]
        rfl
      · rw [if_pos rfl, hclose]
        exact removeConnection_frame.2.2
    | false =>
      rw [if_neg Bool.false_ne_true, hclose]
      exact .close hends hheld hne hunclosed hdone (.inr rfl) rfl rfl rfl id

theorem Ok.receive_authResult (h : p.Ok side) (hencrypted : (p.ends link).encrypted = true)
    (hattached : (p.ends link).attached = true) (hheard : (p.ends link).heard = 1) :
    (p.receive disconnectsAtOnce link .authResult).Ok side := by
  have hend := h.ends link
  have hverified : (p.ends link).peerHelloVerified = true := by rw [hend.verified, hheard]; rfl
  have haccepted : (p.ends link).peerAccepted = false := by rw [hend.accepted, hheard]; rfl
  have hdone : (p.ends link).authenticated = false := by rw [hend.authenticated, hheard]; rfl
  have hclosing : (p.ends link).closing = false :=
    Bool.eq_false_iff.mpr fun hclosing => by
      have := hend.closing hclosing
      omega
  have hnew : link ∉ p.finished := by
    rw [h.finished, hdone]
    exact Bool.false_ne_true
  let first : PeerRuntime := { p.setEnd link { p.ends link with
    heard := 2, peerAccepted := true, authenticated := true } with
      finished := p.finished ++ [link] }
  have hresult : p.receive disconnectsAtOnce link .authResult =
      first.handleAuthenticated disconnectsAtOnce link := by
    unfold receive handleMessage maybeAuthenticate first
    simp only [setEnd_self, setEnd_setEnd, hdone, hverified, haccepted, hheard]
    rfl
  have hfirst {other : Party} (hne : other ≠ link) : first.ends other = p.ends other :=
    setEnd_of_ne hne
  have hspec : Replaced side link first (first.replacedBy disconnectsAtOnce link) := by
    refine replacedBy_spec (fun other hne => ?_) fun existing hheld hne => ?_
    · rw [hfirst hne]
      exact h.ends other
    · obtain ⟨hlast, -⟩ := Ok.last_mem h.current hheld
      rw [hfirst hne]
      refine ⟨Bool.eq_false_iff.mpr fun hclosed => h.closing existing hclosed hlast, ?_⟩
      exact (h.finished existing).mp (List.mem_of_getLast? hlast)
  rw [hresult, handleAuthenticated_eq]
  generalize first.replacedBy disconnectsAtOnce link = q at hspec
  have hlink : (({ q with peerConnection := some link }.write link .capabilities).ends link) =
      { p.ends link with
        heard := 2, peerAccepted := true, authenticated := true
        written := (p.ends link).written ++ [.capabilities] } := by
    have hkept : q.ends link = { p.ends link with
        heard := 2, peerAccepted := true, authenticated := true } := hspec.kept.trans setEnd_self
    unfold write
    rw [setEnd_self]
    dsimp only
    rw [hkept]
  have hother {other : Party} (hne : other ≠ link) :
      ({ q with peerConnection := some link }.write link .capabilities).ends other =
        q.ends other :=
    setEnd_of_ne hne
  refine h.finish hnew hspec.finished rfl (fun other => ?_) ?_ (fun other hne => ?_) ?_
    hspec.requested hspec.client
  · by_cases hcase : other = link
    · subst hcase
      rw [hlink]
      exact hend.hearResult hencrypted hheard
    · rw [hother hcase]
      exact hspec.ordered other hcase
  · rw [hlink]
    exact ⟨rfl, hattached, hclosing⟩
  · rw [hother hne, (hspec.same other hne).1, hfirst hne]
    refine ⟨rfl, fun hmem => ?_⟩
    by_cases hheld : p.peerConnection = some other
    · exact .inl (hspec.closed other hne hheld)
    · rw [hspec.others other hheld, hfirst hne]
      by_cases hlast : p.finished.getLast? = some other
      · refine .inr (Bool.eq_false_iff.mpr fun hattached => hheld ?_)
        rw [h.current, hlast, Option.filter_some, if_pos hattached]
      · exact h.replaced other hmem hlast
  · by_cases hcase : side = link
    · subst hcase
      rw [hlink]
    · rw [hother hcase, (hspec.same side hcase).2, hfirst hcase]

theorem Ok.receive {message : ChannelMessage} (h : p.Ok side)
    (hencrypted : (p.ends link).encrypted = true) (hattached : (p.ends link).attached = true)
    (hnext : script[(p.ends link).heard]? = some message) :
    (p.receive disconnectsAtOnce link message).Ok side := by
  obtain ⟨hheard, hmessage⟩ := List.getElem?_eq_some_iff.mp hnext
  match hcase : (p.ends link).heard with
  | 0 =>
    rw [hcase] at hnext
    cases hnext
    exact h.receive_hello hencrypted hcase
  | 1 =>
    rw [hcase] at hnext
    cases hnext
    exact h.receive_authResult hencrypted hattached hcase
  | 2 =>
    rw [hcase] at hnext
    cases hnext
    exact h.receive_capabilities hencrypted hcase
  | 3 =>
    rw [hcase] at hnext
    cases hnext
    exact h.receive_close hencrypted hattached hcase
  | count + 4 =>
    rw [hcase] at hnext
    cases hnext

/-- The runtime goes on without reading and without a new connection: only the logs grow. -/
structure Extends (p q : PeerRuntime) : Prop where
  written : ∀ link, (p.ends link).written.length ≤ (q.ends link).written.length
  begun : ∀ link, (q.ends link).begun = (p.ends link).begun
  heard : ∀ link, (q.ends link).heard = (p.ends link).heard

namespace Extends

theorem refl : p.Extends p := ⟨fun _ => Nat.le_refl _, fun _ => rfl, fun _ => rfl⟩

theorem trans {q r : PeerRuntime} (hfirst : p.Extends q) (hlast : q.Extends r) : p.Extends r where
  written link := Nat.le_trans (hfirst.written link) (hlast.written link)
  begun link := (hlast.begun link).trans (hfirst.begun link)
  heard link := (hlast.heard link).trans (hfirst.heard link)

theorem of_ends {q r : PeerRuntime} (h : p.Extends q) (hends : r.ends = q.ends) : p.Extends r where
  written link := by
    rw [hends]
    exact h.written link
  begun link := by
    rw [hends]
    exact h.begun link
  heard link := by
    rw [hends]
    exact h.heard link

theorem setEnd {e : ConnectionEnd} (hwritten : (p.ends link).written.length ≤ e.written.length)
    (hbegun : e.begun = (p.ends link).begun)
    (hheard : e.heard = (p.ends link).heard) : p.Extends (p.setEnd link e) := by
  refine ⟨fun other => ?_, fun other => ?_, fun other => ?_⟩ <;> by_cases hcase : other = link
  · subst hcase
    rw [setEnd_self]
    exact hwritten
  · exact Nat.le_of_eq (by rw [setEnd_of_ne hcase])
  · subst hcase
    rw [setEnd_self]
    exact hbegun
  · rw [setEnd_of_ne hcase]
  · subst hcase
    rw [setEnd_self]
    exact hheard
  · rw [setEnd_of_ne hcase]

theorem write {message : ChannelMessage} : p.Extends (p.write link message) :=
  setEnd (by rw [List.length_append]; exact Nat.le_add_right ..) rfl rfl

theorem close : p.Extends (p.close link) := by
  unfold PeerRuntime.close
  split
  · exact refl
  · refine trans ?_ write
    exact setEnd (Nat.le_refl _) rfl rfl

theorem removeConnection : p.Extends (p.removeConnection link) := by
  have hdropped : p.Extends (p.setEnd link { p.ends link with attached := false }) :=
    setEnd (Nat.le_refl _) rfl rfl
  exact hdropped.of_ends removeConnection_ends

theorem failConnection : p.Extends (p.failConnection link) := by
  unfold PeerRuntime.failConnection
  split
  · exact close
  · exact refl

theorem replacedBy : p.Extends (p.replacedBy disconnectsAtOnce link) := by
  unfold PeerRuntime.replacedBy
  split
  · exact refl
  split
  · exact refl
  dsimp only
  split
  · exact close.trans removeConnection
  · exact close

theorem handleAuthenticated : p.Extends (p.handleAuthenticated disconnectsAtOnce link) := by
  rw [handleAuthenticated_eq]
  refine trans ?_ write
  have hreplaced : p.Extends (p.replacedBy disconnectsAtOnce link) := replacedBy
  exact hreplaced.of_ends rfl

theorem maybeAuthenticate : p.Extends (p.maybeAuthenticate disconnectsAtOnce link) := by
  unfold PeerRuntime.maybeAuthenticate
  dsimp only
  split
  · exact refl
  · refine trans ?_ handleAuthenticated
    have hdone : p.Extends (p.setEnd link { p.ends link with authenticated := true }) :=
      setEnd (Nat.le_refl _) rfl rfl
    exact hdone.of_ends rfl

theorem handleMessage {message : ChannelMessage} :
    p.Extends (p.handleMessage disconnectsAtOnce link message) := by
  cases message with
  | hello =>
    unfold PeerRuntime.handleMessage
    dsimp only
    split
    · exact failConnection
    · refine trans ?_ maybeAuthenticate
      refine trans ?_ write
      exact setEnd (Nat.le_refl _) rfl rfl
  | authResult =>
    unfold PeerRuntime.handleMessage
    dsimp only
    split
    · exact failConnection
    · refine trans ?_ maybeAuthenticate
      exact setEnd (Nat.le_refl _) rfl rfl
  | capabilities =>
    unfold PeerRuntime.handleMessage
    dsimp only
    split
    · exact failConnection
    · exact setEnd (Nat.le_refl _) rfl rfl
  | close => exact removeConnection

theorem handleEncrypted : p.Extends (p.handleEncrypted link) := by
  refine trans ?_ write
  exact setEnd (Nat.le_refl _) rfl rfl

end Extends

end PeerRuntime

@[simp]
theorem Party.other_other (side : Party) : side.other.other = side := by
  cases side <;> rfl

theorem Party.other_ne (side : Party) : side.other ≠ side := by
  cases side <;> nofun

theorem Party.eq_other_of_ne {side party : Party} (h : party ≠ side) : party = side.other := by
  cases side <;> cases party <;> first | rfl | exact absurd rfl h

namespace PeerPair

/-- Both runtimes are in order, and neither end of a connection has heard more than was written. -/
structure Ok (s : PeerPair) : Prop where
  sides : ∀ side, (s side).Ok side
  heard : ∀ side link,
    ((s side).ends link).heard ≤ ((s side.other).ends link).written.length
  dialled : ∀ side, ((s side).ends side.other).begun = true →
    ((s side.other).ends side.other).begun = true

variable {s : PeerPair} {side link : Party}

theorem Ok.update {q : PeerRuntime} (h : s.Ok) (hq : q.Ok side)
    (hwritten : ∀ link, ((s side).ends link).written.length ≤ (q.ends link).written.length)
    (hbegun : ((s side).ends side).begun = true → (q.ends side).begun = true)
    (hheard : ∀ link, (q.ends link).heard ≤ ((s side.other).ends link).written.length)
    (hdialled : (q.ends side.other).begun = true →
      ((s side.other).ends side.other).begun = true) : Ok (Function.update s side q) := by
  have hself : Function.update s side q side = q := Function.update_self ..
  have hother : Function.update s side q side.other = s side.other :=
    Function.update_of_ne side.other_ne ..
  refine ⟨fun party => ?_, fun party link => ?_, fun party => ?_⟩ <;>
    by_cases hcase : party = side
  · subst hcase
    rw [hself]
    exact hq
  · rw [Party.eq_other_of_ne hcase, hother]
    exact h.sides side.other
  · subst hcase
    rw [hself, hother]
    exact hheard link
  · rw [Party.eq_other_of_ne hcase, Party.other_other, hother, hself]
    have hlog := h.heard side.other link
    rw [Party.other_other] at hlog
    exact Nat.le_trans hlog (hwritten link)
  · subst hcase
    rw [hself, hother]
    exact hdialled
  · rw [Party.eq_other_of_ne hcase, Party.other_other, hother, hself]
    intro hbegan
    have hlog := h.dialled side.other
    rw [Party.other_other] at hlog
    exact hbegun (hlog hbegan)

theorem Ok.extend {q : PeerRuntime} (h : s.Ok) (hq : q.Ok side) (hextends : (s side).Extends q) :
    Ok (Function.update s side q) := by
  refine h.update hq hextends.written (fun hbegan => ?_) (fun link => ?_) fun hbegan => ?_
  · rw [hextends.begun side]
    exact hbegan
  · rw [hextends.heard link]
    exact h.heard side link
  · rw [hextends.begun side.other] at hbegan
    exact h.dialled side hbegan

theorem Ok.attach {q : PeerRuntime} {expectedPeer : Bool} (h : s.Ok) (hq : q.Ok side)
    (hextends : ((s side).attachConnection link expectedPeer).Extends q)
    (hdialled : link = side.other → ((s side.other).ends side.other).begun = true) :
    Ok (Function.update s side q) := by
  have hsame (other : Party) :
      (((s side).attachConnection link expectedPeer).ends other).written =
        ((s side).ends other).written ∧
      (((s side).attachConnection link expectedPeer).ends other).heard =
        ((s side).ends other).heard := by
    unfold PeerRuntime.attachConnection
    by_cases hcase : other = link
    · subst hcase
      rw [PeerRuntime.setEnd_self]
      exact ⟨rfl, rfl⟩
    · rw [PeerRuntime.setEnd_of_ne hcase]
      exact ⟨rfl, rfl⟩
  have hbegun {other : Party} (hcase : other ≠ link) :
      (q.ends other).begun = ((s side).ends other).begun := by
    rw [hextends.begun other]
    unfold PeerRuntime.attachConnection
    rw [PeerRuntime.setEnd_of_ne hcase]
  refine h.update hq (fun other => ?_) (fun hbegan => ?_) (fun other => ?_) fun hbegan => ?_
  · rw [← (hsame other).1]
    exact hextends.written other
  · by_cases hcase : side = link
    · rw [hextends.begun side, hcase]
      unfold PeerRuntime.attachConnection
      rw [PeerRuntime.setEnd_self]
    · rw [hbegun hcase]
      exact hbegan
  · rw [hextends.heard other, (hsame other).2]
    exact h.heard side other
  · by_cases hcase : link = side.other
    · exact hdialled hcase
    · rw [hbegun (Ne.symm hcase)] at hbegan
      exact h.dialled side hbegan

theorem Ok.next {message : ChannelMessage} (h : s.Ok)
    (hnext : ((s side.other).ends link).written[((s side).ends link).heard]? = some message) :
    script[((s side).ends link).heard]? = some message := by
  rw [((h.sides side.other).ends link).written, List.getElem?_take] at hnext
  split at hnext
  · exact hnext
  · cases hnext

theorem Ok.receive {disconnectsAtOnce : Bool} {message : ChannelMessage} (h : s.Ok)
    (hattached : ((s side).ends link).attached = true)
    (hencrypted : ((s side).ends link).encrypted = true)
    (hnext : ((s side.other).ends link).written[((s side).ends link).heard]? = some message) :
    Ok (Function.update s side ((s side).receive disconnectsAtOnce link message)) := by
  let read := (s side).setEnd link { (s side).ends link with heard := ((s side).ends link).heard + 1 }
  have hextends : read.Extends ((s side).receive disconnectsAtOnce link message) := .handleMessage
  have hsame (other : Party) : (read.ends other).written = ((s side).ends other).written ∧
      (read.ends other).begun = ((s side).ends other).begun := by
    by_cases hcase : other = link
    · subst hcase
      rw [show read.ends other = _ from PeerRuntime.setEnd_self]
      exact ⟨rfl, rfl⟩
    · rw [show read.ends other = _ from PeerRuntime.setEnd_of_ne hcase]
      exact ⟨rfl, rfl⟩
  refine h.update ((h.sides side).receive hencrypted hattached (h.next hnext)) (fun other => ?_)
    (fun hbegan => ?_) (fun other => ?_) fun hbegan => ?_
  · rw [← (hsame other).1]
    exact hextends.written other
  · rw [hextends.begun side, (hsame side).2]
    exact hbegan
  · rw [hextends.heard other]
    by_cases hcase : other = link
    · subst hcase
      have hread : (read.ends other).heard = ((s side).ends other).heard + 1 :=
        congrArg _ PeerRuntime.setEnd_self
      rw [hread]
      exact (List.getElem?_eq_some_iff.mp hnext).1
    · rw [show read.ends other = (s side).ends other from PeerRuntime.setEnd_of_ne hcase]
      exact h.heard side other
  · rw [hextends.begun side.other, (hsame side.other).2] at hbegan
    exact h.dialled side hbegan

theorem Ok.step {event : PeerEvent} {next : PeerPair} (h : s.Ok) (hstep : s.step event = some next) :
    next.Ok := by
  cases event with
  | connectPeer side =>
    dsimp only [PeerPair.step] at hstep
    split at hstep
    · cases hstep
    rename_i hrequested
    cases hstep
    have hq := (h.sides side).connectPeerAt (Bool.not_eq_true _ |>.mp hrequested)
    by_cases hheld : (s side).peerConnection.isSome = true ∨ (s side).client = true
    · have hresult : (s side).connectPeerAt side = { s side with requested := true } := if_pos hheld
      refine h.extend hq ?_
      rw [hresult]
      exact PeerRuntime.Extends.of_ends .refl rfl
    · have hresult : (s side).connectPeerAt side =
          { s side with requested := true, client := true }.attachConnection side true :=
        if_neg hheld
      refine h.attach hq (?_ : ((s side).attachConnection side true).Extends _) fun hsame => ?_
      · rw [hresult]
        exact PeerRuntime.Extends.of_ends .refl rfl
      · exact absurd hsame.symm side.other_ne
  | accept side =>
    dsimp only [PeerPair.step] at hstep
    split at hstep
    · rename_i hready
      cases hstep
      have hfresh : ((s side).ends side.other).begun = false := Bool.not_eq_true _ |>.mp hready.2
      exact h.attach ((h.sides side).accept hfresh side.other_ne) .handleEncrypted
        fun _ => hready.1
    · cases hstep
  | encrypted side =>
    dsimp only [PeerPair.step] at hstep
    split at hstep
    · rename_i hready
      cases hstep
      exact h.extend ((h.sides side).handleEncrypted hready.1 (Bool.not_eq_true _ |>.mp hready.2))
        .handleEncrypted
    · cases hstep
  | receive side link disconnectsAtOnce =>
    dsimp only [PeerPair.step] at hstep
    split at hstep
    · rename_i hready
      split at hstep
      · cases hstep
      · rename_i message hnext
        cases hstep
        exact h.receive hready.1 hready.2 hnext
    · cases hstep
  | disconnected side link =>
    dsimp only [PeerPair.step] at hstep
    split at hstep
    · rename_i hready
      cases hstep
      exact h.extend ((h.sides side).disconnected hready.1 hready.2) .removeConnection
    · cases hstep

theorem ok_of_reachable (hreach : peerMachine.Reachable (fun _ _ => True) s) : s.Ok := by
  refine hreach.invariant ?_ fun _ _ _ h _ hstep => h.step hstep
  rintro _ rfl
  refine ⟨fun side => ⟨fun link => .initial, List.nodup_nil, fun _ => ?_, rfl, nofun, nofun, nofun,
    nofun, nofun⟩, fun _ _ => Nat.le_refl _, nofun⟩
  exact iff_of_false List.not_mem_nil Bool.false_ne_true

namespace Quiescent

variable (hquiet : s.Quiescent)
include hquiet

theorem requested : (s side).requested = true := by
  by_contra hrequested
  have hnone := hquiet (.connectPeer side)
  dsimp only [PeerPair.step] at hnone
  rw [if_neg hrequested] at hnone
  cases hnone

theorem accepted (hdialled : ((s side.other).ends side.other).begun = true) :
    ((s side).ends side.other).begun = true := by
  by_contra hfresh
  have hnone := hquiet (.accept side)
  dsimp only [PeerPair.step] at hnone
  rw [if_pos ⟨hdialled, hfresh⟩] at hnone
  cases hnone

theorem encrypted (hattached : ((s side).ends side).attached = true) :
    ((s side).ends side).encrypted = true := by
  by_contra hfresh
  have hnone := hquiet (.encrypted side)
  dsimp only [PeerPair.step] at hnone
  rw [if_pos ⟨hattached, hfresh⟩] at hnone
  cases hnone

theorem open_of_attached (hattached : ((s side).ends link).attached = true) :
    ((s side).ends link).closing = false := by
  refine Bool.eq_false_iff.mpr fun hclosing => ?_
  have hnone := hquiet (.disconnected side link)
  dsimp only [PeerPair.step] at hnone
  rw [if_pos ⟨hattached, hclosing⟩] at hnone
  cases hnone

theorem written_le_heard (hattached : ((s side).ends link).attached = true)
    (hencrypted : ((s side).ends link).encrypted = true) :
    ((s side.other).ends link).written.length ≤ ((s side).ends link).heard := by
  have hnone := hquiet (.receive side link false)
  dsimp only [PeerPair.step] at hnone
  rw [if_pos ⟨hattached, hencrypted⟩] at hnone
  split at hnone
  · rename_i hread
    exact List.getElem?_eq_none_iff.mp hread
  · cases hnone

end Quiescent

end PeerPair

namespace ConnectionEnd.Ok

variable {own : Bool} {e : ConnectionEnd}

theorem length_written (h : e.Ok own) : e.written.length = e.stage := by
  rw [h.written, List.length_take]
  unfold stage
  split
  · rfl
  split
  · rfl
  split
  · rfl
  split <;> rfl

theorem one_le_stage (hencrypted : e.encrypted = true) : 1 ≤ e.stage := by
  unfold stage
  rw [hencrypted]
  split
  · decide
  split
  · decide
  split <;> decide

theorem two_le_stage (h : e.Ok own) (hheard : 1 ≤ e.heard) : 2 ≤ e.stage := by
  have hverified : e.peerHelloVerified = true := by
    rw [h.verified]
    exact decide_eq_true hheard
  unfold stage
  rw [hverified]
  split
  · decide
  split
  · decide
  · exact Nat.le_of_eq (if_pos rfl).symm

theorem stage_le_four : e.stage ≤ 4 := by
  unfold stage
  split
  · exact Nat.le_refl _
  split
  · decide
  split
  · decide
  split <;> decide

theorem stage_eq_four : e.stage = 4 ↔ e.closing = true := by
  unfold stage
  constructor
  · intro hstage
    by_contra hopen
    rw [if_neg hopen] at hstage
    split at hstage
    · cases hstage
    split at hstage
    · cases hstage
    split at hstage <;> cases hstage
  · exact fun hclosing => if_pos hclosing

theorem two_le_heard_of_dropped (h : e.Ok own) (hbegun : e.begun = true)
    (hdetached : e.attached = false) : 2 ≤ e.heard := by
  rcases h.dropped hbegun hdetached with hclosing | hheard
  · exact h.closing hclosing
  · omega

end ConnectionEnd.Ok

namespace PeerPair

variable {s : PeerPair} {side link : Party}

theorem Ok.authenticated (h : s.Ok) (hquiet : s.Quiescent)
    (hdialled : ((s link).ends link).begun = true) :
    ((s side).ends link).authenticated = true := by
  have hbegun (side : Party) : ((s side).ends link).begun = true := by
    by_cases hcase : link = side
    · subst hcase
      exact hdialled
    · obtain rfl := Party.eq_other_of_ne hcase
      exact hquiet.accepted hdialled
  have hencrypted (side : Party) : ((s side).ends link).encrypted = true := by
    by_cases hcase : link = side
    · subst hcase
      cases hattached : ((s link).ends link).attached with
      | true => exact hquiet.encrypted hattached
      | false =>
        refine ((h.sides link).ends link).encrypted ?_
        have := ((h.sides link).ends link).two_le_heard_of_dropped (hbegun link) hattached
        omega
    · exact ((h.sides side).ends link).accepts (hbegun side) (decide_eq_false hcase)
  -- What the other end has written, this end has heard, unless it is gone and had heard enough.
  have hhears (side : Party) : ((s side.other).ends link).stage ≤ ((s side).ends link).heard ∨
      2 ≤ ((s side).ends link).heard := by
    cases hattached : ((s side).ends link).attached with
    | true =>
      rw [← ((h.sides side.other).ends link).length_written]
      exact .inl (hquiet.written_le_heard hattached (hencrypted side))
    | false =>
      exact .inr (((h.sides side).ends link).two_le_heard_of_dropped (hbegun side) hattached)
  have hverified (side : Party) : 1 ≤ ((s side).ends link).heard := by
    have hwritten := ConnectionEnd.Ok.one_le_stage (hencrypted side.other)
    rcases hhears side with hheard | hheard <;> omega
  have hdone : 2 ≤ ((s side).ends link).heard := by
    have hwritten := ((h.sides side.other).ends link).two_le_stage (hverified side.other)
    rcases hhears side with hheard | hheard <;> omega
  rw [((h.sides side).ends link).authenticated]
  exact decide_eq_true hdone

theorem Ok.mem_finished_iff (h : s.Ok) (hquiet : s.Quiescent) :
    link ∈ (s side).finished ↔ ((s link).ends link).begun = true := by
  rw [(h.sides side).finished]
  refine ⟨fun hdone => ?_, fun hdialled => h.authenticated hquiet hdialled⟩
  have hbegun : ((s side).ends link).begun = true := by
    by_contra hfresh
    have hend := (h.sides side).ends link
    obtain ⟨-, hplain⟩ := hend.of_not_begun (Bool.not_eq_true _ |>.mp hfresh)
    rw [hend.authenticated, (hend.of_not_encrypted hplain).1] at hdone
    cases hdone
  by_cases hcase : link = side
  · subst hcase
    exact hbegun
  · obtain rfl := Party.eq_other_of_ne hcase
    exact h.dialled side hbegun

theorem Ok.exists_last (h : s.Ok) (hquiet : s.Quiescent) :
    ∃ last, (s side).finished.getLast? = some last := by
  have hne : (s side).finished ≠ [] := by
    rcases (h.sides side).requested hquiet.requested with hbegun | hne
    · exact List.ne_nil_of_mem ((h.mem_finished_iff hquiet).mpr hbegun)
    · exact hne
  exact ⟨_, List.getLast?_eq_some_getLast hne⟩

theorem Ok.attached_iff (h : s.Ok) (hquiet : s.Quiescent)
    (hmem : link ∈ (s side).finished) : ((s side).ends link).attached = true ↔
      ((s side).ends link).closing = false ∧ ((s side.other).ends link).closing = false := by
  have hend := (h.sides side).ends link
  have hother := (h.sides side.other).ends link
  have hdone : 2 ≤ ((s side).ends link).heard := by
    have hauthenticated := ((h.sides side).finished link).mp hmem
    rw [hend.authenticated] at hauthenticated
    exact of_decide_eq_true hauthenticated
  have hencrypted := hend.encrypted (by omega)
  constructor
  · refine fun hattached => ⟨hquiet.open_of_attached hattached, ?_⟩
    refine Bool.eq_false_iff.mpr fun hclosing => ?_
    have hlog := hquiet.written_le_heard hattached hencrypted
    rw [hother.length_written, ConnectionEnd.Ok.stage_eq_four.mpr hclosing] at hlog
    have hgone := hend.severed (Nat.le_antisymm hend.bounded hlog)
    rw [hattached] at hgone
    cases hgone
  · rintro ⟨hopen, hopen'⟩
    by_contra hdetached
    rcases hend.dropped (hend.begun (.inr hencrypted)) (Bool.not_eq_true _ |>.mp hdetached) with
      hclosing | hheard
    · rw [hopen] at hclosing
      cases hclosing
    · have hlog := h.heard side link
      rw [hheard, hother.length_written] at hlog
      have hstage : ((s side.other).ends link).stage = 4 := by
        have hbound := ConnectionEnd.Ok.stage_le_four (e := (s side.other).ends link)
        omega
      rw [ConnectionEnd.Ok.stage_eq_four.mp hstage] at hopen'
      cases hopen'

/-- **Who survives.** At rest a connection stands at an end if both peers finished it last. -/
theorem Ok.attached_iff_last (h : s.Ok) (hquiet : s.Quiescent) :
    ((s side).ends link).attached = true ↔
      (s side).finished.getLast? = some link ∧ (s side.other).finished.getLast? = some link := by
  constructor
  · intro hattached
    have hmem : link ∈ (s side).finished := by
      rw [h.mem_finished_iff hquiet]
      have hbegun := ((h.sides side).ends link).begun (.inl hattached)
      by_cases hcase : link = side
      · subst hcase
        exact hbegun
      · obtain rfl := Party.eq_other_of_ne hcase
        exact h.dialled side hbegun
    have hmem' : link ∈ (s side.other).finished := by
      rw [h.mem_finished_iff hquiet]
      exact (h.mem_finished_iff hquiet).mp hmem
    obtain ⟨hopen, hopen'⟩ := (h.attached_iff hquiet hmem).mp hattached
    refine ⟨?_, ?_⟩ <;> by_contra hlast
    · rcases (h.sides side).replaced link hmem hlast with hclosing | hdetached
      · rw [hopen] at hclosing
        cases hclosing
      · rw [hattached] at hdetached
        cases hdetached
    · have hattached' : ((s side.other).ends link).attached = true := by
        rw [h.attached_iff hquiet hmem', Party.other_other]
        exact ⟨hopen', hopen⟩
      rcases (h.sides side.other).replaced link hmem' hlast with hclosing | hdetached
      · rw [hopen'] at hclosing
        cases hclosing
      · rw [hattached'] at hdetached
        cases hdetached
  · rintro ⟨hlast, hlast'⟩
    rw [h.attached_iff hquiet (List.mem_of_getLast? hlast)]
    refine ⟨Bool.eq_false_iff.mpr fun hclosing => ?_, Bool.eq_false_iff.mpr fun hclosing => ?_⟩
    · exact (h.sides side).closing link hclosing hlast
    · exact (h.sides side.other).closing link hclosing hlast'

theorem Ok.peerConnection_eq (h : s.Ok) (hquiet : s.Quiescent) :
    (s side).peerConnection = some link ↔
      (s side).finished.getLast? = some link ∧ (s side.other).finished.getLast? = some link := by
  rw [(h.sides side).current, Option.filter_eq_some_iff]
  constructor
  · rintro ⟨-, hattached⟩
    exact (h.attached_iff_last hquiet).mp hattached
  · exact fun hlast => ⟨hlast.1, (h.attached_iff_last hquiet).mpr hlast⟩

theorem finished_eq {first second : List Party} {last : Party} (hfirst : first.Nodup)
    (hsecond : second.Nodup) (hmem : ∀ party, party ∈ first ↔ party ∈ second)
    (hlast : first.getLast? = some last) (hlast' : second.getLast? = some last) :
    first = second := by
  have hshape {order : List Party} (hnodup : order.Nodup) (hlast : order.getLast? = some last) :
      order = if last.other ∈ order then [last.other, last] else [last] := by
    obtain ⟨earlier, rfl⟩ : ∃ earlier, order = earlier ++ [last] :=
      ⟨_, (List.dropLast_append_getLast? last hlast).symm⟩
    rw [List.nodup_append] at hnodup
    obtain ⟨hearlier, -, hapart⟩ := hnodup
    have honly : ∀ party ∈ earlier, party = last.other := fun party hparty =>
      Party.eq_other_of_ne (hapart party hparty last (List.mem_singleton_self _))
    match earlier, hearlier, honly with
    | [], _, _ =>
      refine (if_neg ?_).symm
      rw [List.nil_append, List.mem_singleton]
      exact last.other_ne
    | [party], _, honly =>
      obtain rfl := honly party (List.mem_singleton_self _)
      exact (if_pos (List.mem_append_left _ (List.mem_singleton_self _))).symm
    | party :: next :: rest, hearlier, honly =>
      have hsame : party = next :=
        (honly party List.mem_cons_self).trans
          (honly next (List.mem_cons_of_mem _ List.mem_cons_self)).symm
      exact absurd (hsame ▸ List.mem_cons_self) (List.nodup_cons.mp hearlier).1
  rw [hshape hfirst hlast, hshape hsecond hlast']
  by_cases hother : last.other ∈ first
  · rw [if_pos hother, if_pos ((hmem _).mp hother)]
  · rw [if_neg hother, if_neg (mt (hmem _).mpr hother)]

theorem Ok.same_order (h : s.Ok) (hquiet : s.Quiescent)
    (hlast : (s side).finished.getLast? = some link)
    (hlast' : (s side.other).finished.getLast? = some link) :
    (s .left).finished = (s .right).finished := by
  have hmem (party : Party) : party ∈ (s .left).finished ↔ party ∈ (s .right).finished := by
    rw [h.mem_finished_iff hquiet, h.mem_finished_iff hquiet]
  cases side with
  | left => exact finished_eq (h.sides .left).nodup (h.sides .right).nodup hmem hlast hlast'
  | right => exact finished_eq (h.sides .left).nodup (h.sides .right).nodup hmem hlast' hlast

theorem Ok.converged_iff (h : s.Ok) (hquiet : s.Quiescent) :
    s.Converged ↔ (s .left).finished = (s .right).finished := by
  constructor
  · rintro ⟨link, hlink⟩
    obtain ⟨hleft, hright⟩ := (h.peerConnection_eq hquiet).mp (hlink .left).1
    exact h.same_order hquiet hleft hright
  · intro hsame
    obtain ⟨link, hlink⟩ := @exists_last s .left h hquiet
    have hlast (side : Party) : (s side).finished.getLast? = some link := by
      cases side with
      | left => exact hlink
      | right => exact hsame ▸ hlink
    refine ⟨link, fun side => ⟨(h.peerConnection_eq hquiet).mpr ⟨hlast side, hlast side.other⟩,
      fun other => ?_⟩⟩
    rw [h.attached_iff_last hquiet, hlast side, hlast side.other, and_self, Option.some_inj]
    exact eq_comm

end PeerPair

/-- **Simultaneous connections converge when the orders agree.** At rest, the two peers hold the
same connection and no other if and only if they finished authenticating their connections in the
same order. -/
theorem simultaneous_connect_converges_iff {s : PeerPair}
    (hreach : peerMachine.Reachable (fun _ _ => True) s) (hquiet : s.Quiescent) :
    s.Converged ↔ (s .left).finished = (s .right).finished :=
  (PeerPair.ok_of_reachable hreach).converged_iff hquiet

namespace PeerRace

/-- Both connections come up, and each end has the other's HELLO and AUTH_RESULT to read. -/
def greetings : List PeerEvent :=
  [.connectPeer .left, .connectPeer .right, .accept .left, .accept .right, .encrypted .left,
    .encrypted .right, .receive .left .left false, .receive .left .right false,
    .receive .right .left false, .receive .right .right false]

def agreed : List PeerEvent :=
  greetings ++ [.receive .left .left false, .receive .right .left false,
    .receive .left .right false, .receive .right .right true, .receive .left .left false,
    .receive .left .left false, .receive .left .right false, .receive .right .right false]

/-- Each peer finishes its own connection first. -/
def crossed : List PeerEvent :=
  greetings ++ [.receive .left .left false, .receive .right .right false,
    .receive .left .right false, .receive .right .left false, .disconnected .left .left,
    .disconnected .right .right, .receive .left .right false, .receive .left .right false,
    .receive .right .left false, .receive .right .left false]

def everyEvent : List PeerEvent :=
  [Party.left, .right].flatMap fun side => [.connectPeer side, .accept side, .encrypted side] ++
    [Party.left, .right].flatMap fun link => [.receive side link false, .receive side link true,
      .disconnected side link]

theorem mem_everyEvent (event : PeerEvent) : event ∈ everyEvent := by
  cases event with
  | connectPeer side => cases side <;> decide
  | accept side => cases side <;> decide
  | encrypted side => cases side <;> decide
  | receive side link disconnectsAtOnce =>
    cases side <;> cases link <;> cases disconnectsAtOnce <;> decide
  | disconnected side link => cases side <;> cases link <;> decide

instance (s : PeerPair) : Decidable s.Quiescent :=
  decidable_of_iff (∀ event ∈ everyEvent, (s.step event).isNone = true)
    ⟨fun h event => Option.isNone_iff_eq_none.mp (h event (mem_everyEvent event)),
      fun h event _ => Option.isNone_iff_eq_none.mpr (h event)⟩

def agreedEnd : PeerPair := (peerMachine.exec (fun _ => {}) agreed).get (by decide +kernel)

def crossedEnd : PeerPair := (peerMachine.exec (fun _ => {}) crossed).get (by decide +kernel)

theorem agreedEnd_reachable : peerMachine.Reachable (fun _ _ => True) agreedEnd :=
  ⟨_, rfl, Machine.run_of_exec (Option.some_get _).symm⟩

theorem crossedEnd_reachable : peerMachine.Reachable (fun _ _ => True) crossedEnd :=
  ⟨_, rfl, Machine.run_of_exec (Option.some_get _).symm⟩

end PeerRace

open PeerRace in
theorem simultaneous_connect_converges_iff_agreed :
    agreedEnd.Converged ↔ (agreedEnd .left).finished = (agreedEnd .right).finished :=
  simultaneous_connect_converges_iff agreedEnd_reachable (by decide +kernel)

open PeerRace in
/-- Each peer finishes its own connection first, and then closes it for the other's. -/
theorem crossed_orders_leave_none :
    peerMachine.Reachable (fun _ _ => True) crossedEnd ∧ crossedEnd.Quiescent ∧
      ¬ crossedEnd.Converged ∧ ∀ side, (crossedEnd side).peerConnection = none := by
  have hnone (side : Party) : (crossedEnd side).peerConnection = none := by
    cases side <;> decide +kernel
  refine ⟨crossedEnd_reachable, by decide +kernel, ?_, hnone⟩
  rintro ⟨link, hlink⟩
  have hheld := (hlink .left).1
  rw [hnone .left] at hheld
  cases hheld

end DeskflowPlus.App
