import Mathlib.Data.List.Infix
import DeskflowPlus.Reconnect.ReconnectSession

/-!
# Generations of reconnect rounds

The invariant says how far the current round is: it waits for addresses, it has tried the first few
of those it was given, or nothing can happen in it any more. A callback of another generation finds
none of its business left.
-/

namespace DeskflowPlus.Reconnect

open Transfer Trust

variable {QHostAddress : Type} [DecidableEq QHostAddress]

namespace ReconnectSession

open AutoReconnectCoordinator (Outcome Keeps Advances)

variable {qt : QtNetwork QHostAddress} {qtText : QtText} {options : AutoReconnectOptions}
  {session : ReconnectSession QHostAddress}

def roundLimit (options : AutoReconnectOptions) : Nat :=
  (max 1 options.maxCandidatesPerRound).toNat

/-- The candidates are the first of those delivered, and those before the next one were tried. -/
structure Trying (options : AutoReconnectOptions) (session : ReconnectSession QHostAddress) :
    Prop where
  waiting : session.coordinator.waitingForCandidates = false
  candidates : session.coordinator.candidates <+:
    (session.resolvedIn session.coordinator.generation).take (roundLimit options)
  tried : session.tried session.coordinator.generation =
    session.coordinator.candidates.take session.coordinator.nextCandidate

structure Untouched (session : ReconnectSession QHostAddress) : Prop where
  tried : session.tried session.coordinator.generation = []
  attempts : ∀ attempt ∈ session.attempts, attempt.generation ≠ session.coordinator.generation

structure Awaiting (session : ReconnectSession QHostAddress) : Prop extends Untouched session where
  waiting : session.coordinator.waitingForCandidates = true
  request : session.coordinator.request ≠ none
  candidates : session.coordinator.candidates = []
  nextCandidate : session.coordinator.nextCandidate = 0
  undelivered : ∀ entry ∈ session.delivered, entry.1 ≠ session.coordinator.generation
  asked : session.askedIn session.provider.generation = some session.coordinator.generation

inductive Phase (options : AutoReconnectOptions) (session : ReconnectSession QHostAddress) : Prop
  | idle (hwaiting : session.coordinator.waitingForCandidates = false)
      (huntouched : session.Untouched)
  | awaiting (hawaiting : session.Awaiting)
  | trying (htrying : session.Trying options)

structure Inv (qt : QtNetwork QHostAddress) (options : AutoReconnectOptions)
    (session : ReconnectSession QHostAddress) : Prop where
  adopted : session.coordinator.options = options.adopted
  provider : session.provider.Ok qt
  asked : session.asked.length = session.provider.generation
  effects : ∀ entry ∈ session.effects, entry.1 ≤ session.coordinator.generation
  delivered : ∀ entry ∈ session.delivered, entry.1 ≤ session.coordinator.generation
  attempts : ∀ attempt ∈ session.attempts, attempt.generation ≤ session.coordinator.generation
  devices : ∀ attempt ∈ session.attempts, attempt.generation = session.coordinator.generation →
    session.coordinator.request.map AutoReconnectRequest.deviceId = some attempt.deviceId
  distinct : ∀ entry ∈ session.delivered, ∀ candidates, entry.2.candidates = some candidates →
    Distinct qt candidates
  rounds : ∀ generation,
    session.tried generation <+: (session.resolvedIn generation).take (roundLimit options)
  phase : session.Phase options

variable {effects : List (ReconnectEffect QHostAddress)}

theorem performAll_quiet (hquiet : ∀ effect ∈ effects, effect.Quiet)
    (session : ReconnectSession QHostAddress) :
    ∃ retryTimers, performAll qt session effects = { session with retryTimers } := by
  induction effects generalizing session with
  | nil => exact ⟨session.retryTimers, rfl⟩
  | cons effect effects ih =>
    have hrest := fun effect heffect => hquiet effect (List.mem_cons_of_mem _ heffect)
    obtain ⟨retryTimers, htimers⟩ := ih hrest (session.perform qt effect)
    have hfirst := hquiet effect List.mem_cons_self
    cases effect with
    | emit signal => exact ⟨retryTimers, htimers⟩
    | resolveCandidates request => exact absurd hfirst.2 nofun
    | connector generation deviceId candidate => exact absurd hfirst.1 nofun
    | scheduler generation delay => exact ⟨retryTimers, htimers⟩

variable {after : AutoReconnectCoordinator QHostAddress}

theorem conclude_quiet (hquiet : ∀ effect ∈ effects, effect.Quiet)
    (session : ReconnectSession QHostAddress) :
    ∃ retryTimers, session.conclude qt (after, effects) =
      { session with
        coordinator := after
        effects := session.effects ++ effects.map (after.generation, ·)
        retryTimers } :=
  performAll_quiet hquiet _

section Traces

variable {effects : List (ReconnectEffect QHostAddress)} {at_ : Nat}
  {session next : ReconnectSession QHostAddress}

omit [DecidableEq QHostAddress] in
theorem tried_append (heffects : next.effects = session.effects ++ effects.map (at_, ·))
    (generation : Nat) :
    next.tried generation = session.tried generation ++
      if at_ = generation then effects.filterMap ReconnectEffect.attempted else [] := by
  unfold tried
  rw [heffects, List.filterMap_append, List.filterMap_map]
  congr 1
  split_ifs with hgeneration
  · exact List.filterMap_congr fun effect _ => if_pos hgeneration
  · exact List.filterMap_eq_nil_iff.mpr fun effect _ => if_neg hgeneration

omit [DecidableEq QHostAddress] in
theorem tried_quiet (heffects : next.effects = session.effects ++ effects.map (at_, ·))
    (hquiet : ∀ effect ∈ effects, effect.Quiet) (generation : Nat) :
    next.tried generation = session.tried generation := by
  have hnone : effects.filterMap ReconnectEffect.attempted = [] :=
    List.filterMap_eq_nil_iff.mpr fun effect heffect => (hquiet effect heffect).1
  rw [tried_append heffects, hnone, ite_self, List.append_nil]

omit [DecidableEq QHostAddress] in
theorem asked_append (heffects : next.effects = session.effects ++ effects.map (at_, ·)) :
    next.asked = session.asked ++ (effects.filter (·.isResolve)).map fun _ => at_ := by
  unfold asked
  rw [heffects, List.filter_append, List.map_append, List.filter_map, List.map_map]
  rfl

omit [DecidableEq QHostAddress] in
theorem asked_quiet (heffects : next.effects = session.effects ++ effects.map (at_, ·))
    (hquiet : ∀ effect ∈ effects, effect.isResolve = false) : next.asked = session.asked := by
  have hnone : effects.filter (·.isResolve) = [] :=
    List.filter_eq_nil_iff.mpr fun effect heffect => by
      rw [hquiet effect heffect]
      nofun
  rw [asked_append heffects, hnone, List.map_nil, List.append_nil]

omit [DecidableEq QHostAddress] in
theorem effects_le (heffects : next.effects = session.effects ++ effects.map (at_, ·))
    {limit : Nat} (hsession : ∀ entry ∈ session.effects, entry.1 ≤ limit) (hat : at_ ≤ limit) :
    ∀ entry ∈ next.effects, entry.1 ≤ limit := by
  intro entry hentry
  rw [heffects] at hentry
  obtain hold | hnew := List.mem_append.mp hentry
  · exact hsession entry hold
  · obtain ⟨effect, -, rfl⟩ := List.mem_map.mp hnew
    exact hat

omit [DecidableEq QHostAddress] in
theorem tried_eq_nil {limit generation : Nat}
    (hsession : ∀ entry ∈ session.effects, entry.1 ≤ limit) (hlater : limit < generation) :
    session.tried generation = [] := by
  refine List.filterMap_eq_nil_iff.mpr fun entry hentry => if_neg ?_
  have := hsession entry hentry
  omega

omit [DecidableEq QHostAddress] in
theorem resolvedIn_append {entry : Nat × ResolutionSignal QHostAddress}
    (hdelivered : next.delivered = session.delivered ++ [entry]) (generation : Nat) :
    session.resolvedIn generation <+: next.resolvedIn generation := by
  unfold resolvedIn
  rw [hdelivered, List.findSome?_append]
  cases session.delivered.findSome? _ with
  | none => exact List.nil_prefix
  | some candidates => exact List.prefix_rfl

end Traces

/-- The round is where it was; callbacks may have gone. -/
structure Continues (qt : QtNetwork QHostAddress) (session next : ReconnectSession QHostAddress) :
    Prop where
  coordinator : Keeps session.coordinator next.coordinator
  provider : session.provider.Ok qt → next.provider.Ok qt
  resolution : next.provider.generation = session.provider.generation
  attempts : ∀ attempt ∈ next.attempts, attempt ∈ session.attempts
  delivered : next.delivered = session.delivered
  effects : ∃ effects : List (ReconnectEffect QHostAddress), (∀ effect ∈ effects, effect.Quiet) ∧
    next.effects = session.effects ++ effects.map (session.coordinator.generation, ·)

namespace Continues

variable {next : ReconnectSession QHostAddress}

omit [DecidableEq QHostAddress] in
theorem tried (h : Continues qt session next) (generation : Nat) :
    next.tried generation = session.tried generation := by
  obtain ⟨effects, hquiet, heffects⟩ := h.effects
  exact tried_quiet heffects hquiet generation

omit [DecidableEq QHostAddress] in
theorem asked (h : Continues qt session next) : next.asked = session.asked := by
  obtain ⟨effects, hquiet, heffects⟩ := h.effects
  exact asked_quiet heffects fun effect heffect => (hquiet effect heffect).2

omit [DecidableEq QHostAddress] in
theorem resolvedIn (h : Continues qt session next) (generation : Nat) :
    next.resolvedIn generation = session.resolvedIn generation := by
  unfold ReconnectSession.resolvedIn
  rw [h.delivered]

omit [DecidableEq QHostAddress] in
theorem untouched (h : Continues qt session next) (huntouched : session.Untouched) :
    next.Untouched := by
  constructor
  · rw [h.coordinator.generation, h.tried]
    exact huntouched.tried
  · intro attempt hattempt
    rw [h.coordinator.generation]
    exact huntouched.attempts attempt (h.attempts attempt hattempt)

omit [DecidableEq QHostAddress] in
theorem phase (h : Continues qt session next) (hphase : session.Phase options) :
    next.Phase options := by
  have hgeneration := h.coordinator.generation
  cases hphase with
  | idle hwaiting huntouched =>
    exact .idle (h.coordinator.waiting.trans hwaiting) (h.untouched huntouched)
  | awaiting hawaiting =>
    refine .awaiting ⟨h.untouched hawaiting.toUntouched, ?_, ?_, ?_, ?_, ?_, ?_⟩
    · exact h.coordinator.waiting.trans hawaiting.waiting
    · rw [h.coordinator.request]
      exact hawaiting.request
    · exact h.coordinator.candidates.trans hawaiting.candidates
    · exact h.coordinator.nextCandidate.trans hawaiting.nextCandidate
    · rw [h.delivered, hgeneration]
      exact hawaiting.undelivered
    · unfold askedIn
      rw [h.asked, h.resolution, hgeneration]
      exact hawaiting.asked
  | trying htrying =>
    refine .trying ⟨h.coordinator.waiting.trans htrying.waiting, ?_, ?_⟩
    · rw [h.coordinator.candidates, hgeneration, h.resolvedIn]
      exact htrying.candidates
    · rw [h.coordinator.candidates, h.coordinator.nextCandidate, hgeneration, h.tried]
      exact htrying.tried

omit [DecidableEq QHostAddress] in
/-- The step of a round that stays where it is. -/
theorem inv (h : Continues qt session next) (hinv : Inv qt options session) :
    Inv qt options next := by
  have hgeneration := h.coordinator.generation
  obtain ⟨effects, -, heffects⟩ := h.effects
  constructor
  · exact h.coordinator.options.trans hinv.adopted
  · exact h.provider hinv.provider
  · rw [h.asked, h.resolution]
    exact hinv.asked
  · rw [hgeneration]
    exact effects_le heffects hinv.effects le_rfl
  · rw [h.delivered, hgeneration]
    exact hinv.delivered
  · intro attempt hattempt
    rw [hgeneration]
    exact hinv.attempts attempt (h.attempts attempt hattempt)
  · intro attempt hattempt
    rw [hgeneration, h.coordinator.request]
    exact hinv.devices attempt (h.attempts attempt hattempt)
  · rw [h.delivered]
    exact hinv.distinct
  · intro generation
    rw [h.tried, h.resolvedIn]
    exact hinv.rounds generation
  · exact h.phase hinv.phase

end Continues

theorem continues_conclude (hkeeps : Keeps session.coordinator after)
    (hquiet : ∀ effect ∈ effects, effect.Quiet) :
    Continues qt session (session.conclude qt (after, effects)) := by
  obtain ⟨retryTimers, hconclude⟩ := conclude_quiet hquiet session
  rw [hconclude]
  refine ⟨hkeeps, id, rfl, fun _ h => h, rfl, effects, hquiet, ?_⟩
  rw [hkeeps.generation]

theorem Inv.tries (h : Inv qt options session) (htrying : session.Trying options)
    {request : AutoReconnectRequest QHostAddress} {candidate : AddressCandidate QHostAddress}
    (hrequest : session.coordinator.request = some request)
    (hcandidate : session.coordinator.candidates[session.coordinator.nextCandidate]? =
      some candidate) :
    Inv qt options (session.conclude qt
      ({ session.coordinator with nextCandidate := session.coordinator.nextCandidate + 1 },
        [.emit (.connecting request.deviceId candidate),
          .connector session.coordinator.generation request.deviceId candidate])) := by
  generalize hnext : session.conclude qt _ = next
  have hcoordinator : next.coordinator =
      { session.coordinator with nextCandidate := session.coordinator.nextCandidate + 1 } := by
    rw [← hnext]
    rfl
  have heffects : next.effects = session.effects ++ [.emit (.connecting request.deviceId candidate),
      .connector session.coordinator.generation request.deviceId candidate].map
        (session.coordinator.generation, ·) := by
    rw [← hnext]
    rfl
  have hattempts : next.attempts = session.attempts ++
      [{ generation := session.coordinator.generation
         deviceId := request.deviceId, candidate }] := by
    rw [← hnext]
    rfl
  have hprovider : next.provider = session.provider := by
    rw [← hnext]
    rfl
  have hdelivered : next.delivered = session.delivered := by
    rw [← hnext]
    rfl
  have hgeneration : next.coordinator.generation = session.coordinator.generation := by
    rw [hcoordinator]
  have hresolved (generation : Nat) :
      next.resolvedIn generation = session.resolvedIn generation := by
    unfold resolvedIn
    rw [hdelivered]
  have htried : next.tried session.coordinator.generation =
      session.coordinator.candidates.take (session.coordinator.nextCandidate + 1) := by
    rw [tried_append heffects, if_pos rfl, htrying.tried, List.take_add_one, hcandidate]
    rfl
  have hother (generation : Nat) (hgeneration : session.coordinator.generation ≠ generation) :
      next.tried generation = session.tried generation := by
    rw [tried_append heffects, if_neg hgeneration, List.append_nil]
  constructor
  · rw [hcoordinator]
    exact h.adopted
  · rw [hprovider]
    exact h.provider
  · rw [hprovider, asked_append heffects]
    exact (congrArg List.length (List.append_nil _)).trans h.asked
  · rw [hgeneration]
    exact effects_le heffects h.effects le_rfl
  · rw [hdelivered, hgeneration]
    exact h.delivered
  · intro attempt hattempt
    rw [hattempts] at hattempt
    rw [hgeneration]
    obtain hold | hnew := List.mem_append.mp hattempt
    · exact h.attempts attempt hold
    · rw [List.mem_singleton.mp hnew]
  · intro attempt hattempt hcurrent
    rw [hattempts] at hattempt
    rw [hgeneration] at hcurrent
    rw [hcoordinator]
    obtain hold | hnew := List.mem_append.mp hattempt
    · exact h.devices attempt hold hcurrent
    · rw [List.mem_singleton.mp hnew]
      exact congrArg (Option.map AutoReconnectRequest.deviceId) hrequest
  · rw [hdelivered]
    exact h.distinct
  · intro generation
    rw [hresolved]
    by_cases hcurrent : session.coordinator.generation = generation
    · rw [← hcurrent, htried]
      exact (List.take_prefix _ _).trans htrying.candidates
    · rw [hother generation hcurrent]
      exact h.rounds generation
  · refine .trying ⟨?_, ?_, ?_⟩
    · rw [hcoordinator]
      exact htrying.waiting
    · rw [hgeneration, hresolved, hcoordinator]
      exact htrying.candidates
    · rw [hgeneration, htried, hcoordinator]

omit [DecidableEq QHostAddress] in
theorem Inv.begins {next : ReconnectSession QHostAddress} (h : Inv qt options session)
    (hoptions : next.coordinator.options = session.coordinator.options)
    (hgeneration : next.coordinator.generation = session.coordinator.generation + 1)
    (hprovider : next.provider.Ok qt) (hasked : next.asked.length = next.provider.generation)
    (hattempts : ∀ attempt ∈ next.attempts, attempt ∈ session.attempts)
    (hdelivered : next.delivered = session.delivered)
    (heffects : next.effects = session.effects ++
      effects.map (session.coordinator.generation + 1, ·))
    (hquiet : ∀ effect ∈ effects, effect.attempted = none)
    (hphase : next.Untouched → (∀ entry ∈ next.delivered, entry.1 ≠ next.coordinator.generation) →
      next.Phase options) : Inv qt options next := by
  have htried (generation : Nat) : next.tried generation = session.tried generation := by
    have hnone : effects.filterMap ReconnectEffect.attempted = [] :=
      List.filterMap_eq_nil_iff.mpr hquiet
    rw [tried_append heffects, hnone, ite_self, List.append_nil]
  have hlater : session.coordinator.generation < session.coordinator.generation + 1 :=
    Nat.lt_succ_self _
  have hresolved (generation : Nat) :
      next.resolvedIn generation = session.resolvedIn generation := by
    unfold resolvedIn
    rw [hdelivered]
  constructor
  · exact hoptions.trans h.adopted
  · exact hprovider
  · exact hasked
  · rw [hgeneration]
    exact effects_le heffects (fun entry hentry => (h.effects entry hentry).trans hlater.le) le_rfl
  · rw [hdelivered, hgeneration]
    exact fun entry hentry => (h.delivered entry hentry).trans hlater.le
  · intro attempt hattempt
    rw [hgeneration]
    exact (h.attempts attempt (hattempts attempt hattempt)).trans hlater.le
  · intro attempt hattempt hcurrent
    have := h.attempts attempt (hattempts attempt hattempt)
    omega
  · rw [hdelivered]
    exact h.distinct
  · intro generation
    rw [htried, hresolved]
    exact h.rounds generation
  · refine hphase ⟨?_, fun attempt hattempt hcurrent => ?_⟩ fun entry hentry hcurrent => ?_
    · rw [htried, hgeneration]
      exact tried_eq_nil h.effects hlater
    · have := h.attempts attempt (hattempts attempt hattempt)
      omega
    · rw [hdelivered] at hentry
      have := h.delivered entry hentry
      omega

theorem Inv.idles (h : Inv qt options session)
    (hoptions : after.options = session.coordinator.options)
    (hgeneration : after.generation = session.coordinator.generation + 1)
    (hwaiting : after.waitingForCandidates = false) (hquiet : ∀ effect ∈ effects, effect.Quiet) :
    Inv qt options (session.conclude qt (after, effects)) := by
  obtain ⟨retryTimers, hconclude⟩ := conclude_quiet hquiet session
  rw [hconclude]
  rw [hgeneration]
  refine h.begins hoptions hgeneration h.provider ?_ (fun _ hattempt => hattempt) rfl rfl
    (fun effect heffect => (hquiet effect heffect).1) fun huntouched _ => .idle hwaiting huntouched
  have hasked := fun effect heffect => (hquiet effect heffect).2
  exact (congrArg List.length (asked_quiet rfl hasked)).trans h.asked

theorem Inv.asks (h : Inv qt options session)
    (hoptions : after.options = session.coordinator.options)
    (hgeneration : after.generation = session.coordinator.generation + 1)
    (hrequest : after.request ≠ none) (wanted : AddressCandidateRequest QHostAddress) :
    Inv qt options (session.conclude qt
      ({ after with candidates := [], nextCandidate := 0, waitingForCandidates := true },
        [.resolveCandidates wanted])) := by
  generalize hnext : session.conclude qt _ = next
  have hcoordinator : next.coordinator =
      { after with candidates := [], nextCandidate := 0, waitingForCandidates := true } := by
    rw [← hnext]
    rfl
  have hprovider : next.provider = session.provider.resolveCandidates qt wanted := by
    rw [← hnext]
    rfl
  have hresolution : next.provider.generation = session.provider.generation + 1 := by
    rw [hprovider]
    exact AddressCandidateProvider.generation_resolveCandidates wanted
  have heffects : next.effects = session.effects ++
      [.resolveCandidates wanted].map (session.coordinator.generation + 1, ·) := by
    rw [← hnext, ← hgeneration]
    rfl
  have hasked : next.asked = session.asked ++ [session.coordinator.generation + 1] :=
    asked_append heffects
  have hcurrent : next.coordinator.generation = session.coordinator.generation + 1 := by
    rw [hcoordinator]
    exact hgeneration
  refine h.begins ?_ hcurrent ?_ ?_ ?_ ?_ heffects ?_ fun huntouched hundelivered =>
    .awaiting ⟨huntouched, ?_, ?_, ?_, ?_, hundelivered, ?_⟩
  · rw [hcoordinator]
    exact hoptions
  · rw [hprovider]
    exact h.provider.resolveCandidates wanted
  · rw [hasked, hresolution, List.length_append, h.asked]
    rfl
  · rw [← hnext]
    exact fun _ hattempt => hattempt
  · rw [← hnext]
    rfl
  · intro effect heffect
    rw [List.mem_singleton.mp heffect]
    rfl
  · rw [hcoordinator]
  · rw [hcoordinator]
    exact hrequest
  · rw [hcoordinator]
  · rw [hcoordinator]
  · unfold askedIn
    rw [hresolution, if_neg (Nat.succ_ne_zero _), hasked, hcurrent, Nat.add_sub_cancel, ← h.asked]
    exact List.getElem?_concat_length

theorem Inv.beginRound (h : Inv qt options session)
    {begun : AutoReconnectCoordinator QHostAddress} {request : AutoReconnectRequest QHostAddress}
    (hoptions : begun.options = session.coordinator.options)
    (hgeneration : begun.generation = session.coordinator.generation + 1)
    (hrequest : begun.request = some request) :
    Inv qt options (session.conclude qt (begun.beginRound qt request)) := by
  obtain ⟨signal, hblocked⟩ | ⟨wanted, hasks⟩ :=
    @AutoReconnectCoordinator.beginRound_cases _ qt begun request
  · rw [hblocked]
    refine h.idles hoptions hgeneration rfl fun effect heffect => ?_
    rw [List.mem_singleton.mp heffect]
    exact ⟨rfl, rfl⟩
  · rw [hasks]
    exact h.asks hoptions hgeneration (by rw [hrequest]; nofun) wanted

section Deliveries

variable {signal : ResolutionSignal QHostAddress} {next : ReconnectSession QHostAddress}

def received (coordinator : AutoReconnectCoordinator QHostAddress)
    (signal : ResolutionSignal QHostAddress) : AutoReconnectCoordinator QHostAddress :=
  if coordinator.waitingForCandidates then coordinator.taking signal else coordinator

omit [DecidableEq QHostAddress] in
theorem received_keeps (coordinator : AutoReconnectCoordinator QHostAddress) :
    (received coordinator signal).options = coordinator.options ∧
      (received coordinator signal).generation = coordinator.generation ∧
      (received coordinator signal).request = coordinator.request := by
  unfold received
  split_ifs
  · cases signal <;> exact ⟨rfl, rfl, rfl⟩
  · exact ⟨rfl, rfl, rfl⟩

omit [DecidableEq QHostAddress] in
theorem Awaiting.trying (hadopted : session.coordinator.options = options.adopted)
    (h : session.Awaiting) (hcoordinator : next.coordinator = session.coordinator.taking signal)
    (heffects : next.effects = session.effects)
    (hdelivered : next.delivered =
      session.delivered ++ [(session.coordinator.generation, signal)]) :
    next.Trying options := by
  have hnone : next.tried session.coordinator.generation = [] := by
    unfold tried
    rw [heffects]
    exact h.tried
  cases signal with
  | candidatesResolved result =>
    have hresolved : next.resolvedIn session.coordinator.generation = result.candidates := by
      have hearlier : session.delivered.findSome? (fun entry =>
          if entry.1 = session.coordinator.generation then entry.2.candidates else none) = none :=
        List.findSome?_eq_none_iff.mpr fun entry hentry => if_neg (h.undelivered entry hentry)
      unfold resolvedIn
      rw [hdelivered, List.findSome?_append, hearlier, Option.none_or, List.findSome?_singleton,
        if_pos rfl]
      rfl
    have hlimit : session.coordinator.options.maxCandidatesPerRound.toNat = roundLimit options := by
      rw [hadopted]
      rfl
    constructor
    · rw [hcoordinator]
      rfl
    · rw [hcoordinator]
      show result.candidates.take _ <+: (next.resolvedIn session.coordinator.generation).take _
      rw [hresolved, hlimit]
    · rw [hcoordinator]
      exact hnone
  | resolutionFailed diagnostic =>
    constructor
    · rw [hcoordinator]
      rfl
    · rw [hcoordinator]
      show session.coordinator.candidates <+: _
      rw [h.candidates]
      exact List.nil_prefix
    · rw [hcoordinator]
      show next.tried session.coordinator.generation =
        session.coordinator.candidates.take session.coordinator.nextCandidate
      rw [hnone, h.candidates, List.take_nil]

omit [DecidableEq QHostAddress] in
theorem Inv.delivers (h : Inv qt options session)
    (hdistinct : ∀ candidates, signal.candidates = some candidates → Distinct qt candidates)
    (hcoordinator : next.coordinator = received session.coordinator signal)
    (hprovider : next.provider.Ok qt)
    (hresolution : next.provider.generation = session.provider.generation)
    (hattempts : next.attempts = session.attempts) (heffects : next.effects = session.effects)
    (hdelivered : next.delivered =
      session.delivered ++ [(session.coordinator.generation, signal)]) :
    Inv qt options next := by
  obtain ⟨hoptions, hgeneration, hrequest⟩ :=
    @received_keeps _ signal session.coordinator
  rw [← hcoordinator] at hoptions hgeneration hrequest
  have htried (generation : Nat) : next.tried generation = session.tried generation := by
    unfold ReconnectSession.tried
    rw [heffects]
  have hasked : next.asked = session.asked := by
    unfold ReconnectSession.asked
    rw [heffects]
  constructor
  · exact hoptions.trans h.adopted
  · exact hprovider
  · rw [hasked, hresolution]
    exact h.asked
  · rw [heffects, hgeneration]
    exact h.effects
  · rw [hdelivered, hgeneration]
    intro entry hentry
    obtain hold | hnew := List.mem_append.mp hentry
    · exact h.delivered entry hold
    · rw [List.mem_singleton.mp hnew]
  · rw [hattempts, hgeneration]
    exact h.attempts
  · rw [hattempts, hgeneration, hrequest]
    exact h.devices
  · rw [hdelivered]
    intro entry hentry
    obtain hold | hnew := List.mem_append.mp hentry
    · exact h.distinct entry hold
    · rw [List.mem_singleton.mp hnew]
      exact hdistinct
  · intro generation
    rw [htried]
    exact (h.rounds generation).trans ((resolvedIn_append hdelivered generation).take _)
  · cases h.phase with
    | idle hwaiting huntouched =>
      have hsame : next.coordinator = session.coordinator := by
        rw [hcoordinator]
        exact if_neg (by rw [hwaiting]; nofun)
      refine .idle (by rw [hsame, hwaiting]) ⟨?_, ?_⟩
      · rw [htried, hgeneration]
        exact huntouched.tried
      · rw [hattempts, hgeneration]
        exact huntouched.attempts
    | awaiting hawaiting =>
      have htaking : next.coordinator = session.coordinator.taking signal := by
        rw [hcoordinator]
        exact if_pos hawaiting.waiting
      exact .trying (hawaiting.trying h.adopted htaking heffects hdelivered)
    | trying htrying =>
      have hsame : next.coordinator = session.coordinator := by
        rw [hcoordinator]
        exact if_neg (by rw [htrying.waiting]; nofun)
      refine .trying ⟨by rw [hsame, htrying.waiting], ?_, ?_⟩
      · rw [hsame]
        exact htrying.candidates.trans ((resolvedIn_append hdelivered _).take _)
      · rw [hsame, htried]
        exact htrying.tried

end Deliveries

theorem Inv.nothing (h : Inv qt options session) :
    Inv qt options (session.conclude qt (session.coordinator, [])) :=
  (continues_conclude .refl fun _ heffect => (List.not_mem_nil heffect).elim).inv h

theorem Inv.advances (h : Inv qt options session) (htrying : session.Trying options)
    {outcome : Outcome QHostAddress} (hadvances : Advances session.coordinator outcome) :
    Inv qt options (session.conclude qt outcome) := by
  cases hadvances with
  | keeps hkeeps hquiet => exact (continues_conclude hkeeps hquiet).inv h
  | tries hrequest hcandidate => exact h.tries htrying hrequest hcandidate

omit [DecidableEq QHostAddress] in
theorem Inv.trying_of_attempt (h : Inv qt options session)
    {attempt : ConnectAttempt QHostAddress} (hattempt : attempt ∈ session.attempts)
    (hcurrent : attempt.generation = session.coordinator.generation) : session.Trying options := by
  cases h.phase with
  | idle hwaiting huntouched => exact absurd hcurrent (huntouched.attempts attempt hattempt)
  | awaiting hawaiting => exact absurd hcurrent (hawaiting.attempts attempt hattempt)
  | trying htrying => exact htrying

theorem Inv.networkAvailable (h : Inv qt options session) :
    Inv qt options (session.conclude qt (session.coordinator.networkAvailable qt)) := by
  unfold AutoReconnectCoordinator.networkAvailable
  split
  · exact h.nothing
  rename_i request hrequest
  split
  · exact h.nothing
  · exact h.beginRound rfl rfl hrequest

theorem Inv.hostResolved (h : Inv qt options session) (lookup : HostLookup)
    (addresses : List QHostAddress) (diagnostic : QString) :
    Inv qt options (conclude qt { session with
      provider := session.provider.finishHost qt lookup addresses diagnostic }
      (session.coordinator, [])) := by
  have hrest : Continues qt session { session with
      provider := session.provider.finishHost qt lookup addresses diagnostic } :=
    ⟨.refl, fun hok => hok.finishHost lookup addresses diagnostic,
      AddressCandidateProvider.generation_finishHost lookup addresses diagnostic,
      fun _ hattempt => hattempt, rfl, [], fun _ heffect => (List.not_mem_nil heffect).elim,
      (List.append_nil _).symm⟩
  exact (hrest.inv h).nothing

def deliver (session : ReconnectSession QHostAddress) (timers : List ResolutionTimer)
    (signal : ResolutionSignal QHostAddress) : ReconnectSession QHostAddress :=
  { session with
    provider := { session.provider with timers }
    delivered := session.delivered ++ [(session.coordinator.generation, signal)] }

theorem Inv.deliver (h : Inv qt options session) (timers : List ResolutionTimer)
    {signal : ResolutionSignal QHostAddress}
    (hdistinct : ∀ candidates, signal.candidates = some candidates → Distinct qt candidates) :
    Inv qt options ((session.deliver timers signal).conclude qt
      (session.coordinator.resolved signal)) := by
  have htaken : Inv qt options { session.deliver timers signal with
      coordinator := received session.coordinator signal } :=
    h.delivers hdistinct rfl h.provider rfl rfl rfl rfl
  cases h.phase with
  | idle hwaiting huntouched =>
    rw [AutoReconnectCoordinator.resolved_of_not_waiting hwaiting]
    rw [show received session.coordinator signal = session.coordinator from
      if_neg (by rw [hwaiting]; nofun)] at htaken
    exact htaken.nothing
  | trying htrying =>
    rw [AutoReconnectCoordinator.resolved_of_not_waiting htrying.waiting]
    rw [show received session.coordinator signal = session.coordinator from
      if_neg (by rw [htrying.waiting]; nofun)] at htaken
    exact htaken.nothing
  | awaiting hawaiting =>
    rw [show received session.coordinator signal = session.coordinator.taking signal from
      if_pos hawaiting.waiting] at htaken
    exact htaken.advances (hawaiting.trying h.adopted rfl rfl rfl)
      (AutoReconnectCoordinator.resolved_of_waiting hawaiting.request hawaiting.waiting)

theorem Inv.resolutionTimeout (h : Inv qt options session) {timer : ResolutionTimer}
    {rest : ReconnectSession QHostAddress} {outcome : Outcome QHostAddress}
    (hhandle : session.handle qt qtText (.resolutionTimeout timer) = some (rest, outcome)) :
    Inv qt options (rest.conclude qt outcome) := by
  obtain ⟨-, rfl, rfl⟩ | ⟨signal, hsignal, rfl, rfl⟩ := handle_resolutionTimeout hhandle
  · have hrest : Continues qt session { session with
        provider := { session.provider with timers := session.provider.timers.erase timer } } :=
      ⟨.refl, id, rfl, fun _ hattempt => hattempt, rfl, [],
        fun _ heffect => (List.not_mem_nil heffect).elim, (List.append_nil _).symm⟩
    exact (hrest.inv h).nothing
  · refine h.deliver (session.provider.timers.erase timer) fun candidates hcandidates => ?_
    cases signal with
    | candidatesResolved result =>
      cases hcandidates
      exact AddressCandidateProvider.distinct_of_timeout h.provider hsignal
    | resolutionFailed diagnostic => cases hcandidates

theorem Inv.connectFinished (h : Inv qt options session) {attempt : ConnectAttempt QHostAddress}
    (hattempt : attempt ∈ session.attempts) (result : AutoReconnectConnectResult)
    (faults : AutoReconnectCoordinator.SaveFaults) :
    Inv qt options (conclude qt { session with attempts := session.attempts.erase attempt }
      (session.coordinator.candidateFinished qt qtText attempt.generation attempt.candidate result
        faults)) := by
  have hrest : Continues qt session { session with attempts := session.attempts.erase attempt } :=
    ⟨.refl, id, rfl, fun _ hother => List.mem_of_mem_erase hother, rfl, [],
      fun _ heffect => (List.not_mem_nil heffect).elim, (List.append_nil _).symm⟩
  by_cases hcurrent : attempt.generation = session.coordinator.generation
  · have htrying := h.trying_of_attempt hattempt hcurrent
    exact (hrest.inv h).advances ⟨htrying.waiting, htrying.candidates, htrying.tried⟩
      (AutoReconnectCoordinator.candidateFinished_advances _ _ _ _)
  · rw [AutoReconnectCoordinator.candidateFinished_stale hcurrent]
    exact (hrest.inv h).nothing

theorem Inv.retryTimeout (h : Inv qt options session) (generation : Nat) :
    Inv qt options (conclude qt
      { session with retryTimers := session.retryTimers.erase generation }
      (session.coordinator.retryElapsed qt generation)) := by
  have hrest : Continues qt session
      { session with retryTimers := session.retryTimers.erase generation } :=
    ⟨.refl, id, rfl, fun _ hattempt => hattempt, rfl, [],
      fun _ heffect => (List.not_mem_nil heffect).elim, (List.append_nil _).symm⟩
  unfold AutoReconnectCoordinator.retryElapsed
  split
  · exact (hrest.inv h).nothing
  rename_i request hrequest
  split
  · exact (hrest.inv h).nothing
  · exact (hrest.inv h).beginRound rfl rfl hrequest

theorem Inv.step (h : Inv qt options session) {event : ReconnectEvent QHostAddress}
    {next : ReconnectSession QHostAddress} (hstep : session.step qt qtText event = some next) :
    Inv qt options next := by
  obtain ⟨⟨rest, outcome⟩, hhandle, rfl⟩ := Option.map_eq_some_iff.mp hstep
  show Inv qt options (rest.conclude qt outcome)
  cases event with
  | start request =>
    cases hhandle
    exact h.beginRound rfl rfl rfl
  | networkAvailable =>
    cases hhandle
    exact h.networkAvailable
  | stop =>
    cases hhandle
    exact h.idles rfl rfl rfl fun _ heffect => (List.not_mem_nil heffect).elim
  | trustChanged trustedDevices =>
    cases hhandle
    have hkeeps : Keeps session.coordinator { session.coordinator with trustedDevices } := by
      constructor <;> rfl
    exact (continues_conclude hkeeps fun _ heffect => (List.not_mem_nil heffect).elim).inv h
  | hostResolved lookup addresses diagnostic =>
    obtain ⟨rfl, rfl⟩ := handle_hostResolved hhandle
    exact h.hostResolved lookup addresses diagnostic
  | resolutionTimeout timer => exact h.resolutionTimeout hhandle
  | connectFinished attempt result faults =>
    obtain ⟨hattempt, rfl, rfl⟩ := handle_connectFinished hhandle
    exact h.connectFinished hattempt result faults
  | retryTimeout generation =>
    obtain ⟨rfl, rfl⟩ := handle_retryTimeout hhandle
    exact h.retryTimeout generation

omit [DecidableEq QHostAddress] in
theorem Inv.initial (trustedDevices : DeviceStore) :
    Inv qt options ({ coordinator := { trustedDevices, options := options.adopted } } :
      ReconnectSession QHostAddress) := by
  refine ⟨rfl, .initial, rfl, nofun, nofun, nofun, nofun, nofun, fun _ => List.nil_prefix, ?_⟩
  exact .idle rfl ⟨rfl, nofun⟩

theorem inv_of_reachable (h : (machine qt qtText options).Reachable (fun _ _ => True) session) :
    Inv qt options session :=
  h.invariant (fun _ ⟨trustedDevices, hstart⟩ => hstart ▸ .initial trustedDevices)
    fun _ _ _ hinv _ hstep => hinv.step hstep

end ReconnectSession

end DeskflowPlus.Reconnect
