import DeskflowPlus.Server.ClipboardOwnership

/-!
# What a refused update leaves

An update is written into the stored clipboard before its size is checked. One that is refused for
its size leaves its contents there, beside the string of the contents before, and a later switch
sends them if the limit has been raised. A stale update leaves nothing, and an unchanged one what
was there.
-/

namespace DeskflowPlus

namespace ServerClipboards

variable {Fraction : Type} {setup : ServerSetup Fraction} {io : ServerIo}
  {held : ClientProxy → ClipboardID → Option Clipboard} {state next : ServerClipboards}
  {sender client : ClientProxy} {id : ClipboardID} {seqNum : UInt32}

def Consistent (state : ServerClipboards) : Prop :=
  ∀ id, id < kClipboardEnd → (state.clipboards id).data = (state.clipboards id).clipboard.marshall.1

def Traceless (update : ClipboardUpdate) : Prop :=
  update.shared = false →
    update.later.clipboard.contents = update.earlier.clipboard.contents ∧
      update.later.data = update.earlier.data ∧ update.later.owner = update.earlier.owner ∧
      update.later.seqNum = update.earlier.seqNum

/-- What is promised about refused updates. -/
def RefusalsKept (state : ServerClipboards) : Prop :=
  state.Consistent ∧ ∀ update ∈ state.updates, Traceless update

/-- An update that is not stale and that is over the limit, or looks like what is there, brings what
is there. -/
def Harmless (held : ClientProxy → ClipboardID → Option Clipboard) (state : ServerClipboards)
    (sender : ClientProxy) (id : ClipboardID) (seqNum : UInt32) : Prop :=
  (state.clipboards id).seqNum ≤ seqNum → ∀ source, held sender id = some source →
    state.limit < source.marshall.1.length ∨ source.marshall.1 = (state.clipboards id).data →
      source.contents = (state.clipboards id).clipboard.contents

def RefusesHarmless (setup : ServerSetup Fraction) (state : ServerClipboards)
    (call : ClipboardIo × ServerClipboardEvent) : Prop :=
  match call.2 with
  | .grabbed grabber id seqNum =>
    let grabbed := state.grabClipboard setup grabber id seqNum
    state.Grabs setup grabber id seqNum → grabber = setup.primaryClient →
      state.server.active ≠ setup.primaryClient → ∀ other ∈ ids,
        grabbed.Harmless call.1.held setup.primaryClient other (grabbed.clipboards other).seqNum
  | .changed client id seqNum =>
    client ∈ state.server.clientSet → state.Harmless call.1.held client id seqNum
  | .switchScreen dst _ _ =>
    state.LeavesPrimary setup call.1.toServerIo dst → ∀ id ∈ ids, state.Selected setup true id →
      state.Harmless call.1.held setup.primaryClient id (state.clipboards id).seqNum
  | _ => True

/-- An update that is harmless leaves no trace, and the string as it should be; one that leaves no
trace is harmless. -/
theorem updateOf_spec
    (hdata : (state.clipboards id).data = (state.clipboards id).clipboard.marshall.1) :
    (Traceless (state.updateOf held sender id seqNum) ↔ state.Harmless held sender id seqNum) ∧
      (state.Harmless held sender id seqNum →
        (state.updateOf held sender id seqNum).later.data =
          (state.updateOf held sender id seqNum).later.clipboard.marshall.1) := by
  let info := state.clipboards id
  let update := info.update state.limit (held sender id) seqNum
  show ((update.2 = false → update.1.clipboard.contents = info.clipboard.contents ∧
    update.1.data = info.data ∧ update.1.owner = info.owner ∧ update.1.seqNum = info.seqNum) ↔ _) ∧
      (_ → update.1.data = update.1.clipboard.marshall.1)
  by_cases hstale : seqNum < info.seqNum
  · have hsame : update = (info, false) := ClipboardInfo.update_of_stale hstale
    rw [hsame]
    refine ⟨iff_of_true (fun _ => ⟨rfl, rfl, rfl, rfl⟩) fun h => ?_, fun _ => hdata⟩
    exact absurd h (UInt32.not_le.mpr hstale)
  have horder : info.seqNum ≤ seqNum := UInt32.not_lt.mp hstale
  have hupdate : update = _ := ClipboardInfo.update_of_not_stale hstale
  rw [hupdate]
  cases hsource : held sender id with
  | none =>
    have hsame : info.clipboard.marshall.1 = info.data := hdata.symm
    have hrefused : state.limit < (info.received none).marshall.1.length ∨
        (info.received none).marshall.1 = info.data := .inr hsame
    rw [if_pos hrefused]
    refine ⟨iff_of_true (fun _ => ⟨rfl, rfl, rfl, rfl⟩) fun _ source hsome => ?_, fun _ => hdata⟩
    rw [hsource] at hsome
    cases hsome
  | some source =>
    have hcontents : (info.received (some source)).contents = source.contents :=
      Clipboard.contents_copy _ _ _
    have hmarshall : (info.received (some source)).marshall.1 = source.marshall.1 :=
      Clipboard.marshall_congr hcontents
    rw [hmarshall]
    by_cases hrefused :
        state.limit < source.marshall.1.length ∨ source.marshall.1 = info.data
    · rw [if_pos hrefused]
      have hharmless : state.Harmless held sender id seqNum ↔
          source.contents = info.clipboard.contents := by
        constructor
        · exact fun h => h horder source hsource hrefused
        · intro h _ other hother _
          obtain rfl : source = other := Option.some.inj (hsource.symm.trans hother)
          exact h
      rw [hharmless]
      constructor
      · constructor
        · exact fun h => hcontents.symm.trans (h rfl).1
        · exact fun h _ => ⟨hcontents.trans h, rfl, rfl, rfl⟩
      · intro h
        exact hdata.trans (Clipboard.marshall_congr (hcontents.trans h).symm)
    · rw [if_neg hrefused]
      refine ⟨iff_of_true nofun fun _ other hother hother' => ?_, fun _ => hmarshall.symm⟩
      obtain rfl : source = other := Option.some.inj (hsource.symm.trans hother)
      exact absurd hother' hrefused

theorem refusalsKept_iff {updates : List ClipboardUpdate} (h : state.RefusalsKept)
    (hconsistent : (∀ update ∈ updates, Traceless update) → next.Consistent)
    (hupdates : next.updates = state.updates ++ updates) :
    next.RefusalsKept ↔ ∀ update ∈ updates, Traceless update := by
  rw [RefusalsKept, hupdates, List.forall_mem_append]
  exact ⟨fun hkept => hkept.2.2, fun htraceless => ⟨hconsistent htraceless, h.2, htraceless⟩⟩

theorem refusalsKept_changed (h : state.RefusalsKept) (hid : id < kClipboardEnd) :
    (state.handleClipboardChanged held client id seqNum).RefusalsKept ↔
      (client ∈ state.server.clientSet → state.Harmless held client id seqNum) := by
  rw [handleClipboardChanged]
  by_cases hclient : client ∈ state.server.clientSet
  · rw [if_neg (not_not.mpr hclient)]
    obtain ⟨htraceless, hdata⟩ := @updateOf_spec held state client id seqNum (h.1 id hid)
    have hconsistent (hupdates : ∀ update ∈ [state.updateOf held client id seqNum],
        Traceless update) : (state.onClipboardChanged held client id seqNum).Consistent := by
      intro other hother
      by_cases hsame : other = id
      · subst hsame
        rw [clipboards_onClipboardChanged, Function.update_self]
        exact hdata (htraceless.mp (List.forall_mem_singleton.mp hupdates))
      · rw [clipboards_onClipboardChanged_of_ne hsame]
        exact h.1 other hother
    rw [refusalsKept_iff h hconsistent updates_onClipboardChanged, List.forall_mem_singleton,
      htraceless]
    exact ⟨fun hharmless _ => hharmless, fun hharmless => hharmless hclient⟩
  · rw [if_pos hclient]
    exact iff_of_true h fun hmem => absurd hmem hclient

theorem refusalsKept_primaryUpdates {owned : Bool} (h : state.RefusalsKept)
    (hupdated : PrimaryUpdates setup held owned ids state next) :
    next.RefusalsKept ↔ ∀ id ∈ ids, state.Selected setup owned id →
      state.Harmless held setup.primaryClient id (state.clipboards id).seqNum := by
  have hspec (id : ClipboardID) (hid : id < kClipboardEnd) :=
    @updateOf_spec held state setup.primaryClient id (state.clipboards id).seqNum (h.1 id hid)
  have hmem (id : ClipboardID) :
      id ∈ ids.filter (state.Selected setup owned) ↔ id ∈ ids ∧ state.Selected setup owned id := by
    rw [List.mem_filter, decide_eq_true_iff]
  have hconsistent (hupdates : ∀ update ∈
      (ids.filter (state.Selected setup owned)).map (state.primaryUpdateOf setup held),
        Traceless update) : next.Consistent := by
    intro id hid
    by_cases hselected : state.Selected setup owned id
    · have hin := (hmem id).mpr ⟨mem_ids.mpr hid, hselected⟩
      rw [hupdated.selected id (mem_ids.mpr hid) hselected]
      exact (hspec id hid).2 ((hspec id hid).1.mp (hupdates _ (List.mem_map_of_mem hin)))
    · rw [hupdated.others id (.inr hselected)]
      exact h.1 id hid
  rw [refusalsKept_iff h hconsistent hupdated.updates, List.forall_mem_map]
  constructor
  · intro htraceless id hid hselected
    have hin := (hmem id).mpr ⟨hid, hselected⟩
    exact (hspec id (mem_ids.mp hid)).1.mp (htraceless id hin)
  · intro hharmless id hin
    obtain ⟨hid, hselected⟩ := (hmem id).mp hin
    exact (hspec id (mem_ids.mp hid)).1.mpr (hharmless id hid hselected)

theorem refusalsKept_grabClipboard {grabber : ClientProxy} (h : state.RefusalsKept) :
    (state.grabClipboard setup grabber id seqNum).RefusalsKept := by
  refine ⟨fun other hother => ?_, h.2⟩
  rw [clipboards_grabClipboard]
  by_cases hsame : other = id
  · subst hsame
    rw [Function.update_self]
    rfl
  · rw [Function.update_of_ne hsame]
    exact h.1 other hother

theorem refusalsKept_grabbed {grabber : ClientProxy} (h : state.RefusalsKept) :
    (state.handleClipboardGrabbed setup held grabber id seqNum).RefusalsKept ↔
      (state.Grabs setup grabber id seqNum → grabber = setup.primaryClient →
        state.server.active ≠ setup.primaryClient → ∀ other ∈ ids,
          (state.grabClipboard setup grabber id seqNum).Harmless held setup.primaryClient other
            ((state.grabClipboard setup grabber id seqNum).clipboards other).seqNum) := by
  by_cases hgrabs : state.Grabs setup grabber id seqNum
  swap
  · rw [handleClipboardGrabbed_of_not_grabs hgrabs]
    exact iff_of_true h fun hgrabs' => absurd hgrabs' hgrabs
  rw [handleClipboardGrabbed_of_grabs hgrabs]
  have hgrabbed : (state.grabClipboard setup grabber id seqNum).RefusalsKept :=
    refusalsKept_grabClipboard h
  by_cases hresend : grabber = setup.primaryClient ∧ state.server.active ≠ setup.primaryClient
  · have hnodup : ids.Nodup := by decide
    rw [if_pos hresend, refusalsKept_primaryUpdates hgrabbed (primaryUpdates_updatePrimary hnodup)]
    constructor
    · exact fun hall _ _ _ other hother => hall other hother nofun
    · exact fun hall other hother _ => hall hgrabs hresend.1 hresend.2 other hother
  · rw [if_neg hresend]
    refine iff_of_true hgrabbed fun _ hprimary hactive => ?_
    exact absurd ⟨hprimary, hactive⟩ hresend

theorem refusalsKept_switchScreen (h : state.RefusalsKept) {dst : ClientProxy} {x y : Int} :
    (state.switchScreen setup io held dst x y).RefusalsKept ↔
      (state.LeavesPrimary setup io dst → ∀ id ∈ ids, state.Selected setup true id →
        state.Harmless held setup.primaryClient id (state.clipboards id).seqNum) := by
  obtain ⟨middle, hleaves, hstays, hclipboards, hupdates, -⟩ :=
    @switchScreen_spec _ setup held state io dst x y
  have hmiddle : (state.switchScreen setup io held dst x y).RefusalsKept ↔ middle.RefusalsKept := by
    rw [RefusalsKept, RefusalsKept, Consistent, Consistent, hclipboards, hupdates]
  rw [hmiddle]
  by_cases hleft : state.LeavesPrimary setup io dst
  · rw [refusalsKept_primaryUpdates h (hleaves hleft)]
    exact ⟨fun hall _ => hall, fun hall => hall hleft⟩
  · rw [hstays hleft]
    exact iff_of_true h fun hleft' => absurd hleft' hleft

theorem refusalsKept_step (h : state.RefusalsKept) {call : ClipboardIo × ServerClipboardEvent}
    (hstep : (machine setup).step state call = some next) :
    next.RefusalsKept ↔ state.RefusesHarmless setup call := by
  obtain ⟨io, event⟩ := call
  cases event with
  | grabbed grabber id seqNum =>
    obtain rfl := Option.some.inj (Option.ite_none_right_eq_some.mp hstep).2
    exact refusalsKept_grabbed h
  | changed client id seqNum =>
    obtain ⟨hid, hnext⟩ := Option.ite_none_right_eq_some.mp hstep
    obtain rfl := Option.some.inj hnext
    exact refusalsKept_changed h hid
  | switchScreen dst x y =>
    obtain rfl := Option.some.inj (Option.ite_none_right_eq_some.mp hstep).2
    exact refusalsKept_switchScreen h
  | adoptClient client =>
    obtain rfl := Option.some.inj (Option.ite_none_left_eq_some.mp hstep).2
    exact iff_of_true h trivial
  | clientDisconnected client =>
    obtain rfl := Option.some.inj (Option.ite_none_right_eq_some.mp hstep).2
    exact iff_of_true h trivial
  | processOptions enableClipboard maximumClipboardSize =>
    obtain rfl := Option.some.inj hstep
    exact iff_of_true h trivial

theorem refusalsKept_start (hstart : (machine setup).start state) : state.RefusalsKept := by
  obtain ⟨server, -, -, rfl⟩ := hstart
  exact ⟨fun _ _ => rfl, nofun⟩

/-- **What refused updates leave.** In a run of any grabs, updates, switches and size limits, the
strings are those of the contents and every refused update leaves everything as it was, just when
every update that would be refused, other than a stale one, brings the contents that are there. -/
theorem refusalsKept_iff_harmless {first last : ServerClipboards}
    {calls : List (ClipboardIo × ServerClipboardEvent)} (hstart : (machine setup).start first)
    (hrun : (machine setup).exec first calls = some last) :
    (machine setup).Always RefusalsKept first calls ↔
      (machine setup).Along (RefusesHarmless setup) first calls := by
  apply Machine.always_iff_along_of_exec _ _ _ hrun (refusalsKept_start hstart)
  · exact fun _ hkept => hkept
  · exact fun _ _ _ hkept hharmless hstep => (refusalsKept_step hkept hstep).mpr hharmless
  · exact fun _ _ _ hkept hstep hnext => (refusalsKept_step hkept hstep).mp hnext

/-- The limit is nothing, and the server's own screen updates its clipboard. -/
def besideRefused : List (ClipboardIo × ServerClipboardEvent) :=
  [(besideIo, .processOptions true 0), (besideIo, .changed 0 0 0)]

/-- The refused contents are stored, beside the string of those before. -/
theorem refusals_not_kept :
    ∃ state, (machine Server.besideSetup).exec besideStart besideRefused = some state ∧
      ¬ state.Consistent ∧ ¬ ∀ update ∈ state.updates, Traceless update := by
  refine ⟨_, rfl, fun hconsistent => ?_, fun htraceless => ?_⟩
  · exact absurd (hconsistent 0 (by decide)) (by decide)
  · have hcontents := (htraceless _ (List.mem_singleton_self _) rfl).1
    have htext := congrFun hcontents IClipboard.Format.text
    exact absurd htext (by decide)

/-- The right screen grabs the clipboard and updates it. -/
theorem refusalsKept_iff_harmless_beside :
    let calls := besideGrab ++ [(besideIo, .changed 1 0 1), (besideIo, .changed 1 0 1)]
    (machine Server.besideSetup).Always RefusalsKept besideStart calls ↔
      (machine Server.besideSetup).Along (RefusesHarmless Server.besideSetup) besideStart calls :=
  refusalsKept_iff_harmless besideStart_start rfl

end ServerClipboards

end DeskflowPlus
