import DeskflowPlus.Server.ClientTable
import DeskflowPlus.Server.ServerClipboards

/-!
# Who owns a clipboard

An update is taken from any connected screen whose sequence number is not older than that of the
grab. That the sender owns the clipboard is asserted, not checked. An owner that disconnects stays
the owner by name. The condition below says which updates and which disconnects do no harm.
-/

namespace DeskflowPlus

namespace ClipboardInfo

variable {info : ClipboardInfo} {limit : Nat} {source : Option Clipboard} {seqNum : UInt32}

theorem update_of_stale (h : seqNum < info.seqNum) :
    info.update limit source seqNum = (info, false) :=
  if_pos h

theorem update_of_not_stale (h : ¬ seqNum < info.seqNum) :
    info.update limit source seqNum =
      if limit < (info.received source).marshall.1.length ∨
          (info.received source).marshall.1 = info.data then
        ({ info with clipboard := info.received source }, false)
      else
        ({ info with
            clipboard := info.received source
            data := (info.received source).marshall.1 }, true) := by
  have hupdate : info.update limit source seqNum =
      if limit < (info.received source).marshall.1.length then
        ({ info with clipboard := info.received source }, false)
      else if (info.received source).marshall.1 = info.data then
        ({ info with clipboard := info.received source }, false)
      else
        ({ info with
            clipboard := info.received source
            data := (info.received source).marshall.1 }, true) :=
    if_neg h
  rw [hupdate]
  by_cases hlarge : limit < (info.received source).marshall.1.length
  · rw [if_pos hlarge, if_pos (.inl hlarge)]
  · rw [if_neg hlarge]
    exact if_congr (or_iff_right hlarge).symm rfl rfl

theorem contents_received (source : Option Clipboard) :
    (info.received source).contents =
      match source with
      | some source => source.contents
      | none => info.clipboard.contents := by
  cases source with
  | none => rfl
  | some source => exact Clipboard.contents_copy _ _ _

@[simp]
theorem owner_update : (info.update limit source seqNum).1.owner = info.owner := by
  by_cases h : seqNum < info.seqNum
  · rw [update_of_stale h]
  · rw [update_of_not_stale h]
    split <;> rfl

theorem clipboard_update_of_not_stale (h : ¬ seqNum < info.seqNum) :
    (info.update limit source seqNum).1.clipboard = info.received source := by
  rw [update_of_not_stale h]
  split <;> rfl

end ClipboardInfo

namespace Server

variable {Fraction : Type} {setup : ServerSetup Fraction} {io : ServerIo} {server : Server}
  {client other : ClientProxy}

theorem mem_clientSet_handleClientDisconnected :
    other ∈ (server.handleClientDisconnected setup io client).clientSet ↔
      other ∈ server.clientSet ∧ other ≠ client := by
  unfold handleClientDisconnected removeActiveClient removeClient
  by_cases hclient : client ∈ server.clientSet
  · rw [if_neg (not_not.mpr hclient)]
    show other ∈ (Server.forceLeaveClient setup io client _).clientSet ↔ _
    rw [leaves_forceLeaveClient.clientSet, List.mem_filter]
    simp
  · rw [if_pos hclient]
    show other ∈ server.clientSet ↔ _
    refine ⟨fun h => ⟨h, ?_⟩, fun h => h.1⟩
    rintro rfl
    exact hclient h

theorem mem_clientSet_closeClient (hclient : client ∉ server.clientSet)
    (hother : other ∈ server.clientSet) :
    other ∈ (server.closeClient setup io client).clientSet := by
  unfold closeClient removeClient
  rw [if_pos hclient]
  dsimp only
  rw [leaves_forceLeaveClient.clientSet]
  exact hother

theorem mem_clientSet_adoptClient (hclient : client ∉ server.clientSet)
    (hother : other ∈ server.clientSet) :
    other ∈ (server.adoptClient setup io client).clientSet := by
  unfold adoptClient
  by_cases hunknown : (setup.canonicalName (setup.clientName client)).isNone = true
  · rw [if_pos hunknown]
    exact mem_clientSet_closeClient hclient hother
  · rw [if_neg hunknown, addClient]
    by_cases htaken : server.clients.any (·.1 = setup.getName client) = true
    · rw [if_pos htaken]
      exact mem_clientSet_closeClient hclient hother
    · rw [if_neg htaken]
      exact List.mem_cons_of_mem _ hother

end Server

namespace ServerClipboards

variable {Fraction : Type} {setup : ServerSetup Fraction} {io : ServerIo}
  {held : ClientProxy → ClipboardID → Option Clipboard} {state next : ServerClipboards}
  {sender client : ClientProxy} {id : ClipboardID} {seqNum : UInt32}

def Attributed (setup : ServerSetup Fraction) (update : ClipboardUpdate) : Prop :=
  update.later.clipboard.contents ≠ update.earlier.clipboard.contents →
    setup.getName update.sender = update.earlier.owner ∧ update.earlier.seqNum ≤ update.seqNum

def Owned (setup : ServerSetup Fraction) (state : ServerClipboards) : Prop :=
  ∀ id, id < kClipboardEnd → ∃ client ∈ state.server.clientSet,
    setup.getName client = (state.clipboards id).owner

def OwnershipKept (setup : ServerSetup Fraction) (state : ServerClipboards) : Prop :=
  state.Owned setup ∧ ∀ update ∈ state.updates, Attributed setup update

def Expected (setup : ServerSetup Fraction) (held : ClientProxy → ClipboardID → Option Clipboard)
    (state : ServerClipboards) (sender : ClientProxy) (id : ClipboardID) (seqNum : UInt32) : Prop :=
  (state.clipboards id).seqNum ≤ seqNum → ∀ source, held sender id = some source →
    source.contents ≠ (state.clipboards id).clipboard.contents →
      setup.getName sender = (state.clipboards id).owner

/-- What an event must not do. A grab by the server's own screen while the cursor is elsewhere
brings an update of every clipboard by that screen. -/
def Proper (setup : ServerSetup Fraction) (state : ServerClipboards)
    (call : ClipboardIo × ServerClipboardEvent) : Prop :=
  match call.2 with
  | .grabbed grabber id seqNum =>
    state.Grabs setup grabber id seqNum → grabber = setup.primaryClient →
      state.server.active ≠ setup.primaryClient → ∀ other ∈ ids, other ≠ id →
        state.Expected setup call.1.held setup.primaryClient other (state.clipboards other).seqNum
  | .changed client id seqNum =>
    client ∈ state.server.clientSet → state.Expected setup call.1.held client id seqNum
  | .clientDisconnected client =>
    client ∈ state.server.clientSet → ∀ id, id < kClipboardEnd →
      (state.clipboards id).owner ≠ setup.getName client
  | _ => True

theorem owner_later :
    (state.updateOf held sender id seqNum).later.owner = (state.clipboards id).owner :=
  ClipboardInfo.owner_update

theorem attributed_updateOf :
    Attributed setup (state.updateOf held sender id seqNum) ↔
      state.Expected setup held sender id seqNum := by
  let info := state.clipboards id
  show (((info.update state.limit (held sender id) seqNum).1.clipboard.contents ≠
    info.clipboard.contents → setup.getName sender = info.owner ∧ info.seqNum ≤ seqNum) ↔ _)
  by_cases hstale : seqNum < info.seqNum
  · rw [ClipboardInfo.update_of_stale hstale]
    exact iff_of_true (fun h => absurd rfl h) fun h => absurd h (UInt32.not_le.mpr hstale)
  · have horder : info.seqNum ≤ seqNum := UInt32.not_lt.mp hstale
    rw [ClipboardInfo.clipboard_update_of_not_stale hstale, ClipboardInfo.contents_received]
    cases hsource : held sender id with
    | none =>
      refine iff_of_true (fun h => absurd rfl h) fun _ source hsome => ?_
      rw [hsource] at hsome
      cases hsome
    | some source =>
      constructor
      · intro h _ other hother hchanged
        obtain rfl : source = other := Option.some.inj (hsource.symm.trans hother)
        exact (h hchanged).1
      · exact fun h hchanged => ⟨h horder source hsource hchanged, horder⟩

theorem mem_ids : id ∈ ids ↔ id < kClipboardEnd := by
  rw [ids, List.mem_cons, List.mem_singleton, ← UInt8.toNat_inj, ← UInt8.toNat_inj,
    UInt8.lt_iff_toNat_lt]
  show id.toNat = 0 ∨ id.toNat = 1 ↔ id.toNat < 2
  omega

theorem Owned.of_owners (h : state.Owned setup)
    (hset : ∀ client ∈ state.server.clientSet, client ∈ next.server.clientSet)
    (howner : ∀ id, id < kClipboardEnd →
      (next.clipboards id).owner = (state.clipboards id).owner) : next.Owned setup := by
  intro id hid
  obtain ⟨client, hclient, hname⟩ := h id hid
  exact ⟨client, hset client hclient, hname.trans (howner id hid).symm⟩

theorem PrimaryUpdates.owner {owned : Bool}
    (h : PrimaryUpdates setup held owned ids state next) (hid : id < kClipboardEnd) :
    (next.clipboards id).owner = (state.clipboards id).owner := by
  by_cases hselected : state.Selected setup owned id
  · rw [h.selected id (mem_ids.mpr hid) hselected]
    exact owner_later
  · rw [h.others id (.inr hselected)]

/-- What holds between two events of a proper run. -/
structure OwnershipInv (setup : ServerSetup Fraction) (state : ServerClipboards) : Prop where
  kept : state.OwnershipKept setup
  table : Server.TableConsistent setup state.server
  primary : setup.primaryClient ∈ state.server.clientSet

theorem ownershipKept_iff {updates : List ClipboardUpdate} (h : state.OwnershipKept setup)
    (howned : next.Owned setup) (hupdates : next.updates = state.updates ++ updates) :
    next.OwnershipKept setup ↔ ∀ update ∈ updates, Attributed setup update := by
  rw [OwnershipKept, and_iff_right howned, hupdates, List.forall_mem_append]
  exact and_iff_right h.2

theorem ownershipKept_changed (h : state.OwnershipKept setup) :
    (state.handleClipboardChanged held client id seqNum).OwnershipKept setup ↔
      (client ∈ state.server.clientSet → state.Expected setup held client id seqNum) := by
  rw [handleClipboardChanged]
  by_cases hclient : client ∈ state.server.clientSet
  · rw [if_neg (not_not.mpr hclient)]
    have howned : (state.onClipboardChanged held client id seqNum).Owned setup := by
      refine h.1.of_owners ?_ fun other _ => ?_
      · exact fun _ hmem => hmem
      by_cases hother : other = id
      · subst hother
        rw [clipboards_onClipboardChanged, Function.update_self]
        exact owner_later
      · rw [clipboards_onClipboardChanged_of_ne hother]
    rw [ownershipKept_iff h howned updates_onClipboardChanged, List.forall_mem_singleton,
      attributed_updateOf]
    exact ⟨fun hexpected _ => hexpected, fun hexpected => hexpected hclient⟩
  · rw [if_pos hclient]
    exact iff_of_true h fun hmem => absurd hmem hclient

theorem owned_grabClipboard {grabber : ClientProxy} (h : state.Owned setup)
    (hgrabber : grabber ∈ state.server.clientSet) :
    (state.grabClipboard setup grabber id seqNum).Owned setup := by
  intro other hother
  by_cases hsame : other = id
  · subst hsame
    refine ⟨grabber, hgrabber, ?_⟩
    rw [clipboards_grabClipboard, Function.update_self]
    rfl
  · obtain ⟨owner, howner, hname⟩ := h other hother
    refine ⟨owner, howner, hname.trans ?_⟩
    rw [clipboards_grabClipboard, Function.update_of_ne hsame]

theorem forall_expected_grabClipboard :
    (∀ other ∈ ids, (state.grabClipboard setup setup.primaryClient id seqNum).Expected setup held
        setup.primaryClient other
        ((state.grabClipboard setup setup.primaryClient id seqNum).clipboards other).seqNum) ↔
      ∀ other ∈ ids, other ≠ id →
        state.Expected setup held setup.primaryClient other (state.clipboards other).seqNum := by
  apply forall₂_congr
  intro other _
  rw [Expected, Expected, clipboards_grabClipboard]
  by_cases hsame : other = id
  · subst hsame
    rw [Function.update_self]
    exact iff_of_true (fun _ _ _ _ => rfl) fun hne => absurd rfl hne
  · rw [Function.update_of_ne hsame]
    exact ⟨fun hexpected _ => hexpected, fun hexpected => hexpected hsame⟩

theorem ownershipKept_grabbed {grabber : ClientProxy} (h : state.OwnershipKept setup) :
    (state.handleClipboardGrabbed setup held grabber id seqNum).OwnershipKept setup ↔
      (state.Grabs setup grabber id seqNum → grabber = setup.primaryClient →
        state.server.active ≠ setup.primaryClient → ∀ other ∈ ids, other ≠ id →
          state.Expected setup held setup.primaryClient other (state.clipboards other).seqNum) := by
  by_cases hgrabs : state.Grabs setup grabber id seqNum
  swap
  · rw [handleClipboardGrabbed_of_not_grabs hgrabs]
    exact iff_of_true h fun hgrabs' => absurd hgrabs' hgrabs
  rw [handleClipboardGrabbed_of_grabs hgrabs, forall_prop_of_true hgrabs]
  have howned : (state.grabClipboard setup grabber id seqNum).Owned setup :=
    owned_grabClipboard h.1 hgrabs.2.2.1
  by_cases hresend : grabber = setup.primaryClient ∧ state.server.active ≠ setup.primaryClient
  · obtain ⟨rfl, hactive⟩ := hresend
    rw [if_pos ⟨rfl, hactive⟩, forall_prop_of_true rfl, forall_prop_of_true hactive,
      ← forall_expected_grabClipboard]
    have hnodup : ids.Nodup := by decide
    have hupdated :=
      @primaryUpdates_updatePrimary _ setup held
        (state.grabClipboard setup setup.primaryClient id seqNum) false ids hnodup
    have hall : ids.filter ((state.grabClipboard setup setup.primaryClient id seqNum).Selected setup
        false) = ids := by
      apply List.filter_eq_self.mpr
      intro other _
      exact decide_eq_true nofun
    have hnext := hupdated.updates
    rw [hall] at hnext
    have howners := howned.of_owners (fun _ hmem => hupdated.server ▸ hmem) fun _ hid =>
      hupdated.owner hid
    rw [ownershipKept_iff ⟨howned, h.2⟩ howners hnext, List.forall_mem_map]
    exact forall₂_congr fun _ _ => attributed_updateOf
  · rw [if_neg hresend]
    refine iff_of_true ⟨howned, h.2⟩ fun hprimary hactive => ?_
    exact absurd ⟨hprimary, hactive⟩ hresend

theorem ownershipKept_switchScreen (h : state.OwnershipKept setup) {dst : ClientProxy} {x y : Int}
    (hdst : dst ∈ state.server.clientSet) :
    (state.switchScreen setup io held dst x y).OwnershipKept setup := by
  obtain ⟨middle, hleaves, hstays, hclipboards, hupdates, hserver⟩ :=
    @switchScreen_spec _ setup held state io dst x y
  have hset : (state.switchScreen setup io held dst x y).server.clientSet =
      state.server.clientSet := by
    rw [hserver]
    exact (Server.steers_switchScreen hdst).clientSet
  have hmiddle : middle.OwnershipKept setup := by
    by_cases hleft : state.LeavesPrimary setup io dst
    · have hupdated := hleaves hleft
      have howned := h.1.of_owners (fun _ hmem => hupdated.server ▸ hmem) fun _ hid =>
        hupdated.owner hid
      rw [ownershipKept_iff h howned hupdated.updates, List.forall_mem_map]
      intro id hid
      have hselected : state.Selected setup true id := by simpa using (List.mem_filter.mp hid).2
      exact attributed_updateOf.mpr fun _ _ _ _ => (hselected rfl).symm
    · rw [hstays hleft]
      exact h
  have hmiddleset : middle.server.clientSet = state.server.clientSet := by
    by_cases hleft : state.LeavesPrimary setup io dst
    · rw [(hleaves hleft).server]
    · rw [hstays hleft]
  refine ⟨hmiddle.1.of_owners (fun client hclient => ?_) fun id _ => by rw [hclipboards], ?_⟩
  · rw [hset, ← hmiddleset]
    exact hclient
  · rw [hupdates]
    exact hmiddle.2

theorem ownershipKept_disconnected (hinv : state.OwnershipInv setup) (io : ServerIo)
    (client : ClientProxy) :
    { state with server := state.server.handleClientDisconnected setup io client :
        ServerClipboards }.OwnershipKept setup ↔
      (client ∈ state.server.clientSet → ∀ id, id < kClipboardEnd →
        (state.clipboards id).owner ≠ setup.getName client) := by
  constructor
  · rintro ⟨howned, -⟩ hclient id hid hname
    obtain ⟨owner, howner, hsame⟩ := howned id hid
    obtain ⟨hconnected, hne⟩ := Server.mem_clientSet_handleClientDisconnected.mp howner
    exact hne (hinv.table.eq_of_getName hconnected hclient (hsame.trans hname))
  · intro hstays
    refine ⟨fun id hid => ?_, hinv.kept.2⟩
    obtain ⟨owner, howner, hname⟩ := hinv.kept.1 id hid
    refine ⟨owner, Server.mem_clientSet_handleClientDisconnected.mpr ⟨howner, ?_⟩, hname⟩
    rintro rfl
    exact hstays howner id hid hname.symm

theorem ownershipKept_step (hinv : state.OwnershipInv setup)
    {call : ClipboardIo × ServerClipboardEvent}
    (hstep : (machine setup).step state call = some next) :
    next.OwnershipKept setup ↔ state.Proper setup call := by
  obtain ⟨io, event⟩ := call
  cases event with
  | grabbed grabber id seqNum =>
    obtain rfl := Option.some.inj (Option.ite_none_right_eq_some.mp hstep).2
    exact ownershipKept_grabbed hinv.kept
  | changed client id seqNum =>
    obtain rfl := Option.some.inj (Option.ite_none_right_eq_some.mp hstep).2
    exact ownershipKept_changed hinv.kept
  | switchScreen dst x y =>
    obtain ⟨hdst, hnext⟩ := Option.ite_none_right_eq_some.mp hstep
    obtain rfl := Option.some.inj hnext
    exact iff_of_true (ownershipKept_switchScreen hinv.kept hdst) trivial
  | adoptClient client =>
    obtain ⟨hnew, hnext⟩ := Option.ite_none_left_eq_some.mp hstep
    obtain rfl := Option.some.inj hnext
    have hclient : client ∉ state.server.clientSet := fun hmem => hnew (.inl hmem)
    refine iff_of_true ⟨hinv.kept.1.of_owners ?_ fun _ _ => rfl, hinv.kept.2⟩ trivial
    exact fun _ hmem => Server.mem_clientSet_adoptClient hclient hmem
  | clientDisconnected client =>
    obtain rfl := Option.some.inj (Option.ite_none_right_eq_some.mp hstep).2
    exact ownershipKept_disconnected hinv io.toServerIo client
  | processOptions enableClipboard maximumClipboardSize =>
    obtain rfl := Option.some.inj hstep
    exact iff_of_true hinv.kept trivial

theorem server_handleClipboardGrabbed {grabber : ClientProxy} :
    (state.handleClipboardGrabbed setup held grabber id seqNum).server = state.server := by
  by_cases hgrabs : state.Grabs setup grabber id seqNum
  swap
  · rw [handleClipboardGrabbed_of_not_grabs hgrabs]
  rw [handleClipboardGrabbed_of_grabs hgrabs]
  split
  · have hnodup : ids.Nodup := by decide
    exact (primaryUpdates_updatePrimary hnodup).server
  · rfl

theorem server_handleClipboardChanged :
    (state.handleClipboardChanged held client id seqNum).server = state.server := by
  rw [handleClipboardChanged]
  split <;> rfl

theorem OwnershipInv.screens (hinv : state.OwnershipInv setup)
    {call : ClipboardIo × ServerClipboardEvent}
    (hstep : (machine setup).step state call = some next) :
    Server.TableConsistent setup next.server ∧ setup.primaryClient ∈ next.server.clientSet := by
  obtain ⟨io, event⟩ := call
  cases event with
  | grabbed grabber id seqNum =>
    obtain rfl := Option.some.inj (Option.ite_none_right_eq_some.mp hstep).2
    rw [server_handleClipboardGrabbed]
    exact ⟨hinv.table, hinv.primary⟩
  | changed client id seqNum =>
    obtain rfl := Option.some.inj (Option.ite_none_right_eq_some.mp hstep).2
    rw [server_handleClipboardChanged]
    exact ⟨hinv.table, hinv.primary⟩
  | switchScreen dst x y =>
    obtain ⟨hdst, hnext⟩ := Option.ite_none_right_eq_some.mp hstep
    obtain rfl := Option.some.inj hnext
    obtain ⟨_, -, -, -, -, hserver⟩ :=
      @switchScreen_spec _ setup io.held state io.toServerIo dst x y
    have hsteers := @Server.steers_switchScreen
      { io.toServerIo with leaves := state.leaves setup io.toServerIo } state.server dst x y hdst
    rw [hserver]
    exact ⟨hinv.table.of_same hsteers.clientSet hsteers.clients,
      hsteers.clientSet ▸ hinv.primary⟩
  | adoptClient client =>
    obtain ⟨hnew, hnext⟩ := Option.ite_none_left_eq_some.mp hstep
    obtain rfl := Option.some.inj hnext
    have hclient : client ∉ state.server.clientSet := fun hmem => hnew (.inl hmem)
    exact ⟨hinv.table.adoptClient hclient,
      Server.mem_clientSet_adoptClient hclient hinv.primary⟩
  | clientDisconnected client =>
    obtain ⟨⟨hclient, -⟩, hnext⟩ := Option.ite_none_right_eq_some.mp hstep
    obtain rfl := Option.some.inj hnext
    refine ⟨hinv.table.handleClientDisconnected, ?_⟩
    exact Server.mem_clientSet_handleClientDisconnected.mpr ⟨hinv.primary, hclient.symm⟩
  | processOptions enableClipboard maximumClipboardSize =>
    obtain rfl := Option.some.inj hstep
    exact ⟨hinv.table, hinv.primary⟩

theorem ownershipInv_start (hstart : (machine setup).start state) :
    state.OwnershipInv setup := by
  obtain ⟨server, hset, hclients, rfl⟩ := hstart
  have hprimary : setup.primaryClient ∈ server.clientSet := by
    rw [hset]
    exact List.mem_singleton_self _
  refine ⟨⟨fun _ _ => ⟨setup.primaryClient, hprimary, rfl⟩, nofun⟩, ?_, hprimary⟩
  refine ⟨fun name client => ?_, ?_⟩
  · show (name, client) ∈ server.clients ↔ client ∈ server.clientSet ∧ _
    rw [hset, hclients, List.mem_singleton, List.mem_singleton, Prod.mk.injEq]
    constructor
    · rintro ⟨rfl, rfl⟩
      exact ⟨rfl, rfl⟩
    · rintro ⟨rfl, rfl⟩
      exact ⟨rfl, rfl⟩
  · show (server.clients.map (·.1)).Nodup
    rw [hclients]
    exact List.nodup_singleton _

/-- **Who owns a clipboard.** In a run of any grabs, updates, switches, connects and disconnects the
owners are connected, and contents change by updates of the owner only that are not older than the
grab, just when every event is proper: no owner disconnects, and other contents that would be taken
come from the owner. -/
theorem ownershipKept_iff_proper {first last : ServerClipboards}
    {calls : List (ClipboardIo × ServerClipboardEvent)} (hstart : (machine setup).start first)
    (hrun : (machine setup).exec first calls = some last) :
    (machine setup).Always (OwnershipKept setup) first calls ↔
      (machine setup).Along (Proper setup) first calls := by
  apply Machine.always_iff_along_of_exec _ _ _ hrun (ownershipInv_start hstart)
  · exact fun _ hinv => hinv.kept
  · intro state call next hinv hproper hstep
    obtain ⟨htable, hprimary⟩ := hinv.screens hstep
    exact ⟨(ownershipKept_step hinv hstep).mpr hproper, htable, hprimary⟩
  · exact fun _ _ _ hinv hstep hkept => (ownershipKept_step hinv hstep).mp hkept

def besideStart : ServerClipboards :=
  { server := Server.besideStart
    clipboards := fun _ => { data := ({} : Clipboard).marshall.1, owner := "left" } }

theorem besideStart_start : (machine Server.besideSetup).start besideStart :=
  ⟨Server.besideStart, rfl, rfl, rfl⟩

def besideIo : ClipboardIo :=
  { Server.besideIo with
    held := fun _ _ =>
      some { added := fun format => format = .text, data := fun _ => [72, 105] } }

def besideGrab : List (ClipboardIo × ServerClipboardEvent) :=
  [(besideIo, .adoptClient 1), (besideIo, .grabbed 1 0 1)]

/-- The owner disconnects; or the other screen updates the clipboard, which it does not own. -/
theorem ownership_not_kept :
    (∃ state, (machine Server.besideSetup).exec besideStart
        (besideGrab ++ [(besideIo, .clientDisconnected 1)]) = some state ∧
      ¬ state.Owned Server.besideSetup) ∧
      ∃ state, (machine Server.besideSetup).exec besideStart
          (besideGrab ++ [(besideIo, .changed 0 0 1)]) = some state ∧
        ¬ ∀ update ∈ state.updates, Attributed Server.besideSetup update := by
  constructor
  · refine ⟨_, rfl, fun howned => ?_⟩
    obtain ⟨client, hclient, hname⟩ := howned 0 (by decide)
    obtain rfl : client = 0 := List.mem_singleton.mp hclient
    exact absurd hname (by decide)
  · refine ⟨_, rfl, fun hattributed => ?_⟩
    have hupdate := hattributed _ (List.mem_singleton_self _)
    refine absurd (hupdate fun hsame => ?_).1 (by decide)
    have htext := congrFun hsame IClipboard.Format.text
    exact absurd htext (by decide)

/-- The owner updates what it has grabbed, and the cursor goes to its screen. -/
theorem ownershipKept_iff_proper_beside :
    let calls := besideGrab ++ [(besideIo, .changed 1 0 1), (besideIo, .switchScreen 1 5 5)]
    (machine Server.besideSetup).Always (OwnershipKept Server.besideSetup) besideStart calls ↔
      (machine Server.besideSetup).Along (Proper Server.besideSetup) besideStart calls :=
  ownershipKept_iff_proper besideStart_start rfl

end ServerClipboards

end DeskflowPlus
