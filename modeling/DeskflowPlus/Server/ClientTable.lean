import DeskflowPlus.Server.LiveClients
import DeskflowPlus.Server.ReloadOptions

/-!
# The table of clients

The table knows a client by its canonical name at the time when it was adopted. It forgets a client by
the name under the present configuration, which a reload has replaced before it closes the clients that
are gone. Reloads that rename no connected client keep the table and the set of clients in step.
-/

namespace DeskflowPlus

namespace Server

variable {Fraction : Type} {setup other : ServerSetup Fraction} {io : ServerIo}
  {server later : Server} {client : ClientProxy}

structure TableConsistent (setup : ServerSetup Fraction) (server : Server) : Prop where
  entry_iff : ∀ name client, (name, client) ∈ server.clients ↔
    client ∈ server.clientSet ∧ name = setup.getName client
  nodup : (server.clients.map (·.1)).Nodup

theorem insertClient_perm {name : String} {clients : List (String × ClientProxy)} :
    (insertClient name client clients).Perm ((name, client) :: clients) := by
  induction clients with
  | nil => rfl
  | cons head rest ih =>
    unfold insertClient
    split
    · rfl
    · exact (ih.cons head).trans (List.Perm.swap ..)

namespace TableConsistent

theorem of_same (h : TableConsistent setup server) (hset : later.clientSet = server.clientSet)
    (hclients : later.clients = server.clients) : TableConsistent setup later := by
  refine ⟨fun name client => ?_, ?_⟩
  · rw [hset, hclients]
    exact h.entry_iff name client
  · rw [hclients]
    exact h.nodup

theorem of_names (h : TableConsistent setup server)
    (hnames : ∀ client ∈ server.clientSet, other.getName client = setup.getName client) :
    TableConsistent other server := by
  refine ⟨fun name client => ?_, h.nodup⟩
  rw [h.entry_iff]
  exact and_congr_right fun hclient => by rw [hnames client hclient]

theorem eq_of_getName (h : TableConsistent setup server) {first second : ClientProxy}
    (hfirst : first ∈ server.clientSet) (hsecond : second ∈ server.clientSet)
    (hname : setup.getName first = setup.getName second) : first = second := by
  have hentry : (setup.getName first, first) ∈ server.clients :=
    (h.entry_iff _ _).mpr ⟨hfirst, rfl⟩
  have hother : (setup.getName first, second) ∈ server.clients :=
    (h.entry_iff _ _).mpr ⟨hsecond, hname⟩
  exact congrArg Prod.snd (List.inj_on_of_nodup_map h.nodup hentry hother rfl)

theorem removeClient (h : TableConsistent setup server) :
    TableConsistent setup (server.removeClient setup client).2 := by
  unfold Server.removeClient
  by_cases hclient : client ∈ server.clientSet
  swap
  · rw [if_pos hclient]
    exact h
  rw [if_neg (not_not.mpr hclient)]
  refine ⟨fun name other => ?_, ?_⟩
  · simp only [List.mem_filter, h.entry_iff, decide_eq_true_eq, ne_eq]
    constructor
    · rintro ⟨⟨hother, rfl⟩, hname⟩
      exact ⟨⟨hother, fun hsame => hname (congrArg setup.getName hsame)⟩, rfl⟩
    · rintro ⟨⟨hother, hne⟩, rfl⟩
      exact ⟨⟨hother, rfl⟩, fun hname => hne (h.eq_of_getName hother hclient hname)⟩
  · exact h.nodup.sublist (List.filter_sublist.map _)

theorem forceLeaveClient (h : TableConsistent setup server) :
    TableConsistent setup (server.forceLeaveClient setup io client) :=
  h.of_same leaves_forceLeaveClient.clientSet leaves_forceLeaveClient.clients

theorem closeClient (h : TableConsistent setup server) :
    TableConsistent setup (server.closeClient setup io client) := by
  unfold Server.closeClient
  have hremoved : TableConsistent setup (server.removeClient setup client).2 := h.removeClient
  generalize server.removeClient setup client = removed at hremoved ⊢
  obtain ⟨found, removed⟩ := removed
  apply forceLeaveClient
  exact hremoved.of_same rfl rfl

theorem addClient (h : TableConsistent setup server) (hclient : client ∉ server.clientSet) :
    TableConsistent setup (server.addClient setup io client).2 := by
  unfold Server.addClient
  extract_lets name
  split_ifs with htaken
  · exact h
  refine ⟨fun other candidate => ?_, ?_⟩
  · simp only [insertClient_perm.mem_iff, List.mem_cons, Prod.mk.injEq, h.entry_iff]
    constructor
    · rintro (⟨rfl, rfl⟩ | ⟨hmem, rfl⟩)
      · exact ⟨.inl rfl, rfl⟩
      · exact ⟨.inr hmem, rfl⟩
    · rintro ⟨rfl | hmem, rfl⟩
      · exact .inl ⟨rfl, rfl⟩
      · exact .inr ⟨hmem, rfl⟩
  · apply (insertClient_perm.map _).nodup_iff.mpr
    refine List.nodup_cons.mpr ⟨fun hname => ?_, h.nodup⟩
    obtain ⟨entry, hentry, hsame⟩ := List.mem_map.mp hname
    exact htaken (List.any_eq_true.mpr ⟨entry, hentry, decide_eq_true hsame⟩)

theorem adoptClient (h : TableConsistent setup server) (hclient : client ∉ server.clientSet) :
    TableConsistent setup (server.adoptClient setup io client) := by
  unfold Server.adoptClient
  split_ifs
  · exact h.closeClient
  have hadded : TableConsistent setup (server.addClient setup io client).2 := h.addClient hclient
  generalize server.addClient setup io client = added at hadded ⊢
  obtain ⟨_ | _, added⟩ := added
  · exact hadded.closeClient
  · exact hadded

theorem handleClientDisconnected (h : TableConsistent setup server) :
    TableConsistent setup (server.handleClientDisconnected setup io client) := by
  unfold Server.handleClientDisconnected removeActiveClient
  have hremoved : TableConsistent setup (server.removeClient setup client).2 := h.removeClient
  generalize server.removeClient setup client = removed at hremoved ⊢
  obtain ⟨_ | _, removed⟩ := removed
  · exact hremoved.of_same rfl rfl
  · exact hremoved.forceLeaveClient.of_same rfl rfl

end TableConsistent

end Server

namespace ConfiguredServer

variable {Fraction : Type} {site : ServerSite Fraction} {io : ServerIo}
  {configured next : ConfiguredServer Fraction} {config : Config Fraction}

def Consistent (site : ServerSite Fraction) (configured : ConfiguredServer Fraction) : Prop :=
  configured.server.TableConsistent (configured.setup site)

theorem clients_of_foldlM {entries : List (OptionID × OptionValue)} {options : ServerOptions}
    {server : Server} {state : ServerOptions × Server}
    (h : entries.foldlM ServerOptions.processOption (options, server) = some state) :
    state.2.clientSet = server.clientSet ∧ state.2.clients = server.clients := by
  induction entries generalizing options server with
  | nil =>
    obtain rfl := Option.some.inj h
    exact ⟨rfl, rfl⟩
  | cons option entries ih =>
    rw [List.foldlM_cons] at h
    obtain ⟨⟨middle, between⟩, hoption, hentries⟩ := Option.bind_eq_some_iff.mp h
    obtain ⟨hset, hclients⟩ := ih hentries
    obtain ⟨-, rfl | rfl | rfl⟩ := ServerOptions.processOption_cases hoption <;>
      exact ⟨hset, hclients⟩

theorem consistent_processOptions (h : configured.Consistent site)
    (hnext : configured.processOptions site io = some next) : next.Consistent site := by
  obtain ⟨⟨options, server⟩, hoptions, rfl⟩ := Option.map_eq_some_iff.mp hnext
  obtain ⟨hset, hclients⟩ := clients_of_foldlM hoptions
  have hserver : server.TableConsistent (configured.setup site) := h.of_same hset hclients
  unfold Consistent
  dsimp only
  refine @Server.TableConsistent.of_names _ (configured.setup site) _ _ ?_ fun client _ => rfl
  split_ifs
  · exact hserver.of_same Server.steers_stopRelativeMoves.clientSet
      Server.steers_stopRelativeMoves.clients
  · exact hserver

theorem consistent_closeClients (h : configured.Consistent site) :
    (configured.closeClients site io config).Consistent site := by
  unfold closeClients Consistent
  dsimp only
  generalize configured.removedClients site config = removed
  have hfold (server : Server) (hserver : server.TableConsistent (configured.setup site)) :
      (removed.foldl (fun server client => server.closeClient (configured.setup site) io client)
        server).TableConsistent (configured.setup site) := by
    induction removed generalizing server with
    | nil => exact hserver
    | cons client removed ih => exact ih _ hserver.closeClient
  exact hfold configured.server h

theorem consistent_reloadConfig (h : configured.Consistent site)
    (hnames : ∀ client ∈ configured.server.clientSet,
      (site.setup config configured.options).getName client =
        (configured.setup site).getName client)
    (hnext : configured.reloadConfig site io config = some next) : next.Consistent site := by
  obtain ⟨⟨accepted, next⟩, hset, rfl⟩ := Option.map_eq_some_iff.mp hnext
  have hreplaced : Consistent site { configured with config } := h.of_names hnames
  unfold setConfig at hset
  split_ifs at hset
  · obtain ⟨processed, hprocessed, hpair⟩ := Option.map_eq_some_iff.mp hset
    obtain rfl : processed = next := (Prod.mk.inj hpair).2
    exact consistent_processOptions (consistent_closeClients hreplaced) hprocessed
  · obtain rfl : ({ configured with config } : ConfiguredServer Fraction) = next :=
      (Prod.mk.inj (Option.some.inj hset)).2
    exact hreplaced

end ConfiguredServer

inductive TableEvent (Fraction : Type) where
  | adoptClient (client : ClientProxy)
  | clientDisconnected (client : ClientProxy)
  | clientCloseTimeout (client : ClientProxy)
  | reloadConfig (config : Config Fraction)

namespace ConfiguredServer

variable {Fraction : Type} {site : ServerSite Fraction} {configured next : ConfiguredServer Fraction}

/-- The server from its construction on, when the primary screen is the one client. A proxy is new when
it is adopted, only one that is there disconnects, and a reload may throw. -/
def machine (site : ServerSite Fraction) :
    Machine (ConfiguredServer Fraction) (ServerIo × TableEvent Fraction) where
  start configured := ∃ config options x y lockedToScreen jumpCursorPos, configured =
    { config, options
      server :=
        { clientSet := [site.primaryClient]
          clients := [((site.setup config options).getName site.primaryClient, site.primaryClient)]
          active := site.primaryClient, x, y, lockedToScreen, jumpCursorPos } }
  step configured call :=
    let (io, event) := call
    let server := configured.server
    let setup := configured.setup site
    match event with
    | .adoptClient client =>
      if server.Live client then none
      else some { configured with server := server.adoptClient setup io client }
    | .clientDisconnected client =>
      if client ≠ site.primaryClient ∧ server.Live client then
        some { configured with server := server.handleClientDisconnected setup io client }
      else none
    | .clientCloseTimeout client =>
      if client ∈ server.oldClients then
        some { configured with server := server.handleClientCloseTimeout client }
      else none
    | .reloadConfig config => configured.reloadConfig site io config

def KeepsNames (site : ServerSite Fraction) (configured : ConfiguredServer Fraction) :
    ServerIo × TableEvent Fraction → Prop
  | (_, .reloadConfig config) =>
    ∀ client ∈ configured.server.clientSet,
      (site.setup config configured.options).getName client = (configured.setup site).getName client
  | _ => True

theorem consistent_step {call : ServerIo × TableEvent Fraction} (h : configured.Consistent site)
    (hnames : KeepsNames site configured call)
    (hstep : (machine site).step configured call = some next) : next.Consistent site := by
  obtain ⟨io, event⟩ := call
  cases event with
  | adoptClient client =>
    dsimp only [machine] at hstep
    split_ifs at hstep with hlive
    obtain rfl := Option.some.inj hstep
    exact h.adoptClient fun hclient => hlive (.inl hclient)
  | clientDisconnected client =>
    dsimp only [machine] at hstep
    split_ifs at hstep
    obtain rfl := Option.some.inj hstep
    exact h.handleClientDisconnected
  | clientCloseTimeout client =>
    dsimp only [machine] at hstep
    split_ifs at hstep
    obtain rfl := Option.some.inj hstep
    exact h.of_same rfl rfl
  | reloadConfig config => exact consistent_reloadConfig h hnames hstep

/-- **The client table.** While no reload renames a connected client, the table takes the present
canonical names of the connected clients to them, one to one. -/
theorem table_consistent (h : (machine site).Reachable (KeepsNames site) configured) :
    configured.server.TableConsistent (configured.setup site) := by
  refine @Machine.Reachable.invariant _ _ _ _ (Consistent site) (fun first hfirst => ?_)
    (fun _ _ _ hlast hnames hstep => consistent_step hlast hnames hstep) _ h
  obtain ⟨config, options, x, y, lockedToScreen, jumpCursorPos, rfl⟩ := hfirst
  refine ⟨fun name client => ?_, List.nodup_singleton _⟩
  simp only [List.mem_singleton, Prod.mk.injEq]
  constructor
  · rintro ⟨rfl, rfl⟩
    exact ⟨rfl, rfl⟩
  · rintro ⟨rfl, rfl⟩
    exact ⟨rfl, rfl⟩

def laptopSite : ServerSite (Fin (2 ^ 20)) where
  float := fixedPoint
  primaryClient := 0
  clientName client := if client = 0 then "desk" else "laptop"

def laptopConfig : Config (Fin (2 ^ 20)) where
  map := [("desk", {}), ("laptop", {})]
  nameToCanonicalName := [("desk", "desk"), ("laptop", "laptop")]

def workConfig : Config (Fin (2 ^ 20)) where
  map := [("desk", {}), ("work", {})]
  nameToCanonicalName := [("desk", "desk"), ("laptop", "work"), ("work", "work")]

def deskConfig : Config (Fin (2 ^ 20)) where
  map := [("desk", {})]
  nameToCanonicalName := [("desk", "desk")]

def laptopIo : ServerIo where
  shape _ := ⟨0, 0, 100, 100⟩

def laptopStart (config : Config (Fin (2 ^ 20))) : ConfiguredServer (Fin (2 ^ 20)) where
  config
  server := { clientSet := [0], clients := [("desk", 0)], active := 0, x := 50, y := 50 }

/-- The laptop connects, and is dropped from the configuration. -/
theorem table_consistent_dropped :
    ∃ configured, (machine laptopSite).exec (laptopStart laptopConfig)
        [(laptopIo, .adoptClient 1), (laptopIo, .reloadConfig deskConfig)] = some configured ∧
      configured.server.clientSet = [0] ∧
        configured.server.TableConsistent (configured.setup laptopSite) := by
  obtain ⟨configured, hconfigured⟩ : ∃ configured, (machine laptopSite).exec
      (laptopStart laptopConfig) ([(laptopIo, .adoptClient 1)] ++
        [(laptopIo, .reloadConfig deskConfig)]) = some configured := ⟨_, rfl⟩
  obtain ⟨adopted, hadopted, hreload⟩ := Machine.exec_concat hconfigured
  have hstart : (machine laptopSite).start (laptopStart laptopConfig) :=
    ⟨laptopConfig, {}, 50, 50, false, fun _ => (0, 0), rfl⟩
  have hrun : (machine laptopSite).Run (KeepsNames laptopSite) (laptopStart laptopConfig) adopted := by
    refine Machine.run_of_exec_of_allowed (fun state call hcall => ?_) hadopted
    obtain rfl := List.mem_singleton.mp hcall
    trivial
  have hnames : KeepsNames laptopSite adopted (laptopIo, .reloadConfig deskConfig) := by
    obtain rfl := Option.some.inj hadopted
    intro client hclient
    rcases List.mem_cons.mp hclient with rfl | hclient
    · rfl
    · obtain rfl := List.mem_singleton.mp hclient
      rfl
  have hconsistent := table_consistent ⟨_, hstart, hrun.tail hnames hreload⟩
  refine ⟨configured, hconfigured, ?_, hconsistent⟩
  obtain rfl := Option.some.inj hconfigured
  rfl

/-- An alias becomes a screen of its own: its client is closed, and the entry stays. -/
theorem renamed_client_stays :
    ¬ ∀ configured, (machine laptopSite).Reachable (fun _ _ => True) configured →
      configured.server.TableConsistent (configured.setup laptopSite) := by
  intro hconsistent
  obtain ⟨configured, hconfigured⟩ : ∃ configured, (machine laptopSite).exec
      (laptopStart workConfig) [(laptopIo, .adoptClient 1), (laptopIo, .reloadConfig laptopConfig)] =
        some configured := ⟨_, rfl⟩
  have hstart : (machine laptopSite).start (laptopStart workConfig) :=
    ⟨workConfig, {}, 50, 50, false, fun _ => (0, 0), rfl⟩
  have htable := hconsistent configured ⟨_, hstart, Machine.run_of_exec hconfigured⟩
  obtain rfl := Option.some.inj hconfigured
  exact absurd ((htable.entry_iff "work" 1).mp (by decide)).1 (by decide)

end ConfiguredServer

end DeskflowPlus
