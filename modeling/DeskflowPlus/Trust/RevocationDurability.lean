import DeskflowPlus.Trust.TrustedDeviceStore

/-!
# A revocation outlives the store in memory

Once a device is revoked in memory and both files are written, no file names it as trusted, and no
load can bring the trust back. When only the primary file was written, the backup may still be the
one from before: then it takes a load that falls back to it.
-/

namespace DeskflowPlus.Trust

open Transfer

variable (qt : QtText) (hostAddress : QString → Option QString)

structure StoreState where
  files : StoreFiles := {}
  store : DeviceStore := {}

/-- `PairingManager::revoke` revokes in a copy, which replaces the store once it is saved. -/
def PairingManager.revokeStaged (deviceId : DeviceId) (primaryFault backupFault : Option WriteFault)
    (state : StoreState) : Bool × StoreState :=
  let (found, staged) := state.store.revoke deviceId
  if ¬ found then (false, state)
  else
    let (saved, files) := staged.save primaryFault backupFault state.files
    if ¬ saved.ok then (false, { state with files }) else (true, ⟨files, staged⟩)

inductive StoreEvent where
  | upsert (device : StoredDevice)
  | revoke (deviceId : DeviceId)
  | revokeStaged (deviceId : DeviceId) (primaryFault backupFault : Option WriteFault)
  | remove (deviceId : DeviceId)
  | save (primaryFault backupFault : Option WriteFault)
  | load (primaryFault backupFault : Option QString)
  /-- A file is lost, or its bytes no longer spell a document. -/
  | damagePrimary (errorString : Option QString)
  | damageBackup (errorString : Option QString)

namespace StoreEvent

def apply (state : StoreState) : StoreEvent → StoreState
  | .upsert device =>
    match state.store.upsert qt hostAddress device with
    | .error _ => state
    | .ok store => { state with store }
  | .revoke deviceId => { state with store := (state.store.revoke deviceId).2 }
  | .revokeStaged deviceId primaryFault backupFault =>
    (PairingManager.revokeStaged deviceId primaryFault backupFault state).2
  | .remove deviceId => { state with store := (state.store.remove deviceId).2 }
  | .save primaryFault backupFault =>
    { state with files := (state.store.save primaryFault backupFault state.files).2 }
  | .load primaryFault backupFault =>
    { state with
      store := (state.store.load qt hostAddress primaryFault backupFault state.files).2 }
  | .damagePrimary errorString =>
    { state with files := { state.files with primary := errorString.map .malformed } }
  | .damageBackup errorString =>
    { state with files := { state.files with backup := errorString.map .malformed } }

def Trusts (deviceId : DeviceId) : StoreEvent → Prop
  | .upsert device => device.deviceId = deviceId ∧ device.revoked = false
  | _ => False

def IsLoad : StoreEvent → Prop
  | .load _ _ => True
  | _ => False

def FallsBack (state : StoreState) : StoreEvent → Prop
  | .load primaryFault backupFault =>
    (state.store.load qt hostAddress primaryFault backupFault state.files).1.source = .backup
  | _ => False

end StoreEvent

def StoreState.run (events : List StoreEvent) (state : StoreState) : StoreState :=
  events.foldl (StoreEvent.apply qt hostAddress) state

/-- No load of the history takes the backup. -/
def PrimaryOnly : List StoreEvent → StoreState → Prop
  | [], _ => True
  | event :: rest, state =>
    ¬ event.FallsBack qt hostAddress state ∧ PrimaryOnly rest (event.apply qt hostAddress state)

/-- Some certificate of the device would be accepted. -/
def DeviceStore.Trusts (store : DeviceStore) (deviceId : DeviceId) : Prop :=
  ∃ fingerprintSha256, store.trusted.trustStatus deviceId fingerprintSha256 = .trusted

/-- No entry of the device is anything but revoked. -/
def Revoked (deviceId : DeviceId) (devices : List StoredDevice) : Prop :=
  ∀ device ∈ devices, device.deviceId = deviceId → device.revoked = true

def FileRevoked (deviceId : DeviceId) (file : Option StoreFile) : Prop :=
  ∀ content ∈ file, ∀ devices, parseStore qt hostAddress content = .ok devices →
    Revoked deviceId devices

variable {qt hostAddress} {deviceId : DeviceId}

variable {store : DeviceStore}

theorem not_trusts_of_revoked (h : Revoked deviceId store.devices) :
    ¬ store.Trusts deviceId := by
  rintro ⟨fingerprintSha256, htrusted⟩
  unfold TrustedDeviceStore.trustStatus at htrusted
  cases hfind : store.trusted.find deviceId with
  | none =>
    rw [hfind] at htrusted
    cases htrusted
  | some found =>
    obtain ⟨device, hdevice, rfl⟩ := List.mem_map.mp (List.mem_of_find?_eq_some hfind)
    have hid : device.deviceId = deviceId := by
      simpa using List.find?_some hfind
    rw [hfind] at htrusted
    dsimp only at htrusted
    rw [if_pos (h device hdevice hid)] at htrusted
    cases htrusted

variable {device : StoredDevice}

theorem validateAndNormalize_keeps {normalized : StoredDevice}
    (h : validateAndNormalize qt hostAddress device = .ok normalized) :
    normalized.deviceId = device.deviceId ∧ normalized.revoked = device.revoked :=
  have hsame := (toTrustedDevice_of_validateAndNormalize h).1
  ⟨congrArg TrustedDevice.deviceId hsame, congrArg TrustedDevice.revoked hsame⟩

theorem keeps_of_fromJson_toJson {stored : StoredDevice}
    (h : fromJson qt hostAddress (toJson stored) = .ok device) :
    device.deviceId = stored.deviceId ∧ device.revoked = stored.revoked := by
  rw [fromJson_toJson] at h
  unfold fromFields at h
  rw [DeviceId.fromString_toString] at h
  dsimp only at h
  split at h
  · cases h
  · split_ifs at h
    split at h
    · cases h
    · have hkeeps := validateAndNormalize_keeps h
      exact hkeeps

variable {devices : List StoredDevice}

theorem readDevices_keeps {stored result : List StoredDevice}
    (h : readDevices qt hostAddress (stored.map toJson) devices = .ok result) :
    ∀ device ∈ result, device ∈ devices ∨ ∃ written ∈ stored,
      device.deviceId = written.deviceId ∧ device.revoked = written.revoked := by
  induction stored generalizing devices with
  | nil =>
    cases h
    exact fun device hdevice => .inl hdevice
  | cons written rest ih =>
    rw [List.map_cons, readDevices] at h
    split at h
    · cases h
    · rename_i read hread
      split_ifs at h
      intro device hdevice
      obtain hkept | ⟨later, hlater, hkeeps⟩ := ih h device hdevice
      · obtain hkept | hkept := List.mem_append.mp hkept
        · exact .inl hkept
        · obtain rfl := List.mem_singleton.mp hkept
          exact .inr ⟨written, List.mem_cons_self, keeps_of_fromJson_toJson hread⟩
      · exact .inr ⟨later, List.mem_cons_of_mem _ hlater, hkeeps⟩

theorem fileRevoked_serializeStore (h : Revoked deviceId store.devices) :
    FileRevoked qt hostAddress deviceId (some (serializeStore store.sortedDevices)) := by
  intro content hcontent devices hparse device hdevice hid
  obtain rfl : serializeStore store.sortedDevices = content := Option.some.inj hcontent
  have hread : readDevices qt hostAddress (store.sortedDevices.map toJson) [] = .ok devices := by
    unfold serializeStore at hparse
    simpa [parseStore, QJsonValue.value, QJsonValue.isDouble, QJsonValue.isArray] using hparse
  obtain hnone | ⟨written, hwritten, hwid, hrevoked⟩ := readDevices_keeps hread device hdevice
  · exact absurd hnone List.not_mem_nil
  · have hmem : written ∈ store.devices := List.mem_mergeSort.mp hwritten
    rw [hrevoked]
    exact h written hmem (hwid.symm.trans hid)

theorem revoked_filter (h : Revoked deviceId devices) (keep : StoredDevice → Bool) :
    Revoked deviceId (devices.filter keep) :=
  fun device hdevice => h device (List.mem_of_mem_filter hdevice)

theorem Revoked.revoke (h : Revoked deviceId store.devices) (other : DeviceId) :
    Revoked deviceId (store.revoke other).2.devices := by
  intro device hdevice hid
  obtain ⟨before, hbefore, rfl⟩ := List.mem_map.mp hdevice
  split_ifs at hid ⊢
  · rfl
  · exact h before hbefore hid

theorem revoked_revoke (store : DeviceStore) (deviceId : DeviceId) :
    Revoked deviceId (store.revoke deviceId).2.devices := by
  intro device hdevice hid
  obtain ⟨before, hbefore, rfl⟩ := List.mem_map.mp hdevice
  split_ifs at hid ⊢ with hbefore
  · rfl
  · exact absurd hid hbefore

theorem Revoked.upsert {next : DeviceStore} (h : Revoked deviceId store.devices)
    (hupsert : store.upsert qt hostAddress device = .ok next)
    (htrusts : ¬ (device.deviceId = deviceId ∧ device.revoked = false)) :
    Revoked deviceId next.devices := by
  unfold DeviceStore.upsert at hupsert
  split at hupsert
  · cases hupsert
  · rename_i normalized hnormalized
    obtain ⟨hid, hrevoked⟩ := validateAndNormalize_keeps hnormalized
    cases hupsert
    intro entered hentered henteredId
    obtain rfl | hkept := List.mem_cons.mp hentered
    · rw [hrevoked, ← Bool.not_eq_false]
      exact fun hfalse => htrusts ⟨hid.symm.trans henteredId, hfalse⟩
    · exact revoked_filter h _ entered hkept henteredId

theorem save_cases {files : StoreFiles} (primaryFault backupFault : Option WriteFault) :
    ((store.save primaryFault backupFault files).1.ok = false ∧
        (store.save primaryFault backupFault files).2 = files) ∨
      ((store.save primaryFault backupFault files).1.ok = true ∧
        (store.save primaryFault backupFault files).2.primary =
          some (serializeStore store.sortedDevices) ∧
        ((store.save primaryFault backupFault files).2.backup = files.backup ∧
            (store.save primaryFault backupFault files).1.diagnostic ≠ [] ∨
          (store.save primaryFault backupFault files).2.backup =
            some (serializeStore store.sortedDevices))) := by
  unfold DeviceStore.save
  cases primaryFault with
  | some fault => exact .inl ⟨rfl, rfl⟩
  | none =>
    cases backupFault with
    | some fault => exact .inr ⟨rfl, rfl, .inl ⟨rfl, nofun⟩⟩
    | none => exact .inr ⟨rfl, rfl, .inr rfl⟩

theorem parseStore_of_readFile {path : QString} {fault : Option QString} {missing : String}
    {file : Option StoreFile}
    (h : DeviceStore.readFile qt hostAddress path fault missing file = .ok devices) :
    ∃ content ∈ file, parseStore qt hostAddress content = .ok devices := by
  cases file with
  | none => cases h
  | some content =>
    cases fault with
    | some errorString => cases h
    | none => exact ⟨content, rfl, h⟩

theorem load_cases (store : DeviceStore) (files : StoreFiles)
    (primaryFault backupFault : Option QString) :
    (store.load qt hostAddress primaryFault backupFault files).2.devices = [] ∨
      (∃ content ∈ files.primary, parseStore qt hostAddress content =
        .ok (store.load qt hostAddress primaryFault backupFault files).2.devices) ∨
      ((store.load qt hostAddress primaryFault backupFault files).1.source = .backup ∧
        ∃ content ∈ files.backup, parseStore qt hostAddress content =
          .ok (store.load qt hostAddress primaryFault backupFault files).2.devices) := by
  unfold DeviceStore.load
  dsimp only
  split
  · exact .inl rfl
  · split
    · rename_i hprimary
      exact .inr (.inl (parseStore_of_readFile hprimary))
    · split
      · rename_i hbackup
        exact .inr (.inr ⟨rfl, parseStore_of_readFile hbackup⟩)
      · exact .inl rfl

theorem fileRevoked_malformed (errorString : Option QString) :
    FileRevoked qt hostAddress deviceId (errorString.map .malformed) := by
  intro content hcontent devices hparse
  obtain ⟨text, -, rfl⟩ := Option.map_eq_some_iff.mp hcontent
  cases hparse

structure PrimaryClear (qt : QtText) (hostAddress : QString → Option QString) (deviceId : DeviceId)
    (state : StoreState) : Prop where
  store : Revoked deviceId state.store.devices
  primary : FileRevoked qt hostAddress deviceId state.files.primary

namespace PrimaryClear

variable {state : StoreState}

theorem save (h : PrimaryClear qt hostAddress deviceId state)
    (primaryFault backupFault : Option WriteFault) :
    FileRevoked qt hostAddress deviceId
      (state.store.save primaryFault backupFault state.files).2.primary := by
  obtain ⟨-, hsame⟩ | ⟨-, hwritten, -⟩ :=
    @save_cases state.store state.files primaryFault backupFault
  · rw [hsame]
    exact h.primary
  · rw [hwritten]
    exact fileRevoked_serializeStore h.store

theorem load (h : PrimaryClear qt hostAddress deviceId state)
    {primaryFault backupFault : Option QString}
    (hbackup : (state.store.load qt hostAddress primaryFault backupFault state.files).1.source =
      .backup → FileRevoked qt hostAddress deviceId state.files.backup) :
    Revoked deviceId
      (state.store.load qt hostAddress primaryFault backupFault state.files).2.devices := by
  obtain hnone | ⟨content, hcontent, hparse⟩ | ⟨hsource, content, hcontent, hparse⟩ :=
    @load_cases qt hostAddress state.store state.files primaryFault backupFault
  · rw [hnone]
    exact fun device hdevice => absurd hdevice List.not_mem_nil
  · exact h.primary content hcontent _ hparse
  · exact hbackup hsource content hcontent _ hparse

end PrimaryClear

theorem revokeStaged_cases (other : DeviceId) (primaryFault backupFault : Option WriteFault)
    (state : StoreState) :
    (PairingManager.revokeStaged other primaryFault backupFault state).2 = state ∨
      (PairingManager.revokeStaged other primaryFault backupFault state).2 =
        ⟨((state.store.revoke other).2.save primaryFault backupFault state.files).2,
          (state.store.revoke other).2⟩ := by
  unfold PairingManager.revokeStaged
  dsimp only
  split
  · exact .inl rfl
  · split
    · rename_i hfailed
      obtain ⟨-, hsame⟩ | ⟨hok, -⟩ :=
        @save_cases (state.store.revoke other).2 state.files primaryFault backupFault
      · left
        rw [hsame]
      · exact absurd hok hfailed
    · exact .inr rfl

namespace PrimaryClear

variable {state : StoreState}

theorem apply (h : PrimaryClear qt hostAddress deviceId state) {event : StoreEvent}
    (htrusts : ¬ event.Trusts deviceId)
    (hbackup : event.FallsBack qt hostAddress state →
      FileRevoked qt hostAddress deviceId state.files.backup) :
    PrimaryClear qt hostAddress deviceId (event.apply qt hostAddress state) := by
  cases event with
  | upsert device =>
    unfold StoreEvent.apply
    dsimp only
    split
    · exact h
    · rename_i next hupsert
      exact ⟨h.store.upsert hupsert htrusts, h.primary⟩
  | revoke other => exact ⟨h.store.revoke other, h.primary⟩
  | revokeStaged other primaryFault backupFault =>
    unfold StoreEvent.apply
    dsimp only
    obtain hsame | hstaged := revokeStaged_cases other primaryFault backupFault state
    · rw [hsame]
      exact h
    · rw [hstaged]
      have hrevoked : PrimaryClear qt hostAddress deviceId
          ⟨state.files, (state.store.revoke other).2⟩ := ⟨h.store.revoke other, h.primary⟩
      exact ⟨hrevoked.store, hrevoked.save primaryFault backupFault⟩
  | remove other => exact ⟨revoked_filter h.store _, h.primary⟩
  | save primaryFault backupFault => exact ⟨h.store, h.save primaryFault backupFault⟩
  | load primaryFault backupFault => exact ⟨h.load hbackup, h.primary⟩
  | damagePrimary errorString => exact ⟨h.store, fileRevoked_malformed errorString⟩
  | damageBackup errorString => exact ⟨h.store, h.primary⟩

theorem backup_apply (h : PrimaryClear qt hostAddress deviceId state)
    (hbackup : FileRevoked qt hostAddress deviceId state.files.backup) (event : StoreEvent) :
    FileRevoked qt hostAddress deviceId (event.apply qt hostAddress state).files.backup := by
  have hsave : ∀ (store : DeviceStore) primaryFault backupFault, Revoked deviceId store.devices →
      FileRevoked qt hostAddress deviceId
        (store.save primaryFault backupFault state.files).2.backup := by
    intro store primaryFault backupFault hstore
    obtain ⟨-, hsame⟩ | ⟨-, -, ⟨hsame, -⟩ | hwritten⟩ :=
      @save_cases store state.files primaryFault backupFault
    · rw [hsame]
      exact hbackup
    · rw [hsame]
      exact hbackup
    · rw [hwritten]
      exact fileRevoked_serializeStore hstore
  cases event with
  | upsert device =>
    unfold StoreEvent.apply
    dsimp only
    split <;> exact hbackup
  | revokeStaged other primaryFault backupFault =>
    unfold StoreEvent.apply
    dsimp only
    obtain hsame | hstaged := revokeStaged_cases other primaryFault backupFault state
    · rw [hsame]
      exact hbackup
    · rw [hstaged]
      exact hsave _ primaryFault backupFault (h.store.revoke other)
  | save primaryFault backupFault => exact hsave _ primaryFault backupFault h.store
  | damageBackup errorString => exact fileRevoked_malformed errorString
  | revoke other => exact hbackup
  | remove other => exact hbackup
  | load primaryFault backupFault => exact hbackup
  | damagePrimary errorString => exact hbackup

theorem run_of_backup (h : PrimaryClear qt hostAddress deviceId state)
    (hbackup : FileRevoked qt hostAddress deviceId state.files.backup) {events : List StoreEvent}
    (htrusts : ∀ event ∈ events, ¬ event.Trusts deviceId) :
    PrimaryClear qt hostAddress deviceId (state.run qt hostAddress events) ∧
      FileRevoked qt hostAddress deviceId (state.run qt hostAddress events).files.backup := by
  induction events generalizing state with
  | nil => exact ⟨h, hbackup⟩
  | cons event rest ih =>
    exact ih (h.apply (htrusts event List.mem_cons_self) fun _ => hbackup)
      (h.backup_apply hbackup event)
      fun later hlater => htrusts later (List.mem_cons_of_mem _ hlater)

theorem run_of_primaryOnly (h : PrimaryClear qt hostAddress deviceId state)
    {events : List StoreEvent} (htrusts : ∀ event ∈ events, ¬ event.Trusts deviceId)
    (hprimary : PrimaryOnly qt hostAddress events state) :
    PrimaryClear qt hostAddress deviceId (state.run qt hostAddress events) := by
  induction events generalizing state with
  | nil => exact h
  | cons event rest ih =>
    exact ih (h.apply (htrusts event List.mem_cons_self) fun hfalls => absurd hfalls hprimary.1)
      (fun later hlater => htrusts later (List.mem_cons_of_mem _ hlater)) hprimary.2

end PrimaryClear

theorem Revoked.run {state : StoreState} (h : Revoked deviceId state.store.devices)
    {events : List StoreEvent}
    (hevents : ∀ event ∈ events, ¬ event.Trusts deviceId ∧ ¬ event.IsLoad) :
    Revoked deviceId (state.run qt hostAddress events).store.devices := by
  induction events generalizing state with
  | nil => exact h
  | cons event rest ih =>
    have hrest : ∀ later ∈ rest, ¬ later.Trusts deviceId ∧ ¬ later.IsLoad :=
      fun later hlater => hevents later (List.mem_cons_of_mem _ hlater)
    obtain ⟨htrusts, hload⟩ := hevents event List.mem_cons_self
    refine @ih (event.apply qt hostAddress state) ?_ hrest
    cases event with
    | upsert device =>
      unfold StoreEvent.apply
      dsimp only
      split
      · exact h
      · rename_i next hupsert
        exact h.upsert hupsert htrusts
    | revoke other => exact h.revoke other
    | revokeStaged other primaryFault backupFault =>
      unfold StoreEvent.apply
      dsimp only
      obtain hsame | hstaged := revokeStaged_cases other primaryFault backupFault state
      · rw [hsame]
        exact h
      · rw [hstaged]
        exact h.revoke other
    | remove other => exact revoked_filter h _
    | load primaryFault backupFault => exact absurd trivial hload
    | save primaryFault backupFault => exact h
    | damagePrimary errorString => exact h
    | damageBackup errorString => exact h

theorem primaryOnly_concat {events : List StoreEvent} {event : StoreEvent} {state : StoreState} :
    PrimaryOnly qt hostAddress (events ++ [event]) state ↔
      PrimaryOnly qt hostAddress events state ∧
        ¬ event.FallsBack qt hostAddress (state.run qt hostAddress events) := by
  induction events generalizing state with
  | nil => exact and_comm.trans (and_congr_right fun _ => Iff.rfl)
  | cons first rest ih =>
    rw [List.cons_append, PrimaryOnly, PrimaryOnly, ih, and_assoc]
    rfl

/-- A device is revoked, the store saved with success before anything is loaded, and the device not
trusted again. Then no load yields it as trusted: none at all if the save wrote the backup too, and
otherwise none as long as no load takes the backup. -/
theorem revocation_durable (state : StoreState) (deviceId : DeviceId)
    (before after : List StoreEvent) (primaryFault backupFault : Option WriteFault)
    (loadPrimary loadBackup : Option QString)
    (hbefore : ∀ event ∈ before, ¬ event.Trusts deviceId ∧ ¬ event.IsLoad)
    (hafter : ∀ event ∈ after, ¬ event.Trusts deviceId) :
    let revoked := (StoreEvent.revoke deviceId).apply qt hostAddress state
    let staged := revoked.run qt hostAddress before
    let saved := staged.store.save primaryFault backupFault staged.files
    let later := (StoreState.mk saved.2 staged.store).run qt hostAddress after
    let loaded := later.store.load qt hostAddress loadPrimary loadBackup later.files
    saved.1.ok = true →
      (saved.1.diagnostic = [] → ¬ loaded.2.Trusts deviceId) ∧
      (PrimaryOnly qt hostAddress (after ++ [.load loadPrimary loadBackup])
          ⟨saved.2, staged.store⟩ → ¬ loaded.2.Trusts deviceId) := by
  intro revoked staged saved later loaded hok
  have hstaged : Revoked deviceId staged.store.devices :=
    Revoked.run (revoked_revoke state.store deviceId) hbefore
  obtain ⟨hfailed, -⟩ | ⟨-, hprimary, hbackup⟩ :=
    @save_cases staged.store staged.files primaryFault backupFault
  · exact absurd (hfailed.symm.trans hok) nofun
  · have hclear : PrimaryClear qt hostAddress deviceId ⟨saved.2, staged.store⟩ := by
      refine ⟨hstaged, ?_⟩
      change FileRevoked _ _ _ saved.2.primary
      rw [hprimary]
      exact fileRevoked_serializeStore hstaged
    constructor
    · intro hdiagnostic
      have hwritten : FileRevoked qt hostAddress deviceId saved.2.backup := by
        obtain ⟨-, hdegraded⟩ | hbackup := hbackup
        · exact absurd hdiagnostic hdegraded
        · rw [hbackup]
          exact fileRevoked_serializeStore hstaged
      obtain ⟨hlater, hlaterBackup⟩ := hclear.run_of_backup hwritten hafter
      exact not_trusts_of_revoked (hlater.load fun _ => hlaterBackup)
    · intro honly
      obtain ⟨hruns, hload⟩ := primaryOnly_concat.mp honly
      have hlater := hclear.run_of_primaryOnly hafter hruns
      exact not_trusts_of_revoked (hlater.load fun hfalls => absurd hfalls hload)

section Sample

def sampleDevice : StoredDevice where
  deviceId := ⟨1, one_nonNull⟩
  fingerprintSha256 := List.replicate 32 7
  platform := QString.literal "linux"

/-- The device is trusted, and both files say so. -/
def pairedState : StoreState :=
  StoreState.run QtText.ascii some [.upsert sampleDevice, .save none none] {}

def noSpace : WriteFault := .write (QString.literal "no space left on device")

theorem revocation_durable_sample :
    let revoked := (StoreEvent.revoke sampleDevice.deviceId).apply QtText.ascii some pairedState
    let saved := revoked.store.save none none revoked.files
    let damaged : StoreFiles := { saved.2 with primary := none }
    ¬ (revoked.store.load QtText.ascii some none none damaged).2.Trusts sampleDevice.deviceId := by
  intro revoked saved damaged
  have hdurable := (@revocation_durable QtText.ascii some pairedState sampleDevice.deviceId []
    [.damagePrimary none] none none none none nofun (by
      intro event hevent
      rw [List.mem_singleton.mp hevent]
      exact id) rfl).1 rfl
  exact hdurable

/-- The backup cannot be written, the save is reported successful, and the primary file is lost. -/
theorem revocation_undone_by_backup :
    ¬ ∀ (qt : QtText) (hostAddress : QString → Option QString) (state : StoreState)
        (deviceId : DeviceId) (primaryFault backupFault : Option WriteFault)
        (after : List StoreEvent) (loadPrimary loadBackup : Option QString),
        (∀ event ∈ after, ¬ event.Trusts deviceId) → (state.store.revoke deviceId).1 = true →
          let saved := (state.store.revoke deviceId).2.save primaryFault backupFault state.files
          let later := (StoreState.mk saved.2 (state.store.revoke deviceId).2).run qt hostAddress
            after
          saved.1.ok = true →
            ¬ (later.store.load qt hostAddress loadPrimary loadBackup later.files).2.Trusts
              deviceId := by
  intro h
  have hundone := h QtText.ascii some pairedState sampleDevice.deviceId none (some noSpace)
    [.damagePrimary none] none none (by
      intro event hevent
      rw [List.mem_singleton.mp hevent]
      exact id) (by decide +kernel) rfl
  exact hundone ⟨List.replicate 32 7, by decide +kernel⟩

end Sample

end DeskflowPlus.Trust
