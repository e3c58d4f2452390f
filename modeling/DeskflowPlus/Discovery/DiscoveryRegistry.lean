import DeskflowPlus.Lib.Recent
import DeskflowPlus.Reconnect.AddressCandidateProvider

/-!
# The registry of discovered devices

An advertisement of another device that comes from an IPv4 address replaces what is known of the
device and brings its address to the front. A scan takes the devices offline that have been silent
for too long. Whatever the order of both, a record tells of the advertisements so far: the last one,
the addresses used last, and whether a scan has found it old since.
-/

namespace DeskflowPlus.Discovery

open Transfer Reconnect

structure DeviceCapabilities where
  input : Bool := false
  clipboardText : Bool := false
  clipboardImage : Bool := false
  fileV1 : Bool := false
  folderV1 : Bool := false
  resumeV1 : Bool := false

structure DeviceInfo where
  deviceId : DeviceId
  displayName : QString := []
  platform : QString := []
  architecture : QString := []
  appVersion : QString := []
  inputPort : UInt16 := 0
  filePort : UInt16 := 0
  capabilities : DeviceCapabilities := {}
  certificateFingerprintSha256 : QByteArray := []

inductive DevicePresence where
  | offline
  | discovered
  | pairing
  | online
  | trustViolation
  deriving DecidableEq

/-- Without the fields that the registry leaves at their defaults. -/
structure DeviceSnapshot (QHostAddress : Type) where
  id : DeviceId
  displayName : QString
  platform : QString
  architecture : QString
  presence : DevicePresence
  addresses : List QHostAddress
  capabilities : DeviceCapabilities
  lastSeenUtc : QDateTime

structure Record (QHostAddress : Type) where
  info : DeviceInfo
  snapshot : DeviceSnapshot QHostAddress
  observedAtUtc : QDateTime

def kMaximumDiscoveryAddressesPerDevice : Nat := 8

/-- `QDateTime::msecsTo`, which is 0 where a time is invalid. -/
def msecsTo (earlier later : QDateTime) : Int :=
  match earlier.msecs, later.msecs with
  | some earlier, some later => later - earlier
  | _, _ => 0

/-- `m_records`. The local device and the time to live do not change. -/
abbrev Records (QHostAddress : Type) := DeviceId → Option (Record QHostAddress)

variable {QHostAddress : Type} [DecidableEq QHostAddress]

def updatedAddresses (existing : List QHostAddress) (latest : QHostAddress) : List QHostAddress :=
  existing.foldl (fun result address =>
    if address ≠ latest ∧ result.length < kMaximumDiscoveryAddressesPerDevice then
      result ++ [address]
    else result) [latest]

namespace DiscoveryRegistry

variable (qt : QtNetwork QHostAddress) (localDeviceId : DeviceId) (ttl : Int)

/-- The clock reads `observedAt`. -/
def observeAdvertisement (device : DeviceInfo) (senderAddress : QHostAddress)
    (observedAt : QDateTime) (records : Records QHostAddress) : Bool × Records QHostAddress :=
  if device.deviceId = localDeviceId ∨ qt.isNull senderAddress = true ∨
      qt.protocol senderAddress ≠ .iPv4Protocol then (false, records)
  else
    let addresses := match records device.deviceId with
      | none => [senderAddress]
      | some record => updatedAddresses record.snapshot.addresses senderAddress
    let record : Record QHostAddress :=
      { info := device
        snapshot :=
          { id := device.deviceId, displayName := device.displayName, platform := device.platform
            architecture := device.architecture, presence := .discovered, addresses
            capabilities := device.capabilities, lastSeenUtc := observedAt }
        observedAtUtc := observedAt }
    (true, Function.update records device.deviceId record)

def expireRecord (now : QDateTime) (record : Record QHostAddress) :
    Record QHostAddress :=
  if record.snapshot.presence = .offline then record
  else if ttl ≤ msecsTo record.observedAtUtc now then
    { record with snapshot := { record.snapshot with presence := .offline } }
  else record

def expireStaleDevices (now : QDateTime) (records : Records QHostAddress) : Records QHostAddress :=
  if ttl ≤ 0 then records else fun id => (records id).map (expireRecord ttl now)

end DiscoveryRegistry

structure Advertisement (QHostAddress : Type) where
  device : DeviceInfo
  senderAddress : QHostAddress
  observedAt : QDateTime

inductive RegistryCall (QHostAddress : Type) where
  | observe (advertisement : Advertisement QHostAddress)
  | expire (now : QDateTime)

variable (qt : QtNetwork QHostAddress) (localDeviceId : DeviceId) (ttl : Int)

namespace RegistryCall

open DiscoveryRegistry

/-- The records after the calls, the last one first. -/
def run : List (RegistryCall QHostAddress) → Records QHostAddress
  | [] => fun _ => none
  | .observe ad :: calls => (observeAdvertisement qt localDeviceId ad.device ad.senderAddress
      ad.observedAt (run calls)).2
  | .expire now :: calls => expireStaleDevices ttl now (run calls)

def Observes (id : DeviceId) (ad : Advertisement QHostAddress) : Prop :=
  ad.device.deviceId = id ∧ id ≠ localDeviceId ∧ qt.isNull ad.senderAddress = false ∧
    qt.protocol ad.senderAddress = .iPv4Protocol

instance (id : DeviceId) (ad : Advertisement QHostAddress) :
    Decidable (Observes qt localDeviceId id ad) := inferInstanceAs (Decidable (_ ∧ _))

/-- The advertisements of a device, the last one first. -/
def observed (id : DeviceId) : List (RegistryCall QHostAddress) → List (Advertisement QHostAddress)
  | [] => []
  | .expire _ :: calls => observed id calls
  | .observe ad :: calls =>
    if Observes qt localDeviceId id ad then ad :: observed id calls else observed id calls

/-- The scans behind the last advertisement of a device. -/
def scans (id : DeviceId) : List (RegistryCall QHostAddress) → List QDateTime
  | [] => []
  | .expire now :: calls => now :: scans id calls
  | .observe ad :: calls => if Observes qt localDeviceId id ad then [] else scans id calls

end RegistryCall

def presenceAt (ttl : Int) (observedAt : QDateTime) (scans : List QDateTime) : DevicePresence :=
  if 0 < ttl ∧ ∃ now ∈ scans, ttl ≤ msecsTo observedAt now then .offline else .discovered

/-- What is known of a device from its advertisements. -/
def recordOf (ttl : Int) (scans : List QDateTime) :
    List (Advertisement QHostAddress) → Option (Record QHostAddress)
  | [] => none
  | ad :: earlier =>
    some
      { info := ad.device
        snapshot :=
          { id := ad.device.deviceId, displayName := ad.device.displayName
            platform := ad.device.platform, architecture := ad.device.architecture
            presence := presenceAt ttl ad.observedAt scans
            addresses := (recent ((ad :: earlier).map (·.senderAddress))).take
              kMaximumDiscoveryAddressesPerDevice
            capabilities := ad.device.capabilities, lastSeenUtc := ad.observedAt }
        observedAtUtc := ad.observedAt }

theorem updatedAddresses_eq (existing : List QHostAddress) (latest : QHostAddress) :
    updatedAddresses existing latest =
      (latest :: existing.filter (· ≠ latest)).take kMaximumDiscoveryAddressesPerDevice := by
  have hfold : ∀ result : List QHostAddress, result.length ≤ kMaximumDiscoveryAddressesPerDevice →
      existing.foldl (fun result address =>
        if address ≠ latest ∧ result.length < kMaximumDiscoveryAddressesPerDevice then
          result ++ [address]
        else result) result =
      (result ++ existing.filter (· ≠ latest)).take kMaximumDiscoveryAddressesPerDevice := by
    induction existing with
    | nil =>
      intro result hresult
      rw [List.filter_nil, List.append_nil, List.take_of_length_le hresult]
      rfl
    | cons address existing ih =>
      intro result hresult
      rw [List.foldl_cons]
      by_cases hsame : address = latest
      · rw [if_neg (not_and_of_not_left _ (not_not_intro hsame)), ih result hresult,
          List.filter_cons_of_neg (by simp [hsame])]
      · rw [List.filter_cons_of_pos (by simp [hsame])]
        by_cases hroom : result.length < kMaximumDiscoveryAddressesPerDevice
        · have hlength : (result ++ [address]).length ≤ kMaximumDiscoveryAddressesPerDevice := by
            rw [List.length_append, List.length_singleton]
            exact hroom
          rw [if_pos ⟨hsame, hroom⟩, ih _ hlength, List.append_assoc, List.singleton_append]
        · have hfull : result.length = kMaximumDiscoveryAddressesPerDevice :=
            Nat.le_antisymm hresult (Nat.not_lt.mp hroom)
          rw [if_neg (not_and_of_not_right _ hroom), ih result hresult, ← hfull, List.take_left,
            List.take_left]
  exact hfold [latest] (Nat.le_of_ble_eq_true rfl)

variable {qt localDeviceId ttl}

open RegistryCall

/-- A scan looks at a record once more. -/
theorem expireRecord_recordOf (hpositive : 0 < ttl) (now : QDateTime) (scans : List QDateTime)
    (ads : List (Advertisement QHostAddress)) :
    (recordOf ttl scans ads).map (DiscoveryRegistry.expireRecord ttl now) =
      recordOf ttl (now :: scans) ads := by
  cases ads with
  | nil => rfl
  | cons ad earlier =>
    have hpresence : presenceAt ttl ad.observedAt (now :: scans) =
        if presenceAt ttl ad.observedAt scans = .offline then .offline
        else if ttl ≤ msecsTo ad.observedAt now then .offline
        else presenceAt ttl ad.observedAt scans := by
      simp only [presenceAt, List.exists_mem_cons_iff, hpositive, true_and]
      split_ifs <;> simp_all
    rw [recordOf, recordOf, Option.map_some, DiscoveryRegistry.expireRecord]
    dsimp only
    rw [hpresence]
    split_ifs with hoffline hstale
    · rw [hoffline]
    · rfl
    · rfl

/-- **The registry tells of the advertisements**, in any order of advertisements and scans. -/
theorem records_eq_recordOf (calls : List (RegistryCall QHostAddress)) (id : DeviceId) :
    run qt localDeviceId ttl calls id =
      recordOf ttl (scans qt localDeviceId id calls) (observed qt localDeviceId id calls) := by
  induction calls with
  | nil => rfl
  | cons call calls ih =>
    cases call with
    | expire now =>
      rw [run, DiscoveryRegistry.expireStaleDevices, scans, observed]
      by_cases hpositive : 0 < ttl
      · rw [if_neg (not_le.mpr hpositive), ← expireRecord_recordOf hpositive, ← ih]
      · rw [if_pos (not_lt.mp hpositive), ih]
        cases observed qt localDeviceId id calls with
        | nil => rfl
        | cons ad earlier => simp only [recordOf, presenceAt, hpositive, false_and]
    | observe ad =>
      rw [run, DiscoveryRegistry.observeAdvertisement, scans, observed]
      by_cases hobserves : Observes qt localDeviceId id ad
      · obtain ⟨rfl, hother, hnull, hprotocol⟩ := hobserves
        have haccepted : ¬ (ad.device.deviceId = localDeviceId ∨ qt.isNull ad.senderAddress = true ∨
            qt.protocol ad.senderAddress ≠ .iPv4Protocol) := by
          simp [hother, hnull, hprotocol]
        rw [if_neg haccepted, if_pos ⟨rfl, hother, hnull, hprotocol⟩, if_pos ⟨rfl, hother, hnull,
          hprotocol⟩, ih]
        dsimp only
        rw [Function.update_self, recordOf]
        have hpresence : presenceAt ttl ad.observedAt [] = .discovered := by simp [presenceAt]
        rw [hpresence]
        cases hearlier : observed qt localDeviceId ad.device.deviceId calls with
        | nil => rfl
        | cons last earlier =>
          rw [recordOf]
          dsimp only
          rw [updatedAddresses_eq, take_recent_cons]
          rfl
      · rw [if_neg hobserves, if_neg hobserves]
        split
        · exact ih
        · rename_i haccepted
          simp only [not_or, Bool.not_eq_true, not_not] at haccepted
          have hid : id ≠ ad.device.deviceId := by
            rintro rfl
            exact hobserves ⟨rfl, haccepted⟩
          dsimp only
          rw [Function.update_of_ne hid]
          exact ih

end DeskflowPlus.Discovery
