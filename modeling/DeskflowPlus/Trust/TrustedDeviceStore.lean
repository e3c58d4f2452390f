import DeskflowPlus.Trust.DeviceIdText
import DeskflowPlus.Trust.TlsPeerPinningPolicy

/-!
# The store of trusted devices

The devices are kept in memory and written to two files, each replaced as a whole: the primary file
and then its backup. A save reports success once the primary file is written; that the backup could
not be is only said in the diagnostic. A load takes the backup when the primary file is missing or
cannot be parsed. A file's content is the JSON document Qt reads from it.
-/

namespace DeskflowPlus.Trust

open Transfer

/-- A JSON value; of a number, what `toInt` gives for it. -/
inductive QJsonValue where
  | null
  | bool (value : Bool)
  | double (toInt : Option Int)
  | string (text : QString)
  | array (items : List QJsonValue)
  | object (entries : List (String × QJsonValue))

namespace QJsonValue

def value (entries : List (String × QJsonValue)) (name : String) : Option QJsonValue :=
  (entries.find? fun entry => entry.1 = name).map Prod.snd

def isString : Option QJsonValue → Option QString
  | some (.string text) => some text
  | _ => none

def isArray : Option QJsonValue → Option (List QJsonValue)
  | some (.array items) => some items
  | _ => none

def isBool : Option QJsonValue → Option Bool
  | some (.bool value) => some value
  | _ => none

def isDouble : Option QJsonValue → Option (Option Int)
  | some (.double toInt) => some toInt
  | _ => none

end QJsonValue

namespace Base64

def digit (value : Nat) : UInt16 :=
  UInt16.ofNat <|
    if value < 26 then 0x41 + value
    else if value < 52 then 0x61 + (value - 26)
    else if value < 62 then 0x30 + (value - 52)
    else if value = 62 then 0x2b
    else 0x2f

def digitValue (unit : UInt16) : Option Nat :=
  if 0x41 ≤ unit ∧ unit ≤ 0x5a then some (unit.toNat - 0x41)
  else if 0x61 ≤ unit ∧ unit ≤ 0x7a then some (unit.toNat - 0x61 + 26)
  else if 0x30 ≤ unit ∧ unit ≤ 0x39 then some (unit.toNat - 0x30 + 52)
  else if unit = 0x2b then some 62
  else if unit = 0x2f then some 63
  else none

/-- `QByteArray::toBase64`. -/
def toBase64 : QByteArray → QString
  | [] => []
  | [b0] => [digit (b0.toNat / 4), digit (b0.toNat % 4 * 16), 0x3d, 0x3d]
  | [b0, b1] =>
    [digit (b0.toNat / 4), digit (b0.toNat % 4 * 16 + b1.toNat / 16), digit (b1.toNat % 16 * 4),
      0x3d]
  | b0 :: b1 :: b2 :: rest =>
    [digit (b0.toNat / 4), digit (b0.toNat % 4 * 16 + b1.toNat / 16),
      digit (b1.toNat % 16 * 4 + b2.toNat / 64), digit (b2.toNat % 64)] ++ toBase64 rest

/-- The bytes that whole groups of eight bits make; bits left over are dropped. -/
def groupBytes : List Nat → QByteArray
  | v0 :: v1 :: v2 :: v3 :: rest =>
    [UInt8.ofNat (v0 * 4 + v1 / 16), UInt8.ofNat (v1 % 16 * 16 + v2 / 4),
      UInt8.ofNat (v2 % 4 * 64 + v3)] ++ groupBytes rest
  | [v0, v1, v2] => [UInt8.ofNat (v0 * 4 + v1 / 16), UInt8.ofNat (v1 % 16 * 16 + v2 / 4)]
  | [v0, v1] => [UInt8.ofNat (v0 * 4 + v1 / 16)]
  | _ => []

/-- `QByteArray::fromBase64Encoding` where a decoding error aborts. -/
def fromBase64 (text : QString) : Option QByteArray :=
  let digits := text.takeWhile (· ≠ 0x3d)
  let padding := text.drop digits.length
  if padding = [] ∨ (text.length % 4 = 0 ∧ (padding = [0x3d] ∨ padding = [0x3d, 0x3d])) then
    (digits.mapM digitValue).map groupBytes
  else none

end Base64

structure StoredDevice extends TrustedDevice where
  deviceAlias : QString := []
  platform : QString
  lastAddresses : List QString := []
  autoAcceptFiles : Bool := false
  deriving DecidableEq

def kTrustedDeviceStoreSchemaVersion : Int := 1

section Documents

variable (qt : QtText) (hostAddress : QString → Option QString)

/-- The addresses in `QHostAddress`'s own spelling, each once. -/
def normalizeAddresses : List QString → List QString → Except QString (List QString)
  | [], normalized => .ok normalized
  | text :: rest, normalized =>
    match hostAddress text with
    | none => .error (QString.literal "trusted device address is invalid: " ++ text)
    | some address =>
      normalizeAddresses rest (if address ∈ normalized then normalized else normalized ++ [address])

def validateAndNormalize (device : StoredDevice) : Except QString StoredDevice :=
  if device.fingerprintSha256.length ≠ kSha256FingerprintBytes then
    .error (QString.literal "trusted device fingerprint must be a SHA-256 digest")
  else if qt.trimmed device.platform = [] then
    .error (QString.literal "trusted device platform must not be empty")
  else
    match normalizeAddresses hostAddress device.lastAddresses [] with
    | .error diagnostic => .error diagnostic
    | .ok lastAddresses =>
      .ok { device with
        deviceAlias := qt.trimmed device.deviceAlias
        platform := qt.trimmed device.platform
        lastAddresses }

def toJson (device : StoredDevice) : QJsonValue :=
  .object [("deviceId", .string device.deviceId.toString), ("alias", .string device.deviceAlias),
    ("platform", .string device.platform),
    ("fingerprintSha256", .string (Base64.toBase64 device.fingerprintSha256)),
    ("lastAddresses", .array (device.lastAddresses.map .string)),
    ("autoAcceptFiles", .bool device.autoAcceptFiles), ("revoked", .bool device.revoked)]

def readAddresses : List QJsonValue → Option (List QString)
  | [] => some []
  | .string text :: rest => (readAddresses rest).map (text :: ·)
  | _ :: _ => none

/-- `fromJson` once the fields have their types. -/
def fromFields (id deviceAlias platform fingerprint : QString) (addresses : List QJsonValue)
    (autoAcceptFiles revoked : Bool) : Except QString StoredDevice :=
  match DeviceId.fromString id with
  | none => .error (QString.literal "trusted device id is invalid")
  | some deviceId =>
    match Base64.fromBase64 fingerprint with
    | none => .error (QString.literal "trusted device fingerprint is invalid")
    | some fingerprintSha256 =>
      if fingerprintSha256.length ≠ kSha256FingerprintBytes then
        .error (QString.literal "trusted device fingerprint is invalid")
      else
        match readAddresses addresses with
        | none => .error (QString.literal "trusted device address must be a string")
        | some lastAddresses =>
          validateAndNormalize qt hostAddress
            { deviceId, deviceAlias, platform, fingerprintSha256, lastAddresses, autoAcceptFiles,
              revoked }

def fromJson : QJsonValue → Except QString StoredDevice
  | .object object =>
    match QJsonValue.isString (QJsonValue.value object "deviceId"),
      QJsonValue.isString (QJsonValue.value object "alias"),
      QJsonValue.isString (QJsonValue.value object "platform"),
      QJsonValue.isString (QJsonValue.value object "fingerprintSha256"),
      QJsonValue.isArray (QJsonValue.value object "lastAddresses"),
      QJsonValue.isBool (QJsonValue.value object "autoAcceptFiles"),
      QJsonValue.isBool (QJsonValue.value object "revoked") with
    | some id, some deviceAlias, some platform, some fingerprint, some addresses,
      some autoAcceptFiles, some revoked =>
      fromFields qt hostAddress id deviceAlias platform fingerprint addresses autoAcceptFiles revoked
    | _, _, _, _, _, _, _ =>
      .error (QString.literal "trusted device entry has missing or invalid fields")
  | _ => .error (QString.literal "trusted device entry must be an object")

inductive StoreFile where
  | malformed (errorString : QString)
  | document (value : QJsonValue)

/-- The devices of an array, each identifier once. -/
def readDevices : List QJsonValue → List StoredDevice → Except QString (List StoredDevice)
  | [], devices => .ok devices
  | value :: rest, devices =>
    match fromJson qt hostAddress value with
    | .error diagnostic => .error diagnostic
    | .ok device =>
      if devices.any (·.deviceId = device.deviceId) then
        .error (QString.literal "trusted device store contains a duplicate device id")
      else readDevices rest (devices ++ [device])

def parseStore : StoreFile → Except QString (List StoredDevice)
  | .malformed errorString =>
    .error (QString.literal "trusted device store is not valid JSON: " ++ errorString)
  | .document (.object root) =>
    match QJsonValue.isDouble (QJsonValue.value root "schemaVersion"),
      QJsonValue.isArray (QJsonValue.value root "devices") with
    | some schema, some devices =>
      if schema.getD (-1) ≠ kTrustedDeviceStoreSchemaVersion then
        .error (QString.literal "trusted device store schema is unsupported")
      else readDevices qt hostAddress devices []
    | _, _ => .error (QString.literal "trusted device store schema is unsupported")
  | .document _ =>
    .error (QString.literal "trusted device store is not valid JSON: no error occurred")

theorem fromJson_toJson (device : StoredDevice) :
    fromJson qt hostAddress (toJson device) =
      fromFields qt hostAddress device.deviceId.toString device.deviceAlias device.platform
        (Base64.toBase64 device.fingerprintSha256) (device.lastAddresses.map .string)
        device.autoAcceptFiles device.revoked := by
  unfold toJson fromJson
  simp only [QJsonValue.value, List.find?_cons, String.reduceEq, decide_false, decide_true,
    Option.map_some, QJsonValue.isString, QJsonValue.isArray, QJsonValue.isBool]

def serializeStore (devices : List StoredDevice) : StoreFile :=
  .document (.object [("schemaVersion", .double (some kTrustedDeviceStoreSchemaVersion)),
    ("devices", .array (devices.map toJson))])

end Documents

structure StoreFiles where
  primary : Option StoreFile := none
  backup : Option StoreFile := none

/-- How a `QSaveFile` fails; the file stays as it was. -/
inductive WriteFault where
  | mkpath (directory : QString)
  | openFile (errorString : QString)
  | write (errorString : QString)
  | commit (errorString : QString)

def WriteFault.diagnostic : WriteFault → QString
  | .mkpath directory =>
    QString.literal "could not create trusted device store directory: " ++ directory
  | .openFile errorString =>
    QString.literal "could not open trusted device store for writing: " ++ errorString
  | .write errorString => QString.literal "could not write trusted device store: " ++ errorString
  | .commit errorString =>
    QString.literal "could not atomically commit trusted device store: " ++ errorString

inductive TrustedDeviceLoadSource where
  | empty
  | primary
  | backup

structure TrustedDeviceStoreResult where
  ok : Bool := false
  source : TrustedDeviceLoadSource := .empty
  diagnostic : QString := []

/-- `m_path`'s two spellings and `m_devices`, a hash by identifier. -/
structure DeviceStore where
  path : QString := []
  devices : List StoredDevice := []
  deriving DecidableEq

namespace DeviceStore

def backupPath (store : DeviceStore) : QString := store.path ++ QString.literal ".bak"

def trusted (store : DeviceStore) : TrustedDeviceStore :=
  store.devices.map StoredDevice.toTrustedDevice

def find (store : DeviceStore) (deviceId : DeviceId) : Option StoredDevice :=
  store.devices.find? (·.deviceId = deviceId)

/-- `devices()`: sorted by the identifiers' text. -/
def sortedDevices (store : DeviceStore) : List StoredDevice :=
  store.devices.mergeSort fun left right => left.deviceId.toString ≤ right.deviceId.toString

section

variable (qt : QtText) (hostAddress : QString → Option QString)

def upsert (device : StoredDevice) (store : DeviceStore) : Except QString DeviceStore :=
  match validateAndNormalize qt hostAddress device with
  | .error diagnostic => .error diagnostic
  | .ok device =>
    .ok { store with devices := device :: store.devices.filter (·.deviceId ≠ device.deviceId) }

/-- `revoke`, and whether the device was there. -/
def revoke (deviceId : DeviceId) (store : DeviceStore) : Bool × DeviceStore :=
  ((store.find deviceId).isSome,
    { store with
      devices := store.devices.map fun device =>
        if device.deviceId = deviceId then { device with revoked := true, autoAcceptFiles := false }
        else device })

def remove (deviceId : DeviceId) (store : DeviceStore) : Bool × DeviceStore :=
  (store.devices.any (·.deviceId = deviceId),
    { store with devices := store.devices.filter (·.deviceId ≠ deviceId) })

/-- `readStore` on a file that exists. -/
def readStore (path : QString) (openFault : Option QString) (file : StoreFile) :
    Except QString (List StoredDevice) :=
  match openFault with
  | some errorString =>
    .error (QString.literal "could not open trusted device store " ++ path ++ QString.literal ": "
      ++ errorString)
  | none => parseStore qt hostAddress file

def readFile (path : QString) (openFault : Option QString) (missing : String) :
    Option StoreFile → Except QString (List StoredDevice)
  | some file => readStore qt hostAddress path openFault file
  | none => .error (QString.literal missing)

def load (primaryFault backupFault : Option QString) (files : StoreFiles) (store : DeviceStore) :
    TrustedDeviceStoreResult × DeviceStore :=
  let cleared := { store with devices := [] }
  if files.primary.isNone ∧ files.backup.isNone then ({ ok := true, source := .empty }, cleared)
  else
    match readFile qt hostAddress store.path primaryFault
      "primary trusted device store is missing" files.primary with
    | .ok devices => ({ ok := true, source := .primary }, { store with devices })
    | .error primaryDiagnostic =>
      match readFile qt hostAddress store.backupPath backupFault
        "backup trusted device store is missing" files.backup with
      | .ok devices =>
        ({ ok := true, source := .backup
           diagnostic := QString.literal "recovered trusted devices from backup after: "
             ++ primaryDiagnostic }, { store with devices })
      | .error backupDiagnostic =>
        ({ ok := false, source := .empty
           diagnostic := QString.literal "trusted device store and backup are unusable: "
             ++ primaryDiagnostic ++ QString.literal "; " ++ backupDiagnostic }, cleared)

/-- The primary file is written first; a failure of the backup alone is no failure. -/
def save (primaryFault backupFault : Option WriteFault) (files : StoreFiles) (store : DeviceStore) :
    TrustedDeviceStoreResult × StoreFiles :=
  let contents := serializeStore store.sortedDevices
  match primaryFault with
  | some fault => ({ ok := false, diagnostic := fault.diagnostic }, files)
  | none =>
    match backupFault with
    | some fault =>
      ({ ok := true, source := .primary
         diagnostic := QString.literal "backup degraded after primary store save: "
           ++ fault.diagnostic }, { files with primary := some contents })
    | none => ({ ok := true, source := .primary },
        { primary := some contents, backup := some contents })

end

end DeviceStore

def DeviceStore.Pins (store : DeviceStore) (deviceId : DeviceId) (fingerprintSha256 : QByteArray) :
    Prop :=
  store.trusted.trustStatus deviceId fingerprintSha256 = .trusted

instance (store : DeviceStore) (deviceId : DeviceId) (fingerprintSha256 : QByteArray) :
    Decidable (store.Pins deviceId fingerprintSha256) :=
  inferInstanceAs (Decidable (_ = _))

section Pins

variable {qt : QtText} {hostAddress : QString → Option QString}

variable {device : StoredDevice}

theorem toTrustedDevice_of_validateAndNormalize {normalized : StoredDevice}
    (h : validateAndNormalize qt hostAddress device = .ok normalized) :
    normalized.toTrustedDevice = device.toTrustedDevice ∧
      device.fingerprintSha256.length = kSha256FingerprintBytes := by
  unfold validateAndNormalize at h
  split_ifs at h with hlength
  split at h
  · cases h
  · cases h
    exact ⟨rfl, not_not.mp hlength⟩

variable {deviceId : DeviceId} {fingerprintSha256 : QByteArray}

theorem TrustedDeviceStore.trustStatus_eq_trusted {store : TrustedDeviceStore} :
    store.trustStatus deviceId fingerprintSha256 = .trusted ↔
      ∃ device, store.find deviceId = some device ∧ device.revoked = false ∧
        fingerprintSha256.length = kSha256FingerprintBytes ∧
        fingerprintSha256 = device.fingerprintSha256 := by
  unfold trustStatus
  cases store.find deviceId with
  | none => exact ⟨nofun, fun ⟨_, h, _⟩ => absurd h nofun⟩
  | some device =>
    dsimp only
    split_ifs with hrevoked hmismatch
    · refine ⟨nofun, ?_⟩
      rintro ⟨other, hother, hvalid, -⟩
      obtain rfl := Option.some.inj hother
      exact absurd (hrevoked.symm.trans hvalid) nofun
    · refine ⟨nofun, ?_⟩
      rintro ⟨other, hother, -, hlength, hsame⟩
      obtain rfl := Option.some.inj hother
      exact absurd hmismatch (not_or.mpr ⟨not_not_intro hlength, not_not_intro hsame⟩)
    · obtain ⟨hlength, hsame⟩ := not_or.mp hmismatch
      exact ⟨fun _ => ⟨device, rfl, eq_false_of_ne_true hrevoked, not_not.mp hlength,
        not_not.mp hsame⟩, fun _ => rfl⟩

variable {store next : DeviceStore}

theorem DeviceStore.find_of_upsert (h : store.upsert qt hostAddress device = .ok next)
    (deviceId : DeviceId) :
    next.trusted.find deviceId =
      if deviceId = device.deviceId then some device.toTrustedDevice
      else store.trusted.find deviceId := by
  unfold DeviceStore.upsert at h
  split at h
  · cases h
  rename_i normalized hnormalized
  cases h
  have hsame := (toTrustedDevice_of_validateAndNormalize hnormalized).1
  unfold DeviceStore.trusted TrustedDeviceStore.find
  rw [List.map_cons, List.find?_cons, hsame]
  by_cases hdevice : deviceId = device.deviceId
  · rw [if_pos hdevice, decide_eq_true hdevice.symm]
  · rw [if_neg hdevice, decide_eq_false (Ne.symm hdevice)]
    dsimp only
    rw [List.find?_map, List.find?_map, List.find?_filter]
    refine congrArg (Option.map StoredDevice.toTrustedDevice)
      (congrArg (List.find? · store.devices) (funext fun other => ?_))
    have hkept : other.deviceId = deviceId → other.deviceId ≠ device.deviceId :=
      fun hother heq => hdevice (hother.symm.trans heq)
    simpa [Function.comp] using hkept

theorem DeviceStore.pins_of_upsert (h : store.upsert qt hostAddress device = .ok next)
    (hpins : next.Pins deviceId fingerprintSha256) :
    store.Pins deviceId fingerprintSha256 ∨
      deviceId = device.deviceId ∧ fingerprintSha256 = device.fingerprintSha256 := by
  obtain ⟨found, hfound, hvalid, hlength, hsame⟩ :=
    TrustedDeviceStore.trustStatus_eq_trusted.mp hpins
  rw [DeviceStore.find_of_upsert h] at hfound
  by_cases hdevice : deviceId = device.deviceId
  · rw [if_pos hdevice] at hfound
    obtain rfl := Option.some.inj hfound
    exact .inr ⟨hdevice, hsame⟩
  · rw [if_neg hdevice] at hfound
    exact .inl (TrustedDeviceStore.trustStatus_eq_trusted.mpr
      ⟨found, hfound, hvalid, hlength, hsame⟩)

theorem DeviceStore.pins_upsert (h : store.upsert qt hostAddress device = .ok next)
    (hvalid : device.revoked = false) :
    next.Pins device.deviceId device.fingerprintSha256 := by
  refine TrustedDeviceStore.trustStatus_eq_trusted.mpr ⟨device.toTrustedDevice, ?_, hvalid, ?_, rfl⟩
  · rw [DeviceStore.find_of_upsert h, if_pos rfl]
  · unfold DeviceStore.upsert at h
    split at h
    · cases h
    · rename_i normalized hnormalized
      exact (toTrustedDevice_of_validateAndNormalize hnormalized).2

theorem DeviceStore.pins_of_revoke {revoked : DeviceId}
    (hpins : (store.revoke revoked).2.Pins deviceId fingerprintSha256) :
    store.Pins deviceId fingerprintSha256 := by
  obtain ⟨found, hfound, hvalid, hlength, hsame⟩ :=
    TrustedDeviceStore.trustStatus_eq_trusted.mp hpins
  unfold DeviceStore.revoke DeviceStore.trusted TrustedDeviceStore.find at hfound
  rw [List.map_map, List.find?_map] at hfound
  obtain ⟨device, hdevice, rfl⟩ := Option.map_eq_some_iff.mp hfound
  have hkept : device.deviceId ≠ revoked := by
    intro hrevoked
    dsimp only [Function.comp] at hvalid
    rw [if_pos hrevoked] at hvalid
    cases hvalid
  refine TrustedDeviceStore.trustStatus_eq_trusted.mpr
    ⟨device.toTrustedDevice, ?_, ?_, hlength, ?_⟩
  · unfold DeviceStore.trusted TrustedDeviceStore.find
    rw [List.find?_map]
    refine Option.map_eq_some_iff.mpr ⟨device, .trans ?_ hdevice, rfl⟩
    refine congrArg (List.find? · store.devices) (funext fun other => ?_)
    dsimp only [Function.comp]
    split_ifs <;> rfl
  · dsimp only [Function.comp] at hvalid
    rwa [if_neg hkept] at hvalid
  · dsimp only [Function.comp] at hsame
    rwa [if_neg hkept] at hsame

theorem DeviceStore.pins_or_replaced (h : store.upsert qt hostAddress device = .ok next)
    (hvalid : device.revoked = false) (hpins : store.Pins deviceId fingerprintSha256) :
    next.Pins deviceId fingerprintSha256 ∨
      ∃ other, other ≠ fingerprintSha256 ∧ next.Pins deviceId other := by
  by_cases hdevice : deviceId = device.deviceId
  · subst hdevice
    have hentered := DeviceStore.pins_upsert h hvalid
    by_cases hsame : device.fingerprintSha256 = fingerprintSha256
    · exact .inl (hsame ▸ hentered)
    · exact .inr ⟨_, hsame, hentered⟩
  · obtain ⟨found, hfound, hrest⟩ := TrustedDeviceStore.trustStatus_eq_trusted.mp hpins
    refine .inl (TrustedDeviceStore.trustStatus_eq_trusted.mpr ⟨found, ?_, hrest⟩)
    rw [DeviceStore.find_of_upsert h, if_neg hdevice]
    exact hfound

theorem DeviceStore.pins_revoke_of_ne {revoked : DeviceId} (hother : revoked ≠ deviceId)
    (hpins : store.Pins deviceId fingerprintSha256) :
    (store.revoke revoked).2.Pins deviceId fingerprintSha256 := by
  obtain ⟨found, hfound, hrest⟩ := TrustedDeviceStore.trustStatus_eq_trusted.mp hpins
  refine TrustedDeviceStore.trustStatus_eq_trusted.mpr ⟨found, ?_, hrest⟩
  unfold DeviceStore.trusted TrustedDeviceStore.find at hfound
  rw [List.find?_map] at hfound
  obtain ⟨device, hdevice, rfl⟩ := Option.map_eq_some_iff.mp hfound
  have hid : device.deviceId = deviceId := by
    simpa using List.find?_some hdevice
  unfold DeviceStore.revoke DeviceStore.trusted TrustedDeviceStore.find
  rw [List.map_map, List.find?_map]
  refine Option.map_eq_some_iff.mpr ⟨device, .trans ?_ hdevice, ?_⟩
  · refine congrArg (List.find? · store.devices) (funext fun other => ?_)
    dsimp only [Function.comp]
    split_ifs <;> rfl
  · dsimp only [Function.comp]
    rw [if_neg fun heq => hother (heq.symm.trans hid)]

end Pins

end DeskflowPlus.Trust
