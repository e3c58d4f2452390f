import DeskflowPlus.Transfer.QtTypes

/-!
# The trusted devices and the pinning of a TLS peer

Pairing enters a device with the fingerprint of its certificate. A connection only reads the entry:
its peer is trusted when the device is there, not revoked, and under exactly this fingerprint.
-/

namespace DeskflowPlus.Trust

open Transfer

def kSha256FingerprintBytes : Nat := 32

structure TrustedDevice where
  deviceId : DeviceId
  fingerprintSha256 : QByteArray
  revoked : Bool := false
  deriving DecidableEq

inductive TrustStatus where
  | unknown
  | trusted
  | revoked
  | fingerprintMismatch
  deriving DecidableEq

abbrev TrustedDeviceStore := List TrustedDevice

namespace TrustedDeviceStore

def find (store : TrustedDeviceStore) (deviceId : DeviceId) : Option TrustedDevice :=
  store.find? fun device => device.deviceId = deviceId

def trustStatus (store : TrustedDeviceStore) (deviceId : DeviceId)
    (fingerprintSha256 : QByteArray) : TrustStatus :=
  match store.find deviceId with
  | none => .unknown
  | some device =>
    if device.revoked then .revoked
    else if fingerprintSha256.length ≠ kSha256FingerprintBytes ∨
        fingerprintSha256 ≠ device.fingerprintSha256 then .fingerprintMismatch
    else .trusted

end TrustedDeviceStore

inductive PeerPinningError where
  | none
  | unknownPeer
  | revokedPeer
  | fingerprintChanged
  | deviceIdMismatch
  | unauthenticatedPeer
  deriving DecidableEq

structure PeerPinningResult where
  error : PeerPinningError := .none
  diagnostic : String := ""

def PeerPinningResult.ok (result : PeerPinningResult) : Bool := result.error = .none

def TlsPeerPinningPolicy.verify (store : TrustedDeviceStore) (peerDeviceId : DeviceId)
    (presentedFingerprintSha256 : QByteArray) : PeerPinningResult :=
  match store.trustStatus peerDeviceId presentedFingerprintSha256 with
  | .trusted => {}
  | .unknown => { error := .unknownPeer, diagnostic := "TLS peer device is not paired" }
  | .revoked => { error := .revokedPeer, diagnostic := "TLS peer trust was revoked" }
  | .fingerprintMismatch =>
    { error := .fingerprintChanged, diagnostic := "TLS peer certificate fingerprint changed" }

theorem TlsPeerPinningPolicy.ne_nil_of_ok {store : TrustedDeviceStore} {peerDeviceId : DeviceId}
    {presentedFingerprintSha256 : QByteArray}
    (h : (verify store peerDeviceId presentedFingerprintSha256).ok = true) :
    presentedFingerprintSha256 ≠ [] := by
  rintro rfl
  have hstatus : store.trustStatus peerDeviceId [] ≠ .trusted := by
    unfold TrustedDeviceStore.trustStatus
    split
    · nofun
    split
    · nofun
    rw [if_pos (.inl (by simp [kSha256FingerprintBytes]))]
    nofun
  unfold verify at h
  cases hcase : store.trustStatus peerDeviceId [] with
  | trusted => exact hstatus hcase
  | _ =>
    rw [hcase] at h
    cases h

end DeskflowPlus.Trust
