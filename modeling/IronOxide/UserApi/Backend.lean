import IronOxide.Crypto.Aes
import IronOxide.Internal.Keys

/-!
# The backend the lifecycle calls talk to

The `requests` module of `user_api` is not in the sources: its calls are an interface
(`Backend`), answering each request with a response or an error. A lifecycle call runs over a
`World`: the random state its key generation and sealing draw from, and the list of requests it
has sent, in order. `send` appends the request before the answer is known, so a request sent is
recorded whether or not it succeeds.
-/

namespace IronOxide

/-! ## 1. What requests carry and what responses hold -/

/-- `DeviceAdd`: what `generate_device_add` produces for the device-add request. -/
structure DeviceAdd where
  userPublicKey : PublicKey
  transformKey : TransformKey
  deviceKeys : KeyPair
  signingKeys : DeviceSigningKeyPair
  signature : SchnorrSignature
  signatureTs : DateTime
deriving DecidableEq, Repr

/-- A public key as the backend sends it, before `PublicKey::try_from` decodes it. -/
structure WirePublicKey where
  x : List UInt8
  y : List UInt8
deriving DecidableEq, Repr

/-- The fields of the user-verify response that `generate_device_key` reads. -/
structure UserVerifyResponse where
  id : String
  segmentId : Nat
  userPrivateKey : List UInt8
  userMasterPublicKey : WirePublicKey
deriving DecidableEq, Repr

/-- The fields of the current-user response that `user_get_current` and
`user_rotate_private_key` read. -/
structure CurrentUserResponse where
  id : UserId
  segmentId : Nat
  userMasterPublicKey : WirePublicKey
  userPrivateKey : List UInt8
  needsRotation : Bool
  currentKeyId : UInt64
deriving DecidableEq, Repr

/-- The device-add response. -/
structure DeviceAddResponse where
  deviceId : DeviceId
  name : Option DeviceName
  created : DateTime
  updated : DateTime
deriving DecidableEq, Repr

/-- The device-delete response: the id of the device deleted. -/
structure DeviceDeleteResponse where
  id : DeviceId
deriving DecidableEq, Repr

/-- One entry of the user-key-list response. -/
structure UserKeyListEntry where
  id : String
  userMasterPublicKey : WirePublicKey
deriving DecidableEq, Repr

/-- `UserResult`. -/
structure UserResult where
  accountId : UserId
  segmentId : Nat
  userPublicKey : PublicKey
  needsRotation : Bool
deriving DecidableEq, Repr

/-- `UserCreateResult`. -/
structure UserCreateResult where
  userPublicKey : PublicKey
  needsRotation : Bool
deriving DecidableEq, Repr

/-- `UserUpdatePrivateKeyResult`. -/
structure UserUpdatePrivateKeyResult where
  userMasterPrivateKey : List UInt8
  needsRotation : Bool
deriving DecidableEq, Repr

/-! ## 2. Requests and the backend -/

/-- A request sent to the backend, with what it carries. The sealed keys are the
`EncryptedMasterKey` values the code converts with `.into()` for the request. -/
inductive Request where
  | userVerify (jwt : Jwt) (request : IronCoreRequest)
  | userCreate (jwt : Jwt) (userPublicKey : PublicKey) (encryptedPrivateKey : EncryptedMasterKey)
      (needsRotation : Bool) (request : IronCoreRequest)
  | getCurrUser (auth : RequestAuth)
  | updatePrivateKey (auth : RequestAuth) (userId : UserId) (currentKeyId : UInt64)
      (newEncryptedPrivateKey : EncryptedMasterKey) (augmentationFactor : AugmentationFactor)
  | userDeviceAdd (jwt : Jwt) (deviceAdd : DeviceAdd) (deviceName : Option DeviceName)
      (request : IronCoreRequest)
  | userKeyList (auth : RequestAuth) (userIds : List UserId)
  | deviceList (auth : RequestAuth)
  | deviceDelete (auth : RequestAuth) (deviceId : DeviceId)
  | deviceDeleteCurrent (auth : RequestAuth)
deriving DecidableEq, Repr

/-- The backend's answers, one per request; `δ` is the type of a device-list entry. The
conversion of a response into the call's result (`try_into()` / `into()`) is part of the
answer. -/
structure Backend (δ : Type) where
  userVerify : Jwt → IronCoreRequest → Except IronOxideErr (Option UserVerifyResponse)
  userCreate : Jwt → PublicKey → EncryptedMasterKey → Bool → IronCoreRequest →
    Except IronOxideErr UserCreateResult
  getCurrUser : RequestAuth → Except IronOxideErr CurrentUserResponse
  updatePrivateKey : RequestAuth → UserId → UInt64 → EncryptedMasterKey → AugmentationFactor →
    Except IronOxideErr UserUpdatePrivateKeyResult
  userDeviceAdd : Jwt → DeviceAdd → Option DeviceName → IronCoreRequest →
    Except IronOxideErr DeviceAddResponse
  userKeyList : RequestAuth → List UserId → Except IronOxideErr (List UserKeyListEntry)
  deviceList : RequestAuth → Except IronOxideErr (List δ)
  deviceDelete : RequestAuth → DeviceId → Except IronOxideErr DeviceDeleteResponse
  deviceDeleteCurrent : RequestAuth → Except IronOxideErr DeviceDeleteResponse

/-- A backend holding one user, `"u"` in segment 1, whose escrow record is 92 zero bytes; it
accepts every request, lists no keys and no devices, and answers a delete with device 1. -/
def Backend.oneUser : Backend Unit where
  userVerify _ _ := .ok (some ⟨"u", 1, List.replicate 92 0, ⟨[], []⟩⟩)
  userCreate _ userPublicKey _ needsRotation _ := .ok ⟨userPublicKey, needsRotation⟩
  getCurrUser auth := .ok ⟨auth.accountId, 1, ⟨[], []⟩, List.replicate 92 0, false, 1⟩
  updatePrivateKey _ _ _ _ _ := .ok ⟨[], false⟩
  userDeviceAdd _ _ name _ := .ok ⟨⟨1⟩, name, ⟨0, 0, by decide⟩, ⟨0, 0, by decide⟩⟩
  userKeyList _ _ := .ok []
  deviceList _ := .ok []
  deviceDelete _ _ := .ok ⟨⟨1⟩⟩
  deviceDeleteCurrent _ := .ok ⟨⟨1⟩⟩

/-- The one-user backend with an empty escrow record, from which `new_from_slice` splits no
sealed key. -/
def Backend.emptyEscrow : Backend Unit :=
  { Backend.oneUser with
    getCurrUser := fun auth => .ok ⟨auth.accountId, 1, ⟨[], []⟩, [], false, 1⟩ }

/-! ## 3. Calls over a world -/

/-- The state a lifecycle call runs over. -/
structure World (σ : Type) where
  rng : σ
  sent : List Request

/-- A lifecycle call. -/
abbrev Call (σ α : Type) := RustM (World σ) IronOxideErr α

variable {σ α : Type}

/-- Run a local step that draws from the random state; it sends nothing. -/
def onRng (x : RustM σ IronOxideErr α) : Call σ α :=
  RustM.focus World.rng (fun w r => { w with rng := r }) x

/-- The world once `req` has been sent. -/
def World.record (w : World σ) (req : Request) : World σ := { w with sent := w.sent ++ [req] }

@[simp] theorem World.record_sent (w : World σ) (req : Request) :
    (w.record req).sent = w.sent ++ [req] := rfl

@[simp] theorem World.record_rng (w : World σ) (req : Request) : (w.record req).rng = w.rng := rfl

/-- Send a request and await the backend's answer. -/
def send (req : Request) (answer : Except IronOxideErr α) : Call σ α := fun w =>
  match answer with
  | .ok a => .ok a (w.record req)
  | .error e => .error (.err e) (w.record req)

theorem onRng_ok {x : RustM σ IronOxideErr α} {w : World σ} {a : α} {s : σ}
    (h : x w.rng = .ok a s) : onRng x w = .ok a { w with rng := s } := by
  simp only [onRng, RustM.focus, h]

theorem onRng_error {x : RustM σ IronOxideErr α} {w : World σ} {f : Fault IronOxideErr} {s : σ}
    (h : x w.rng = .error f s) : onRng x w = .error f { w with rng := s } := by
  simp only [onRng, RustM.focus, h]

theorem send_ok {req : Request} {answer : Except IronOxideErr α} {a : α} (h : answer = .ok a)
    (w : World σ) : send req answer w = .ok a (w.record req) := by
  simp only [send, h]

theorem send_error {req : Request} {answer : Except IronOxideErr α} {e : IronOxideErr}
    (h : answer = .error e) (w : World σ) : send req answer w = .error (.err e) (w.record req) := by
  simp only [send, h]

theorem send_sent (req : Request) (answer : Except IronOxideErr α) (w : World σ) :
    (RustM.stateAfter (send req answer w)).sent = w.sent ++ [req] := by
  cases answer <;> rfl

theorem send_noPanic (req : Request) (answer : Except IronOxideErr α) :
    (send req answer : Call σ α).NoPanic := by
  intro w w'
  cases answer <;> exact nofun

theorem RustM.NoPanic.onRng {x : RustM σ IronOxideErr α} (hx : x.NoPanic) : (onRng x).NoPanic :=
  hx.focus

/-- A call that sends `req` and then runs a local step records `req`, whatever either answers. -/
theorem send_bind_sent {β : Type} (req : Request) (answer : Except IronOxideErr α)
    (f : α → RustM (World σ) IronOxideErr β) (hf : ∀ a w, RustM.stateAfter (f a w) = w)
    (w : World σ) : (RustM.stateAfter ((send req answer >>= f) w)).sent = w.sent ++ [req] := by
  cases answer with
  | ok a => rw [RustM.bind_apply_ok (send_ok rfl w), hf, World.record_sent]
  | error e => rw [RustM.bind_apply_error (send_error rfl w)]; rfl

end IronOxide
