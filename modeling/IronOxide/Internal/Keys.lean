import IronOxide.Internal.Validate

/-!
# Keys, device contexts and the `recrypt` capability

The key types of `src/internal/mod.rs` are wrappers around `recrypt` values; here each is the
byte encoding the code reads from it. `recrypt` itself (key generation, transform keys, Schnorr
signatures) is an interface over a random state `σ`: each call draws from the state and leaves
the next one.
-/

namespace IronOxide

/-! ## 1. Keys -/

/-- `PublicKey`: the two 32-byte coordinates of a `recrypt` public key. -/
structure PublicKey where
  x : ByteArr 32
  y : ByteArr 32
deriving DecidableEq, Repr

/-- `PublicKey::as_bytes`: `x ‖ y`. -/
def PublicKey.asBytes (k : PublicKey) : List UInt8 := k.x.toList ++ k.y.toList

/-- `PrivateKey`: the 32 bytes of a `recrypt` private key (`PrivateKey::as_bytes`). -/
structure PrivateKey where
  bytes : ByteArr 32
deriving DecidableEq, Repr

/-- `KeyPair`: a public and a private key from one key generation. -/
structure KeyPair where
  publicKey : PublicKey
  privateKey : PrivateKey
deriving DecidableEq, Repr

/-- `TransformKey`, as its `Hashable::to_bytes` encoding. -/
structure TransformKey where
  toBytes : List UInt8
deriving DecidableEq, Repr

/-- `SchnorrSignature`: 64 bytes. -/
structure SchnorrSignature where
  bytes : ByteArr 64
deriving DecidableEq, Repr

/-- `DeviceSigningKeyPair`: the 64 bytes of an Ed25519 signing key pair. -/
structure DeviceSigningKeyPair where
  bytes : ByteArr 64
deriving DecidableEq, Repr

/-- The augmentation factor `recrypt` returns with an augmented private key. -/
structure AugmentationFactor where
  bytes : ByteArr 32
deriving DecidableEq, Repr

/-- `DateTime<Utc>`: seconds since the epoch and the nanoseconds past that second (beyond
`10^9` only in a leap second). -/
structure DateTime where
  timestamp : Int
  subsecNanos : Nat
  subsecNanos_lt : subsecNanos < 2000000000
deriving DecidableEq, Repr

/-- `DateTime::timestamp_millis`. -/
def DateTime.timestampMillis (t : DateTime) : Int :=
  t.timestamp * 1000 + (t.subsecNanos / 1000000 : Nat)

/-! ## 2. Request authorization and device contexts -/

/-- `IronCoreRequest`: the base URL requests go to. -/
structure IronCoreRequest where
  baseUrl : String
deriving DecidableEq, Repr

/-- `OUR_REQUEST` (without the `senv` feature). -/
def ourRequest : IronCoreRequest := ⟨"https://api.ironcorelabs.com/api/1/"⟩

/-- `RequestAuth`. -/
structure RequestAuth where
  accountId : UserId
  segmentId : Nat
  signingKeys : DeviceSigningKeyPair
  request : IronCoreRequest
deriving DecidableEq, Repr

/-- `DeviceContext`: the request authorization and the device's private key. -/
structure DeviceContext where
  auth : RequestAuth
  privateDeviceKey : PrivateKey
deriving DecidableEq, Repr

/-- `DeviceContext::new`. -/
def DeviceContext.new (accountId : UserId) (segmentId : Nat) (privateDeviceKey : PrivateKey)
    (signingKeys : DeviceSigningKeyPair) : DeviceContext :=
  { auth := { accountId, segmentId, signingKeys, request := ⟨ourRequest.baseUrl⟩ }
    privateDeviceKey }

/-- `DeviceContext::account_id`. -/
def DeviceContext.accountId (d : DeviceContext) : UserId := d.auth.accountId

/-- `DeviceContext::segment_id`. -/
def DeviceContext.segmentId (d : DeviceContext) : Nat := d.auth.segmentId

/-- `DeviceContext::signing_keys`. -/
def DeviceContext.signingKeys (d : DeviceContext) : DeviceSigningKeyPair := d.auth.signingKeys

/-- `WithKey<T>`: an id and a public key. -/
structure WithKey (α : Type) where
  id : α
  publicKey : PublicKey
deriving DecidableEq, Repr

/-! ## 3. The `recrypt` capability -/

/-- The `recrypt` calls the code makes, over the random state `σ` they draw from, and
`augment_private_key_with_retry`, which the code calls but the sources do not contain. -/
structure Recrypt (σ : Type) where
  /-- `generate_key_pair`: a private and a public key. -/
  generateKeyPair : σ → Except RecryptErr (PrivateKey × PublicKey) × σ
  /-- `generate_ed25519_key_pair`. -/
  generateEd25519KeyPair : σ → DeviceSigningKeyPair × σ
  /-- `generate_transform_key(from_private_key, to_public_key, signing_keypair)`. -/
  generateTransformKey : PrivateKey → PublicKey → DeviceSigningKeyPair → σ →
    Except RecryptErr TransformKey × σ
  /-- `schnorr_sign(private_key, public_key, message)`, over the message's `to_bytes`. -/
  schnorrSign : PrivateKey → PublicKey → List UInt8 → σ → SchnorrSignature × σ
  /-- `augment_private_key_with_retry(recrypt, private_key)`: the augmented key and its
  factor. -/
  augmentPrivateKeyWithRetry : PrivateKey → σ →
    Except IronOxideErr (PrivateKey × AugmentationFactor) × σ

/-- A `recrypt` that keeps no state: all-zero keys and signatures, an empty transform key, and an
augmentation that keeps the key. -/
def Recrypt.zeros : Recrypt Unit where
  generateKeyPair _ := (.ok (⟨.zero 32⟩, ⟨.zero 32, .zero 32⟩), ())
  generateEd25519KeyPair _ := (⟨.zero 64⟩, ())
  generateTransformKey _ _ _ _ := (.ok ⟨[]⟩, ())
  schnorrSign _ _ _ _ := (⟨.zero 64⟩, ())
  augmentPrivateKeyWithRetry key _ := (.ok (key, ⟨.zero 32⟩), ())

end IronOxide
