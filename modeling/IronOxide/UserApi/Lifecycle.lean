import IronOxide.UserApi.Backend

/-!
# The key-lifecycle calls of `user_api.rs`

`user_create`, `user_rotate_private_key` and `generate_device_key`, with the helpers
`generate_device_add` and `gen_device_add_signature`. Each call is a sequence of local steps
(key generation, sealing, unsealing, decoding, validation) around the requests it sends; a `?`
on a local step ends the call with that step's error, converted through `From`.
-/

namespace IronOxide

/-! ## 1. Results -/

/-- `DeviceAddResult`. -/
structure DeviceAddResult where
  accountId : UserId
  segmentId : Nat
  devicePrivateKey : PrivateKey
  signingPrivateKey : DeviceSigningKeyPair
  deviceId : DeviceId
  name : Option DeviceName
  created : DateTime
  lastUpdated : DateTime
deriving DecidableEq, Repr

/-- `From<DeviceAddResult> for DeviceContext`. -/
def DeviceContext.ofDeviceAddResult (dar : DeviceAddResult) : DeviceContext :=
  DeviceContext.new dar.accountId dar.segmentId dar.devicePrivateKey dar.signingPrivateKey

/-- The bytes `SignedMessage::to_bytes` hashes: the decimal `timestamp_millis`, the transform
key's bytes, the JWT's bytes and the user's public key `x ‖ y`. -/
def signedMessageToBytes (timestamp : DateTime) (transformKey : TransformKey) (jwt : Jwt)
    (userPublicKey : PublicKey) : List UInt8 :=
  asBytes (toString timestamp.timestampMillis) ++ transformKey.toBytes ++ jwt.toUtf8 ++
    userPublicKey.asBytes

/-! ## 2. The calls -/

section Calls

variable {σ δ : Type} (aead : Aead) (pbkdf2 : Pbkdf2) (rng : Rng σ) (recrypt : Recrypt σ)
  (backend : Backend δ) (publicKeyTryFrom : WirePublicKey → Except IronOxideErr PublicKey)

/-- `user_create`: generate a key pair, seal its private key under the passphrase, and send the
public key and the sealed key. -/
def userCreate (jwt : Jwt) (passphrase : Password) (needsRotation : Bool)
    (request : IronCoreRequest) : Call σ UserCreateResult := do
  let (recryptPriv, recryptPub) ←
    onRng ((RustM.drawExcept recrypt.generateKeyPair).mapErr IronOxideErr.ofRecryptErr)
  let encryptedPrivKey ← onRng ((encryptUserMasterKey aead pbkdf2 rng passphrase.password
    recryptPriv.bytes).mapErr IronOxideErr.ofUnspecified)
  send (.userCreate jwt recryptPub encryptedPrivKey needsRotation request)
    (backend.userCreate jwt recryptPub encryptedPrivKey needsRotation request)

/-- `user_rotate_private_key`: fetch the current user, unseal its private key, augment it,
reseal the augmented key under the same password, and send it with the augmentation factor and
the current key id. -/
def userRotatePrivateKey (password : Password) (auth : RequestAuth) :
    Call σ UserUpdatePrivateKeyResult := do
  let resp ← send (.getCurrUser auth) (backend.getCurrUser auth)
  let encryptedPrivKey ← RustM.ofExcept (EncryptedMasterKey.newFromSlice resp.userPrivateKey)
  let privKey ← (RustM.ofFallible (decryptUserMasterKey aead pbkdf2 password.password
    encryptedPrivKey)).mapErr IronOxideErr.ofUnspecified
  let (newPrivKey, augFactor) ←
    onRng (RustM.drawExcept (recrypt.augmentPrivateKeyWithRetry ⟨privKey⟩))
  let newEncryptedPrivKey ← onRng ((encryptUserMasterKey aead pbkdf2 rng password.password
    newPrivKey.bytes).mapErr IronOxideErr.ofUnspecified)
  send (.updatePrivateKey auth resp.id resp.currentKeyId newEncryptedPrivKey augFactor)
    (backend.updatePrivateKey auth resp.id resp.currentKeyId newEncryptedPrivKey augFactor)

/-- `gen_device_add_signature`: the Schnorr signature, under the user's master key pair, over
`SignedMessage { timestamp, transform_key, jwt, user_public_key }`. -/
def genDeviceAddSignature (jwt : Jwt) (userMasterKeypair : KeyPair)
    (transformKey : TransformKey) (signingTs : DateTime) :
    RustM σ IronOxideErr SchnorrSignature :=
  RustM.draw (recrypt.schnorrSign userMasterKeypair.privateKey userMasterKeypair.publicKey
    (signedMessageToBytes signingTs transformKey jwt userMasterKeypair.publicKey))

/-- `generate_device_add`: a signing key pair and a device key pair, the transform key from the
user's private key to the device's public key, and the device-add signature. -/
def generateDeviceAdd (jwt : Jwt) (userMasterKeypair : KeyPair) (signingTs : DateTime) :
    RustM σ IronOxideErr DeviceAdd := do
  let signingKeypair ← RustM.draw recrypt.generateEd25519KeyPair
  let (recryptPrivKey, recryptPubKey) ←
    (RustM.drawExcept recrypt.generateKeyPair).mapErr IronOxideErr.ofRecryptErr
  let deviceKeypair : KeyPair := ⟨recryptPubKey, recryptPrivKey⟩
  let transKey ← (RustM.drawExcept (recrypt.generateTransformKey userMasterKeypair.privateKey
    deviceKeypair.publicKey signingKeypair)).mapErr IronOxideErr.ofRecryptErr
  let sig ← genDeviceAddSignature recrypt jwt userMasterKeypair transKey signingTs
  pure { userPublicKey := userMasterKeypair.publicKey, transformKey := transKey,
         deviceKeys := deviceKeypair, signingKeys := signingKeypair, signature := sig,
         signatureTs := signingTs }

/-- `generate_device_key`: verify the user, unseal the master private key, generate the
device's keys, validate the account id, send the device-add request, and return the new
device's keys with the server's answer. -/
def generateDeviceKey (jwt : Jwt) (password : Password) (deviceName : Option DeviceName)
    (signingTs : DateTime) (request : IronCoreRequest) : Call σ DeviceAddResult := do
  let verified ← send (.userVerify jwt request) (backend.userVerify jwt request)
  let resp ← match verified with
    | some resp => pure resp
    | none => throw (.err (.userDoesNotExist "Device cannot be added to a user that doesn't exist"))
  let userPublicKey ← RustM.ofExcept (publicKeyTryFrom resp.userMasterPublicKey)
  let encryptedPrivKey ← RustM.ofExcept (EncryptedMasterKey.newFromSlice resp.userPrivateKey)
  let userPrivateKey ← (RustM.ofFallible (decryptUserMasterKey aead pbkdf2 password.password
    encryptedPrivKey)).mapErr IronOxideErr.ofUnspecified
  let userKeypair : KeyPair := ⟨userPublicKey, ⟨userPrivateKey⟩⟩
  let deviceAdd ← onRng (generateDeviceAdd recrypt jwt userKeypair signingTs)
  let accountId ← RustM.ofExcept (UserId.tryFrom resp.id)
  let deviceAddResponse ← send (.userDeviceAdd jwt deviceAdd deviceName request)
    (backend.userDeviceAdd jwt deviceAdd deviceName request)
  pure { accountId, segmentId := resp.segmentId,
         devicePrivateKey := deviceAdd.deviceKeys.privateKey,
         signingPrivateKey := deviceAdd.signingKeys, deviceId := deviceAddResponse.deviceId,
         name := deviceAddResponse.name, created := deviceAddResponse.created,
         lastUpdated := deviceAddResponse.updated }

end Calls

end IronOxide
