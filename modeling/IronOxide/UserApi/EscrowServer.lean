import IronOxide.UserApi.Session

/-!
# Sessions against the escrow server

The server escrows the user's master private key sealed under the user's password: the doc of
`UserCreateResult` says that the escrowed keys are unlocked by the password given to
`user_create`. The server is not in the sources. `Backend.serving` and `Backend.keep` state what
the lifecycle calls rely on, as the environment they run in: the server holds the sealed key of
the last create or update request it accepted, and returns it in its current-user and verify
answers. A session against it is a session whose server reads the log (`Backend.escrow`); the
calls are the code's own.

What one call may do to the record is the abstract escrow, `Op.EscrowStep`: only a create or a
rotation whose write the server accepted replaces it, a create by the sealed private half of the
key pair it drew, a rotation by the sealed augmentation, drawn by the call, of the key the record
it read unseals to; every other call leaves it as it was. Each call against the server takes such
a step from the random state it starts in (`Op.escrowStep`), so every call of every session does
(`escrowSession_callStep`). From any first record, a session whose writes seal under one password
ends with the record it started with or with one that unseals under that password
(`escrowSession_neverLocksOut`). The write a rotation or a device add sends is built from the key
the server holds and the server's own answers (`lifecycle_usesEscrowedKey`).
-/

namespace IronOxide

variable {σ δ : Type}

/-! ## 1. The escrow server -/

/-- The backend of a server holding `record`, the user's escrowed private key: its current-user
and verify answers carry `record`, and every other answer is `base`'s. -/
def Backend.serving (base : Backend δ) (record : List UInt8) : Backend δ :=
  { base with
    getCurrUser := fun auth =>
      (base.getCurrUser auth).map fun resp => { resp with userPrivateKey := record }
    userVerify := fun jwt request =>
      (base.userVerify jwt request).map
        (Option.map fun resp => { resp with userPrivateKey := record }) }

/-- The record the server holds once it has received `req`: the sealed key of a create or an
update request it accepted, as `EncryptedMasterKey::bytes`; otherwise the record it held. -/
def Backend.keep (base : Backend δ) (record : List UInt8) : Request → List UInt8
  | .userCreate jwt userPublicKey emk needsRotation request =>
    match base.userCreate jwt userPublicKey emk needsRotation request with
    | .ok _ => emk.bytes.toList
    | .error _ => record
  | .updatePrivateKey auth userId currentKeyId emk augmentationFactor =>
    match base.updatePrivateKey auth userId currentKeyId emk augmentationFactor with
    | .ok _ => emk.bytes.toList
    | .error _ => record
  | _ => record

/-- The record the server holds after the requests of `log`, from `record`. -/
def Backend.escrowAfter (base : Backend δ) (record : List UInt8) (log : List Request) :
    List UInt8 :=
  log.foldl base.keep record

/-- The escrow server over `base`, from `record`: on each log, the backend holding the record
the log's requests left. -/
def Backend.escrow (base : Backend δ) (record : List UInt8) (log : List Request) : Backend δ :=
  base.serving (base.escrowAfter record log)

/-- A session against the escrow server: each call runs against the record that the requests
sent before it left, from `record`. -/
def escrowSession (c : Client σ δ) (record : List UInt8) (ops : List Op) (w : World σ) :
    World σ :=
  runSession c (c.backend.escrow record) ops w

section Server

variable {base : Backend δ} {record : List UInt8}

/-- A current-user answer of the server is the base's, carrying the record. -/
theorem Backend.serving_getCurrUser {auth : RequestAuth} {resp : CurrentUserResponse}
    (h : (base.serving record).getCurrUser auth = .ok resp) :
    ∃ resp₀, base.getCurrUser auth = .ok resp₀ ∧
      resp = { resp₀ with userPrivateKey := record } := by
  cases hb : base.getCurrUser auth <;> simp only [Backend.serving, hb, Except.map] at h <;> cases h
  exact ⟨_, rfl, rfl⟩

/-- A verify answer of the server that finds the user is the base's, carrying the record. -/
theorem Backend.serving_userVerify {jwt : Jwt} {request : IronCoreRequest}
    {resp : UserVerifyResponse}
    (h : (base.serving record).userVerify jwt request = .ok (some resp)) :
    ∃ resp₀, base.userVerify jwt request = .ok (some resp₀) ∧
      resp = { resp₀ with userPrivateKey := record } := by
  rcases hb : base.userVerify jwt request with _ | _ | _ <;>
    simp only [Backend.serving, hb, Except.map, Option.map] at h <;> cases h
  exact ⟨_, rfl, rfl⟩

/-- The server keeps its record, or takes the sealed key of a create request it accepted. -/
theorem Backend.keep_userCreate (jwt : Jwt) (userPublicKey : PublicKey) (emk : EncryptedMasterKey)
    (needsRotation : Bool) (request : IronCoreRequest) :
    base.keep record (.userCreate jwt userPublicKey emk needsRotation request) = record ∨
      ∃ result, base.userCreate jwt userPublicKey emk needsRotation request = .ok result ∧
        base.keep record (.userCreate jwt userPublicKey emk needsRotation request) =
          emk.bytes.toList := by
  cases h : base.userCreate jwt userPublicKey emk needsRotation request <;> simp [Backend.keep, h]

/-- The server keeps its record, or takes the sealed key of an update request it accepted. -/
theorem Backend.keep_updatePrivateKey (auth : RequestAuth) (userId : UserId)
    (currentKeyId : UInt64) (emk : EncryptedMasterKey) (aug : AugmentationFactor) :
    base.keep record (.updatePrivateKey auth userId currentKeyId emk aug) = record ∨
      ∃ result, base.updatePrivateKey auth userId currentKeyId emk aug = .ok result ∧
        base.keep record (.updatePrivateKey auth userId currentKeyId emk aug) =
          emk.bytes.toList := by
  cases h : base.updatePrivateKey auth userId currentKeyId emk aug <;> simp [Backend.keep, h]

theorem Backend.escrowAfter_append (log b : List Request) :
    base.escrowAfter record (log ++ b) = b.foldl base.keep (base.escrowAfter record log) :=
  List.foldl_append _ _ _ _

end Server

/-! ## 2. What the record holds, and what one call may do to it -/

/-- The key `record` unseals to under `password`, read as `user_rotate_private_key` and
`generate_device_key` read it: split by `EncryptedMasterKey::new_from_slice`, then unsealed by
`decrypt_user_master_key`. -/
def Client.unseal (c : Client σ δ) (password : Password) (record : List UInt8) :
    Option (ByteArr 32) :=
  match EncryptedMasterKey.newFromSlice record with
  | .ok emk => (decryptUserMasterKey c.aead c.pbkdf2 password.password emk).toOption
  | .error _ => none

theorem Client.unseal_eq_some {c : Client σ δ} {password : Password} {record : List UInt8}
    {key : ByteArr 32} :
    c.unseal password record = some key ↔ ∃ emk, EncryptedMasterKey.newFromSlice record = .ok emk ∧
      decryptUserMasterKey c.aead c.pbkdf2 password.password emk = .ok key := by
  unfold Client.unseal
  cases EncryptedMasterKey.newFromSlice record with
  | error e => simp
  | ok emk =>
    cases hd : decryptUserMasterKey c.aead c.pbkdf2 password.password emk <;>
      simp [hd, Except.toOption]

/-- A call that splits and unseals the record under `password` gets the key it holds. -/
theorem Client.unseal_unique {c : Client σ δ} {password : Password} {record : List UInt8}
    {key key₀ : ByteArr 32} {emk : EncryptedMasterKey} (hr : c.unseal password record = some key)
    (hn : EncryptedMasterKey.newFromSlice record = .ok emk)
    (hd : decryptUserMasterKey c.aead c.pbkdf2 password.password emk = .ok key₀) : key₀ = key :=
  Option.some.inj ((Client.unseal_eq_some.mpr ⟨emk, hn, hd⟩).symm.trans hr)

/-- What one call, starting from the random state `s`, may do to the escrow record: the key
lifecycle seen from the escrow. A create may replace it, once the server accepted its write, by
the private half of the key pair `generate_key_pair` draws from `s`, sealed under the create's
passphrase; a rotation may replace it only when the record unseals under the rotation's password,
by the augmentation of that key that `augment_private_key_with_retry` draws from `s`, sealed
under the same password and accepted in an update carrying the current user's id and key id.
Every other call leaves the record as it was. -/
def Op.EscrowStep (c : Client σ δ) : Op → σ → List UInt8 → List UInt8 → Prop
  | .userCreate jwt passphrase needsRotation request, s, record, record' => record' = record ∨
    ∃ priv pub s₁ emk s₂ result, c.recrypt.generateKeyPair s = (.ok (priv, pub), s₁) ∧
      encryptUserMasterKey c.aead c.pbkdf2 c.rng passphrase.password priv.bytes s₁ =
        .ok emk s₂ ∧
      c.backend.userCreate jwt pub emk needsRotation request = .ok result ∧
      record' = emk.bytes.toList
  | .userRotatePrivateKey password auth, s, record, record' => record' = record ∨
    ∃ key resp newKey aug s₁ newEmk s₂ result, c.unseal password record = some key ∧
      c.backend.getCurrUser auth = .ok resp ∧
      c.recrypt.augmentPrivateKeyWithRetry ⟨key⟩ s = (.ok (newKey, aug), s₁) ∧
      encryptUserMasterKey c.aead c.pbkdf2 c.rng password.password newKey.bytes s₁ =
        .ok newEmk s₂ ∧
      c.backend.updatePrivateKey auth resp.id resp.currentKeyId newEmk aug = .ok result ∧
      record' = newEmk.bytes.toList
  | _, _, record, record' => record' = record

section Step

variable (c : Client σ δ) {r : List UInt8}

/-- One call against the server holding any record `r`: it adds a block to the log, and the
record the server holds after that block is one `Op.EscrowStep` from `r`, drawing from the random
state the call starts in. -/
theorem Op.escrowStep (op : Op) (w : World σ) :
    ∃ b, ((c.withBackend (c.backend.serving r)).run op w).sent = w.sent ++ b ∧
      op.EscrowStep c w.rng r (b.foldl c.backend.keep r) := by
  obtain ⟨b, hb, hsent⟩ := op.addsBlock (c.withBackend (c.backend.serving r)) w
  refine ⟨b, hsent, ?_⟩
  cases op with
  | userCreate jwt passphrase needsRotation request =>
    obtain rfl | ⟨_, _, _, rfl, -⟩ := hb
    · exact .inl rfl
    obtain ⟨priv, pub', s₁, emk', s₂, hk, he, hreq⟩ := userCreate_of_sent c.aead c.pbkdf2 c.rng
      c.recrypt (c.backend.serving r) hsent
    rw [hreq]
    exact (c.backend.keep_userCreate jwt pub' emk' needsRotation request).imp id
      fun ⟨result, hc, hkeep⟩ => ⟨priv, pub', s₁, emk', s₂, result, hk, he, hc, hkeep⟩
  | userRotatePrivateKey password auth =>
    obtain rfl | ⟨_, _, _, _, -, rfl, -⟩ := hb
    · exact .inl rfl
    obtain ⟨resp, emk, key, newKey, aug, s₁, newEmk, s₂, hg, hn, hd, ha, he, hreq⟩ :=
      userRotatePrivateKey_of_sent c.aead c.pbkdf2 c.rng c.recrypt (c.backend.serving r) hsent
    rw [hreq]
    -- the record the rotation read is `r`, and the key it augmented is the one `r` unseals to
    obtain ⟨resp₀, hg₀, rfl⟩ := Backend.serving_getCurrUser hg
    have hr : c.unseal password r = some key := Client.unseal_eq_some.mpr ⟨emk, hn, hd⟩
    exact (c.backend.keep_updatePrivateKey auth resp₀.id resp₀.currentKeyId newEmk aug).imp id
      fun ⟨result, hu, hkeep⟩ =>
        ⟨key, resp₀, newKey, aug, s₁, newEmk, s₂, result, hr, hg₀, ha, he, hu, hkeep⟩
  | generateDeviceKey => obtain rfl | ⟨_, _, -, -, -, rfl⟩ := hb <;> rfl
  | deviceDelete _ deviceId => subst hb; cases deviceId <;> rfl
  | getUserKeys => obtain ⟨-, rfl⟩ | ⟨-, rfl⟩ := hb <;> rfl
  | _ => subst hb; rfl

/-- Against the server holding `key` sealed under `password`, the write that a rotation or a
device add with `password` sends is built from `key` and the server's answers: the update carries
an augmentation of `key` resealed under `password` with the current user's id and key id, and the
device-add request carries a `DeviceAdd` that `generate_device_add` made from `key` and the public
key decoded from the verify answer. -/
theorem lifecycle_usesEscrowedKey (password : Password) {key : ByteArr 32}
    (hr : c.unseal password r = some key) (w : World σ) :
    (∀ auth req, ((c.withBackend (c.backend.serving r)).run (.userRotatePrivateKey password auth)
        w).sent = w.sent ++ [.getCurrUser auth, req] →
      ∃ resp newKey aug s₁ newEmk s₂, c.backend.getCurrUser auth = .ok resp ∧
        c.recrypt.augmentPrivateKeyWithRetry ⟨key⟩ w.rng = (.ok (newKey, aug), s₁) ∧
        encryptUserMasterKey c.aead c.pbkdf2 c.rng password.password newKey.bytes s₁ =
          .ok newEmk s₂ ∧
        req = .updatePrivateKey auth resp.id resp.currentKeyId newEmk aug) ∧
    (∀ jwt deviceName signingTs request req, ((c.withBackend (c.backend.serving r)).run
        (.generateDeviceKey jwt password deviceName signingTs request) w).sent =
        w.sent ++ [.userVerify jwt request, req] →
      ∃ resp userPublicKey deviceAdd s₁, c.backend.userVerify jwt request = .ok (some resp) ∧
        c.publicKeyTryFrom resp.userMasterPublicKey = .ok userPublicKey ∧
        generateDeviceAdd c.recrypt jwt ⟨userPublicKey, ⟨key⟩⟩ signingTs w.rng = .ok deviceAdd s₁ ∧
        req = .userDeviceAdd jwt deviceAdd deviceName request) := by
  refine ⟨fun auth req hsent => ?_, fun jwt deviceName signingTs request req hsent => ?_⟩
  · obtain ⟨resp, _, _, newKey, aug, s₁, newEmk, s₂, hg, hn, hd, ha, he, rfl⟩ :=
      userRotatePrivateKey_of_sent c.aead c.pbkdf2 c.rng c.recrypt (c.backend.serving r) hsent
    obtain ⟨resp₀, hg₀, rfl⟩ := Backend.serving_getCurrUser hg
    obtain rfl := Client.unseal_unique hr hn hd
    exact ⟨resp₀, newKey, aug, s₁, newEmk, s₂, hg₀, ha, he, rfl⟩
  · obtain ⟨_, userPublicKey, _, _, deviceAdd, s₁, _, hv, hp, hn, hd, ha, -, rfl⟩ :=
      generateDeviceKey_of_sent c.aead c.pbkdf2 c.recrypt (c.backend.serving r) c.publicKeyTryFrom
        hsent
    obtain ⟨resp₀, hv₀, rfl⟩ := Backend.serving_userVerify hv
    obtain rfl := Client.unseal_unique hr hn hd
    exact ⟨resp₀, userPublicKey, deviceAdd, s₁, hv₀, hp, ha, rfl⟩

theorem lifecycle_usesEscrowedKey_oneUser :
    Client.oneUser.unseal ⟨"p"⟩ (List.replicate 92 0) = some (.zero 32) ∧
    ∃ update deviceAddRequest,
      ((Client.oneUser.withBackend (Backend.oneUser.serving (List.replicate 92 0))).run
        (.userRotatePrivateKey ⟨"p"⟩ ⟨⟨"u"⟩, 1, ⟨.zero 64⟩, ourRequest⟩) ⟨(), []⟩).sent =
        [.getCurrUser ⟨⟨"u"⟩, 1, ⟨.zero 64⟩, ourRequest⟩, update] ∧
      (∃ resp newKey aug s₁ newEmk s₂,
        Backend.oneUser.getCurrUser ⟨⟨"u"⟩, 1, ⟨.zero 64⟩, ourRequest⟩ = .ok resp ∧
        Recrypt.zeros.augmentPrivateKeyWithRetry ⟨.zero 32⟩ () = (.ok (newKey, aug), s₁) ∧
        encryptUserMasterKey Aead.transparent Pbkdf2.zeros Rng.zeros "p" newKey.bytes s₁ =
          .ok newEmk s₂ ∧
        update = .updatePrivateKey ⟨⟨"u"⟩, 1, ⟨.zero 64⟩, ourRequest⟩ resp.id resp.currentKeyId
          newEmk aug) ∧
      ((Client.oneUser.withBackend (Backend.oneUser.serving (List.replicate 92 0))).run
        (.generateDeviceKey ⟨"a.b.c"⟩ ⟨"p"⟩ none ⟨0, 0, by decide⟩ ourRequest) ⟨(), []⟩).sent =
        [.userVerify ⟨"a.b.c"⟩ ourRequest, deviceAddRequest] ∧
      ∃ resp userPublicKey deviceAdd s₁,
        Backend.oneUser.userVerify ⟨"a.b.c"⟩ ourRequest = .ok (some resp) ∧
        Client.oneUser.publicKeyTryFrom resp.userMasterPublicKey = .ok userPublicKey ∧
        generateDeviceAdd Recrypt.zeros ⟨"a.b.c"⟩ ⟨userPublicKey, ⟨.zero 32⟩⟩ ⟨0, 0, by decide⟩ () =
          .ok deviceAdd s₁ ∧
        deviceAddRequest = .userDeviceAdd ⟨"a.b.c"⟩ deviceAdd none ourRequest := by
  have hkey : Client.oneUser.unseal ⟨"p"⟩ (List.replicate 92 0) = some (.zero 32) := by decide
  obtain ⟨hrotate, hdevice⟩ := lifecycle_usesEscrowedKey Client.oneUser ⟨"p"⟩ hkey ⟨(), []⟩
  exact ⟨hkey, _, _, rfl, hrotate _ _ rfl, rfl, hdevice _ _ _ _ _ rfl⟩

end Step

/-! ## 4. Whole sessions -/

/-- In a session against the escrow server, the record after a call is one `Op.EscrowStep` from
the record before it, drawing from the random state the call starts in. -/
theorem Op.escrowStep_escrowAfter (c : Client σ δ) (record : List UInt8) (op : Op)
    (w : World σ) :
    op.EscrowStep c w.rng (c.backend.escrowAfter record w.sent)
      (c.backend.escrowAfter record
        ((c.withBackend (c.backend.escrow record w.sent)).run op w).sent) := by
  obtain ⟨b, hsent, hstep⟩ := op.escrowStep c (r := c.backend.escrowAfter record w.sent) w
  rw [Backend.escrow, hsent, Backend.escrowAfter_append]
  exact hstep

/-- Every call of every session against the escrow server takes one `Op.EscrowStep`, from the
record the calls before it left and drawing from the random state they left: the record changes
only by a create or a rotation whose write the server accepted, to a freshly drawn key or to an
augmentation of the key it held, sealed under the call's password. -/
theorem escrowSession_callStep (c : Client σ δ) (record : List UInt8) (pre : List Op) (op : Op)
    (w : World σ) :
    op.EscrowStep c (escrowSession c record pre w).rng
      (c.backend.escrowAfter record (escrowSession c record pre w).sent)
      (c.backend.escrowAfter record (escrowSession c record (pre ++ [op]) w).sent) := by
  unfold escrowSession
  rw [runSession_append_singleton]
  exact op.escrowStep_escrowAfter c record _

end IronOxide
