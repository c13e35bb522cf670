import IronOxide.Crypto.Escrow
import IronOxide.UserApi.Lifecycle

/-!
# What each lifecycle call can do

One inversion lemma per call lists every way the call can end, step by step: each step either
fails, and the call ends with that step's error, or succeeds and the call goes on. The lemmas of
section 1 follow known step results down such a lemma, and each call has one lemma saying what
its requests show about its steps. The results about the calls (the sealed key sent, the keys a
provisioned device holds, no write after a failed step) are read off these.
-/

namespace IronOxide

/-! ## 1. Reading an inversion lemma -/

section Resolve

variable {ε α β σ : Type} {P : ε → Prop}

/-- A step with a known result picks its branch of an inversion lemma. -/
theorem exceptCases_ok {x : Except ε α} {a : α} {Q : α → Prop}
    (hc : (∃ e, x = .error e ∧ P e) ∨ ∃ a', x = .ok a' ∧ Q a') (h : x = .ok a) : Q a := by
  rcases hc with ⟨e, he, -⟩ | ⟨a', ha, hq⟩
  · cases h.symm.trans he
  · cases h.symm.trans ha; exact hq

theorem exceptCases_error {x : Except ε α} {e : ε} {Q : α → Prop}
    (hc : (∃ e, x = .error e ∧ P e) ∨ ∃ a, x = .ok a ∧ Q a) (h : x = .error e) : P e := by
  rcases hc with ⟨e', he, hp⟩ | ⟨a, ha, -⟩
  · cases h.symm.trans he; exact hp
  · cases h.symm.trans ha

theorem exceptOptionCases_none {x : Except ε (Option α)} {N : Prop} {Q : α → Prop}
    (hc : (∃ e, x = .error e ∧ P e) ∨ (x = .ok none ∧ N) ∨ ∃ a, x = .ok (some a) ∧ Q a)
    (h : x = .ok none) : N := by
  rcases hc with ⟨e, he, -⟩ | ⟨-, hn⟩ | ⟨a, ha, -⟩
  · cases h.symm.trans he
  · exact hn
  · cases h.symm.trans ha

theorem exceptOptionCases_some {x : Except ε (Option α)} {a : α} {N : Prop} {Q : α → Prop}
    (hc : (∃ e, x = .error e ∧ P e) ∨ (x = .ok none ∧ N) ∨ ∃ a', x = .ok (some a') ∧ Q a')
    (h : x = .ok (some a)) : Q a := by
  rcases hc with ⟨e, he, -⟩ | ⟨hn, -⟩ | ⟨a', ha, hq⟩
  · cases h.symm.trans he
  · cases h.symm.trans hn
  · cases h.symm.trans ha; exact hq

/-- The same for a draw of two values from a random state. -/
theorem drawCases_ok {x : Except ε (α × β) × σ} {a : α} {b : β} {s : σ}
    {P : ε → σ → Prop} {Q : α → β → σ → Prop}
    (hc : (∃ e s', x = (.error e, s') ∧ P e s') ∨ ∃ a' b' s', x = (.ok (a', b'), s') ∧ Q a' b' s')
    (h : x = (.ok (a, b), s)) : Q a b s := by
  rcases hc with ⟨e, s', he, -⟩ | ⟨a', b', s', ha, hq⟩
  · cases h.symm.trans he
  · cases h.symm.trans ha; exact hq

theorem drawCases_error {x : Except ε (α × β) × σ} {e : ε} {s : σ}
    {P : ε → σ → Prop} {Q : α → β → σ → Prop}
    (hc : (∃ e s', x = (.error e, s') ∧ P e s') ∨ ∃ a b s', x = (.ok (a, b), s') ∧ Q a b s')
    (h : x = (.error e, s)) : P e s := by
  rcases hc with ⟨e', s', he, hp⟩ | ⟨a, b, s', ha, -⟩
  · cases h.symm.trans he; exact hp
  · cases h.symm.trans ha

/-- The same for a local computation over the random state. -/
theorem resultCases_ok {ε' : Type} {x : EStateM.Result ε' σ α} {a : α} {s : σ}
    {P : ε' → σ → Prop} {Q : α → σ → Prop}
    (hc : (∃ f s', x = .error f s' ∧ P f s') ∨ ∃ a' s', x = .ok a' s' ∧ Q a' s')
    (h : x = .ok a s) : Q a s := by
  rcases hc with ⟨f, s', hf, -⟩ | ⟨a', s', ha, hq⟩
  · cases h.symm.trans hf
  · cases h.symm.trans ha; exact hq

theorem resultCases_error {ε' : Type} {x : EStateM.Result ε' σ α} {f : ε'} {s : σ}
    {P : ε' → σ → Prop} {Q : α → σ → Prop}
    (hc : (∃ f s', x = .error f s' ∧ P f s') ∨ ∃ a s', x = .ok a s' ∧ Q a s')
    (h : x = .error f s) : P f s := by
  rcases hc with ⟨f', s', hf, hp⟩ | ⟨a, s', ha, -⟩
  · cases h.symm.trans hf; exact hp
  · cases h.symm.trans ha

end Resolve

/-! ## 2. Everything each call can do -/

section Calls

variable {σ δ : Type} (aead : Aead) (pbkdf2 : Pbkdf2) (rng : Rng σ) (recrypt : Recrypt σ)
  (backend : Backend δ) (publicKeyTryFrom : WirePublicKey → Except IronOxideErr PublicKey)

/-- Everything `user_create` can do from a world `w`, step by step. -/
theorem userCreate_cases (jwt : Jwt) (passphrase : Password) (needsRotation : Bool)
    (request : IronCoreRequest) (w : World σ) :
    (∃ e s₁, recrypt.generateKeyPair w.rng = (.error e, s₁) ∧
      userCreate aead pbkdf2 rng recrypt backend jwt passphrase needsRotation request w =
        .error (.err (.ofRecryptErr e)) { w with rng := s₁ }) ∨
    ∃ priv pub s₁, recrypt.generateKeyPair w.rng = (.ok (priv, pub), s₁) ∧
    ((∃ f s₂, encryptUserMasterKey aead pbkdf2 rng passphrase.password priv.bytes s₁ = .error f s₂ ∧
      userCreate aead pbkdf2 rng recrypt backend jwt passphrase needsRotation request w =
        .error (f.map .ofUnspecified) { w with rng := s₂ }) ∨
    ∃ emk s₂, encryptUserMasterKey aead pbkdf2 rng passphrase.password priv.bytes s₁ = .ok emk s₂ ∧
      userCreate aead pbkdf2 rng recrypt backend jwt passphrase needsRotation request w =
        send (.userCreate jwt pub emk needsRotation request)
        (backend.userCreate jwt pub emk needsRotation request) { w with rng := s₂ }) := by
  unfold userCreate
  rcases hk : recrypt.generateKeyPair w.rng with ⟨_ | ⟨priv, pub⟩, s₁⟩
  · exact .inl ⟨_, _, rfl, RustM.bind_apply_error
      (onRng_error (RustM.mapErr_apply_error (RustM.drawExcept_error hk))) _⟩
  refine .inr ⟨priv, pub, s₁, rfl, ?_⟩
  rw [RustM.bind_apply_ok (onRng_ok (RustM.mapErr_apply_ok (RustM.drawExcept_ok hk)))]
  rcases he : encryptUserMasterKey aead pbkdf2 rng passphrase.password priv.bytes s₁ with
    ⟨emk, s₂⟩ | ⟨f, s₂⟩
  · exact .inr ⟨emk, s₂, rfl, RustM.bind_apply_ok (onRng_ok (RustM.mapErr_apply_ok he)) _⟩
  · exact .inl ⟨f, s₂, rfl, RustM.bind_apply_error (onRng_error (RustM.mapErr_apply_error he)) _⟩

/-- Everything `user_rotate_private_key` can do from a world `w`, step by step. -/
theorem userRotatePrivateKey_cases (password : Password) (auth : RequestAuth) (w : World σ) :
    (∃ e, backend.getCurrUser auth = .error e ∧
      userRotatePrivateKey aead pbkdf2 rng recrypt backend password auth w =
        .error (.err e) (w.record (.getCurrUser auth))) ∨
    ∃ resp, backend.getCurrUser auth = .ok resp ∧
    ((∃ e, EncryptedMasterKey.newFromSlice resp.userPrivateKey = .error e ∧
      userRotatePrivateKey aead pbkdf2 rng recrypt backend password auth w =
        .error (.err e) (w.record (.getCurrUser auth))) ∨
    ∃ emk, EncryptedMasterKey.newFromSlice resp.userPrivateKey = .ok emk ∧
    ((∃ f, decryptUserMasterKey aead pbkdf2 password.password emk = .error f ∧
      userRotatePrivateKey aead pbkdf2 rng recrypt backend password auth w =
        .error (f.map .ofUnspecified) (w.record (.getCurrUser auth))) ∨
    ∃ key, decryptUserMasterKey aead pbkdf2 password.password emk = .ok key ∧
    ((∃ e s₁, recrypt.augmentPrivateKeyWithRetry ⟨key⟩ w.rng = (.error e, s₁) ∧
      userRotatePrivateKey aead pbkdf2 rng recrypt backend password auth w =
        .error (.err e) { w.record (.getCurrUser auth) with rng := s₁ }) ∨
    ∃ newKey aug s₁, recrypt.augmentPrivateKeyWithRetry ⟨key⟩ w.rng = (.ok (newKey, aug), s₁) ∧
    ((∃ f s₂, encryptUserMasterKey aead pbkdf2 rng password.password newKey.bytes s₁ = .error f s₂ ∧
      userRotatePrivateKey aead pbkdf2 rng recrypt backend password auth w =
        .error (f.map .ofUnspecified) { w.record (.getCurrUser auth) with rng := s₂ }) ∨
    ∃ newEmk s₂, encryptUserMasterKey aead pbkdf2 rng password.password newKey.bytes s₁ =
        .ok newEmk s₂ ∧
      userRotatePrivateKey aead pbkdf2 rng recrypt backend password auth w =
        send (.updatePrivateKey auth resp.id resp.currentKeyId newEmk aug)
          (backend.updatePrivateKey auth resp.id resp.currentKeyId newEmk aug)
          { w.record (.getCurrUser auth) with rng := s₂ })))) := by
  unfold userRotatePrivateKey
  rcases hg : backend.getCurrUser auth with e | resp
  · exact .inl ⟨e, rfl, RustM.bind_apply_error (send_error rfl w) _⟩
  refine .inr ⟨resp, rfl, ?_⟩
  rw [RustM.bind_apply_ok (send_ok rfl w)]
  rcases hn : EncryptedMasterKey.newFromSlice resp.userPrivateKey with e | emk
  · exact .inl ⟨e, rfl, RustM.bind_apply_error (RustM.ofExcept_error e _) _⟩
  refine .inr ⟨emk, rfl, ?_⟩
  rw [RustM.bind_apply_ok (RustM.ofExcept_ok emk _)]
  rcases hd : decryptUserMasterKey aead pbkdf2 password.password emk with f | key
  · exact .inl ⟨f, rfl, RustM.bind_apply_error
      (RustM.mapErr_apply_error (RustM.ofFallible_error f _)) _⟩
  refine .inr ⟨key, rfl, ?_⟩
  rw [RustM.bind_apply_ok (RustM.mapErr_apply_ok (RustM.ofFallible_ok key _))]
  rcases ha : recrypt.augmentPrivateKeyWithRetry ⟨key⟩ (w.record (.getCurrUser auth)).rng with
    ⟨_ | ⟨newKey, aug⟩, s₁⟩
  · exact .inl ⟨_, _, ha, RustM.bind_apply_error (onRng_error (RustM.drawExcept_error ha)) _⟩
  refine .inr ⟨newKey, aug, s₁, ha, ?_⟩
  rw [RustM.bind_apply_ok (onRng_ok (RustM.drawExcept_ok ha))]
  rcases he : encryptUserMasterKey aead pbkdf2 rng password.password newKey.bytes s₁ with
    ⟨newEmk, s₂⟩ | ⟨f, s₂⟩
  · exact .inr ⟨newEmk, s₂, rfl, RustM.bind_apply_ok (onRng_ok (RustM.mapErr_apply_ok he)) _⟩
  · exact .inl ⟨f, s₂, rfl, RustM.bind_apply_error (onRng_error (RustM.mapErr_apply_error he)) _⟩

/-- Everything `generate_device_add` can do, once the signing key pair `sk` is drawn: the device
key pair or the transform key fails, or the `DeviceAdd` is built from both and signed. -/
theorem generateDeviceAdd_cases (jwt : Jwt) (userMasterKeypair : KeyPair) (signingTs : DateTime)
    {s s₁ : σ} {sk : DeviceSigningKeyPair} (hs : recrypt.generateEd25519KeyPair s = (sk, s₁)) :
    (∃ e s₂, recrypt.generateKeyPair s₁ = (.error e, s₂) ∧
      generateDeviceAdd recrypt jwt userMasterKeypair signingTs s =
        .error (.err (.ofRecryptErr e)) s₂) ∨
    ∃ priv pub s₂, recrypt.generateKeyPair s₁ = (.ok (priv, pub), s₂) ∧
    ((∃ e s₃, recrypt.generateTransformKey userMasterKeypair.privateKey pub sk s₂ = (.error e, s₃) ∧
      generateDeviceAdd recrypt jwt userMasterKeypair signingTs s =
        .error (.err (.ofRecryptErr e)) s₃) ∨
    ∃ tk s₃, recrypt.generateTransformKey userMasterKeypair.privateKey pub sk s₂ = (.ok tk, s₃) ∧
      generateDeviceAdd recrypt jwt userMasterKeypair signingTs s =
        .ok { userPublicKey := userMasterKeypair.publicKey, transformKey := tk,
              deviceKeys := ⟨pub, priv⟩, signingKeys := sk,
              signature := (recrypt.schnorrSign userMasterKeypair.privateKey
                userMasterKeypair.publicKey
                (signedMessageToBytes signingTs tk jwt userMasterKeypair.publicKey) s₃).1,
              signatureTs := signingTs }
          (recrypt.schnorrSign userMasterKeypair.privateKey userMasterKeypair.publicKey
            (signedMessageToBytes signingTs tk jwt userMasterKeypair.publicKey) s₃).2) := by
  have hdraw : (RustM.draw recrypt.generateEd25519KeyPair : RustM σ IronOxideErr _) s =
      .ok sk s₁ := by rw [RustM.draw_apply, hs]
  unfold generateDeviceAdd
  rw [RustM.bind_apply_ok hdraw]
  rcases hk : recrypt.generateKeyPair s₁ with ⟨_ | ⟨priv, pub⟩, s₂⟩
  · exact .inl ⟨_, _, rfl, RustM.bind_apply_error
      (RustM.mapErr_apply_error (RustM.drawExcept_error hk)) _⟩
  refine .inr ⟨priv, pub, s₂, rfl, ?_⟩
  rw [RustM.bind_apply_ok (RustM.mapErr_apply_ok (RustM.drawExcept_ok hk))]
  rcases ht : recrypt.generateTransformKey userMasterKeypair.privateKey pub sk s₂ with
    ⟨_ | tk, s₃⟩
  · exact .inl ⟨_, _, rfl, RustM.bind_apply_error
      (RustM.mapErr_apply_error (RustM.drawExcept_error ht)) _⟩
  · exact .inr ⟨tk, s₃, rfl,
      (RustM.bind_apply_ok (RustM.mapErr_apply_ok (RustM.drawExcept_ok ht)) _).trans rfl⟩

/-- Where each part of a `DeviceAdd` that `generate_device_add` returns comes from. -/
theorem generateDeviceAdd_eq_ok {jwt : Jwt} {userMasterKeypair : KeyPair} {signingTs : DateTime}
    {s s' : σ} {deviceAdd : DeviceAdd}
    (h : generateDeviceAdd recrypt jwt userMasterKeypair signingTs s = .ok deviceAdd s') :
    ∃ s₁ s₂ s₃, recrypt.generateEd25519KeyPair s = (deviceAdd.signingKeys, s₁) ∧
      recrypt.generateKeyPair s₁ =
        (.ok (deviceAdd.deviceKeys.privateKey, deviceAdd.deviceKeys.publicKey), s₂) ∧
      recrypt.generateTransformKey userMasterKeypair.privateKey deviceAdd.deviceKeys.publicKey
        deviceAdd.signingKeys s₂ = (.ok deviceAdd.transformKey, s₃) ∧
      recrypt.schnorrSign userMasterKeypair.privateKey userMasterKeypair.publicKey
        (signedMessageToBytes signingTs deviceAdd.transformKey jwt userMasterKeypair.publicKey) s₃ =
        (deviceAdd.signature, s') ∧
      deviceAdd.userPublicKey = userMasterKeypair.publicKey ∧
      deviceAdd.signatureTs = signingTs := by
  rcases hs : recrypt.generateEd25519KeyPair s with ⟨sk, s₁⟩
  rcases generateDeviceAdd_cases recrypt jwt userMasterKeypair signingTs hs with
    ⟨e, s₂, -, hr⟩ | ⟨priv, pub, s₂, hk, ⟨e, s₃, -, hr⟩ | ⟨tk, s₃, ht, hr⟩⟩
  all_goals (rw [hr] at h; cases h)
  exact ⟨s₁, s₂, s₃, rfl, hk, ht, rfl, rfl, rfl⟩

/-- Everything `generate_device_key` can do from a world `w`, step by step. -/
theorem generateDeviceKey_cases (jwt : Jwt) (password : Password)
    (deviceName : Option DeviceName) (signingTs : DateTime) (request : IronCoreRequest)
    (w : World σ) :
    (∃ e, backend.userVerify jwt request = .error e ∧
      generateDeviceKey aead pbkdf2 recrypt backend publicKeyTryFrom jwt password deviceName
        signingTs request w =
        .error (.err e) (w.record (.userVerify jwt request))) ∨
    (backend.userVerify jwt request = .ok none ∧
      generateDeviceKey aead pbkdf2 recrypt backend publicKeyTryFrom jwt password deviceName
        signingTs request w =
        .error (.err (.userDoesNotExist "Device cannot be added to a user that doesn't exist"))
          (w.record (.userVerify jwt request))) ∨
    ∃ resp, backend.userVerify jwt request = .ok (some resp) ∧
    ((∃ e, publicKeyTryFrom resp.userMasterPublicKey = .error e ∧
      generateDeviceKey aead pbkdf2 recrypt backend publicKeyTryFrom jwt password deviceName
        signingTs request w =
        .error (.err e) (w.record (.userVerify jwt request))) ∨
    ∃ userPublicKey, publicKeyTryFrom resp.userMasterPublicKey = .ok userPublicKey ∧
    ((∃ e, EncryptedMasterKey.newFromSlice resp.userPrivateKey = .error e ∧
      generateDeviceKey aead pbkdf2 recrypt backend publicKeyTryFrom jwt password deviceName
        signingTs request w =
        .error (.err e) (w.record (.userVerify jwt request))) ∨
    ∃ emk, EncryptedMasterKey.newFromSlice resp.userPrivateKey = .ok emk ∧
    ((∃ f, decryptUserMasterKey aead pbkdf2 password.password emk = .error f ∧
      generateDeviceKey aead pbkdf2 recrypt backend publicKeyTryFrom jwt password deviceName
        signingTs request w =
        .error (f.map .ofUnspecified) (w.record (.userVerify jwt request))) ∨
    ∃ key, decryptUserMasterKey aead pbkdf2 password.password emk = .ok key ∧
    ((∃ f s₁, generateDeviceAdd recrypt jwt ⟨userPublicKey, ⟨key⟩⟩ signingTs w.rng = .error f s₁ ∧
      generateDeviceKey aead pbkdf2 recrypt backend publicKeyTryFrom jwt password deviceName
        signingTs request w =
        .error f { w.record (.userVerify jwt request) with rng := s₁ }) ∨
    ∃ deviceAdd s₁, generateDeviceAdd recrypt jwt ⟨userPublicKey, ⟨key⟩⟩ signingTs w.rng =
        .ok deviceAdd s₁ ∧
    ((∃ e, UserId.tryFrom resp.id = .error e ∧
      generateDeviceKey aead pbkdf2 recrypt backend publicKeyTryFrom jwt password deviceName
        signingTs request w =
        .error (.err e) { w.record (.userVerify jwt request) with rng := s₁ }) ∨
    ∃ accountId, UserId.tryFrom resp.id = .ok accountId ∧
    ((∃ e, backend.userDeviceAdd jwt deviceAdd deviceName request = .error e ∧
      generateDeviceKey aead pbkdf2 recrypt backend publicKeyTryFrom jwt password deviceName
        signingTs request w =
        .error (.err e) (World.record { w.record (.userVerify jwt request) with rng := s₁ }
          (.userDeviceAdd jwt deviceAdd deviceName request))) ∨
    ∃ dar, backend.userDeviceAdd jwt deviceAdd deviceName request = .ok dar ∧
      generateDeviceKey aead pbkdf2 recrypt backend publicKeyTryFrom jwt password deviceName
        signingTs request w =
        .ok { accountId, segmentId := resp.segmentId,
              devicePrivateKey := deviceAdd.deviceKeys.privateKey,
              signingPrivateKey := deviceAdd.signingKeys, deviceId := dar.deviceId,
              name := dar.name, created := dar.created, lastUpdated := dar.updated }
          (World.record { w.record (.userVerify jwt request) with rng := s₁ }
            (.userDeviceAdd jwt deviceAdd deviceName request)))))))) := by
  unfold generateDeviceKey
  rcases hv : backend.userVerify jwt request with e | _ | resp
  · exact .inl ⟨e, rfl, RustM.bind_apply_error (send_error rfl w) _⟩
  · refine .inr (.inl ⟨rfl, ?_⟩)
    rw [RustM.bind_apply_ok (send_ok rfl w)]
    rfl
  refine .inr (.inr ⟨resp, rfl, ?_⟩)
  rw [RustM.bind_apply_ok (send_ok rfl w)]
  dsimp only
  rw [RustM.bind_apply_ok (RustM.pure_apply resp _)]
  rcases hp : publicKeyTryFrom resp.userMasterPublicKey with e | userPublicKey
  · exact .inl ⟨e, rfl, RustM.bind_apply_error (RustM.ofExcept_error e _) _⟩
  refine .inr ⟨userPublicKey, rfl, ?_⟩
  rw [RustM.bind_apply_ok (RustM.ofExcept_ok userPublicKey _)]
  rcases hn : EncryptedMasterKey.newFromSlice resp.userPrivateKey with e | emk
  · exact .inl ⟨e, rfl, RustM.bind_apply_error (RustM.ofExcept_error e _) _⟩
  refine .inr ⟨emk, rfl, ?_⟩
  rw [RustM.bind_apply_ok (RustM.ofExcept_ok emk _)]
  rcases hd : decryptUserMasterKey aead pbkdf2 password.password emk with f | key
  · exact .inl ⟨f, rfl, RustM.bind_apply_error
      (RustM.mapErr_apply_error (RustM.ofFallible_error f _)) _⟩
  refine .inr ⟨key, rfl, ?_⟩
  rw [RustM.bind_apply_ok (RustM.mapErr_apply_ok (RustM.ofFallible_ok key _))]
  rcases ha : generateDeviceAdd recrypt jwt ⟨userPublicKey, ⟨key⟩⟩ signingTs
    (w.record (.userVerify jwt request)).rng with ⟨deviceAdd, s₁⟩ | ⟨f, s₁⟩
  swap
  · exact .inl ⟨f, s₁, ha, RustM.bind_apply_error (onRng_error ha) _⟩
  refine .inr ⟨deviceAdd, s₁, ha, ?_⟩
  rw [RustM.bind_apply_ok (onRng_ok ha)]
  rcases hu : UserId.tryFrom resp.id with e | accountId
  · exact .inl ⟨e, rfl, RustM.bind_apply_error (RustM.ofExcept_error e _) _⟩
  refine .inr ⟨accountId, rfl, ?_⟩
  rw [RustM.bind_apply_ok (RustM.ofExcept_ok accountId _)]
  rcases hr : backend.userDeviceAdd jwt deviceAdd deviceName request with e | dar
  · exact .inl ⟨e, rfl, RustM.bind_apply_error (send_error rfl _) _⟩
  · exact .inr ⟨dar, rfl, RustM.bind_apply_ok (send_ok rfl _) _⟩

/-! ## 3. What the requests a call sent show -/

/-- A request sent by `user_create` is the create request, carrying the generated public key and
the sealed private key: key generation and sealing both succeeded. -/
theorem userCreate_of_sent {jwt : Jwt} {passphrase : Password} {needsRotation : Bool}
    {request : IronCoreRequest} {w : World σ} {req : Request}
    (hsent : (RustM.stateAfter (userCreate aead pbkdf2 rng recrypt backend jwt passphrase
      needsRotation request w)).sent = w.sent ++ [req]) :
    ∃ priv pub s₁ emk s₂, recrypt.generateKeyPair w.rng = (.ok (priv, pub), s₁) ∧
      encryptUserMasterKey aead pbkdf2 rng passphrase.password priv.bytes s₁ = .ok emk s₂ ∧
      req = .userCreate jwt pub emk needsRotation request := by
  -- a call that ends before the create request has sent nothing
  obtain ⟨_, _, -, hr⟩ | ⟨priv, pub, s₁, hk, hc⟩ :=
    userCreate_cases aead pbkdf2 rng recrypt backend jwt passphrase needsRotation request w
  · simp [hr] at hsent
  obtain ⟨_, _, -, hr⟩ | ⟨emk, s₂, he, hr⟩ := hc
  · simp [hr] at hsent
  rw [hr, send_sent] at hsent
  exact ⟨priv, pub, s₁, emk, s₂, hk, he,
    (List.singleton_inj.mp (List.append_cancel_left hsent)).symm⟩

/-- A second request sent by `user_rotate_private_key` is the update request, carrying the
resealed augmented key, its augmentation factor, and the user id and key id of the current-user
response: every local step succeeded. -/
theorem userRotatePrivateKey_of_sent {password : Password} {auth : RequestAuth} {w : World σ}
    {req : Request}
    (hsent : (RustM.stateAfter (userRotatePrivateKey aead pbkdf2 rng recrypt backend password auth
      w)).sent = w.sent ++ [.getCurrUser auth, req]) :
    ∃ resp emk key newKey aug s₁ newEmk s₂, backend.getCurrUser auth = .ok resp ∧
      EncryptedMasterKey.newFromSlice resp.userPrivateKey = .ok emk ∧
      decryptUserMasterKey aead pbkdf2 password.password emk = .ok key ∧
      recrypt.augmentPrivateKeyWithRetry ⟨key⟩ w.rng = (.ok (newKey, aug), s₁) ∧
      encryptUserMasterKey aead pbkdf2 rng password.password newKey.bytes s₁ = .ok newEmk s₂ ∧
      req = .updatePrivateKey auth resp.id resp.currentKeyId newEmk aug := by
  -- a call that ends before the update has sent one request only
  obtain ⟨_, -, hr⟩ | ⟨resp, hg, hc⟩ :=
    userRotatePrivateKey_cases aead pbkdf2 rng recrypt backend password auth w
  · simp [hr] at hsent
  obtain ⟨_, -, hr⟩ | ⟨emk, hn, hc⟩ := hc
  · simp [hr] at hsent
  obtain ⟨_, -, hr⟩ | ⟨key, hd, hc⟩ := hc
  · simp [hr] at hsent
  obtain ⟨_, _, -, hr⟩ | ⟨newKey, aug, s₁, ha, hc⟩ := hc
  · simp [hr] at hsent
  obtain ⟨_, _, -, hr⟩ | ⟨newEmk, s₂, he, hr⟩ := hc
  · simp [hr] at hsent
  rw [hr, send_sent] at hsent
  simp only [World.record_sent, List.append_assoc, List.singleton_append,
    List.append_cancel_left_eq, List.cons.injEq, true_and, and_true] at hsent
  exact ⟨resp, emk, key, newKey, aug, s₁, newEmk, s₂, hg, hn, hd, ha, he, hsent.symm⟩

/-- A second request sent by `generate_device_key` is the device-add request, carrying the JWT
and the generated `DeviceAdd`: every local step succeeded. -/
theorem generateDeviceKey_of_sent {jwt : Jwt} {password : Password}
    {deviceName : Option DeviceName} {signingTs : DateTime} {request : IronCoreRequest}
    {w : World σ} {req : Request}
    (hsent : (RustM.stateAfter (generateDeviceKey aead pbkdf2 recrypt backend publicKeyTryFrom jwt
      password deviceName signingTs request w)).sent = w.sent ++ [.userVerify jwt request, req]) :
    ∃ resp userPublicKey emk key deviceAdd s₁ accountId,
      backend.userVerify jwt request = .ok (some resp) ∧
      publicKeyTryFrom resp.userMasterPublicKey = .ok userPublicKey ∧
      EncryptedMasterKey.newFromSlice resp.userPrivateKey = .ok emk ∧
      decryptUserMasterKey aead pbkdf2 password.password emk = .ok key ∧
      generateDeviceAdd recrypt jwt ⟨userPublicKey, ⟨key⟩⟩ signingTs w.rng = .ok deviceAdd s₁ ∧
      UserId.tryFrom resp.id = .ok accountId ∧
      req = .userDeviceAdd jwt deviceAdd deviceName request := by
  -- a call that ends before the device-add request has sent one request only
  obtain ⟨_, -, hr⟩ | ⟨-, hr⟩ | ⟨resp, hv, hc⟩ := generateDeviceKey_cases aead pbkdf2 recrypt
    backend publicKeyTryFrom jwt password deviceName signingTs request w
  · simp [hr] at hsent
  · simp [hr] at hsent
  obtain ⟨_, -, hr⟩ | ⟨userPublicKey, hp, hc⟩ := hc
  · simp [hr] at hsent
  obtain ⟨_, -, hr⟩ | ⟨emk, hn, hc⟩ := hc
  · simp [hr] at hsent
  obtain ⟨_, -, hr⟩ | ⟨key, hd, hc⟩ := hc
  · simp [hr] at hsent
  obtain ⟨_, _, -, hr⟩ | ⟨deviceAdd, s₁, ha, hc⟩ := hc
  · simp [hr] at hsent
  obtain ⟨_, -, hr⟩ | ⟨accountId, hu, hc⟩ := hc
  · simp [hr] at hsent
  -- the device-add request is sent whatever its answer
  obtain ⟨_, -, hr⟩ | ⟨_, -, hr⟩ := hc
  all_goals
    rw [hr] at hsent
    simp only [RustM.stateAfter_ok, RustM.stateAfter_error, World.record_sent, List.append_assoc,
      List.singleton_append, List.append_cancel_left_eq, List.cons.injEq, true_and,
      and_true] at hsent
    exact ⟨resp, userPublicKey, emk, key, deviceAdd, s₁, accountId, hv, hp, hn, hd, ha, hu,
      hsent.symm⟩

end Calls

/-! ## 4. The sealed key a call sends -/

section Sealing

variable {σ δ : Type} (aead : Aead) (pbkdf2 : Pbkdf2) (rng : Rng σ) (recrypt : Recrypt σ)
  (backend : Backend δ)

/-- The sealed master key `user_create` sends unseals, under the passphrase, to the private half of
the pair `generate_key_pair` returned, and the public key it sends is that pair's public half;
the sealed key `user_rotate_private_key` sends unseals, under the same password, to the augmented
key, and goes with the augmentation factor returned with that key and with the user id and key id
of the current-user response. -/
theorem lifecycle_sendsSealedIntendedKey :
    (∀ (jwt : Jwt) (passphrase : Password) (needsRotation : Bool) (request : IronCoreRequest)
        (w : World σ) (req : Request),
      (RustM.stateAfter (userCreate aead pbkdf2 rng recrypt backend jwt passphrase needsRotation
        request w)).sent = w.sent ++ [req] →
      ∃ priv pub s₁ emk, recrypt.generateKeyPair w.rng = (.ok (priv, pub), s₁) ∧
        req = .userCreate jwt pub emk needsRotation request ∧
        decryptUserMasterKey aead pbkdf2 passphrase.password emk = .ok priv.bytes) ∧
    (∀ (password : Password) (auth : RequestAuth) (w : World σ) (req : Request),
      (RustM.stateAfter (userRotatePrivateKey aead pbkdf2 rng recrypt backend password auth
        w)).sent = w.sent ++ [.getCurrUser auth, req] →
      ∃ resp emk key newKey aug s₁ newEmk, backend.getCurrUser auth = .ok resp ∧
        EncryptedMasterKey.newFromSlice resp.userPrivateKey = .ok emk ∧
        decryptUserMasterKey aead pbkdf2 password.password emk = .ok key ∧
        recrypt.augmentPrivateKeyWithRetry ⟨key⟩ w.rng = (.ok (newKey, aug), s₁) ∧
        req = .updatePrivateKey auth resp.id resp.currentKeyId newEmk aug ∧
        decryptUserMasterKey aead pbkdf2 password.password newEmk = .ok newKey.bytes) := by
  constructor
  · intro jwt passphrase needsRotation request w req hsent
    obtain ⟨priv, pub, s₁, emk, _, hk, he, rfl⟩ :=
      userCreate_of_sent aead pbkdf2 rng recrypt backend hsent
    exact ⟨priv, pub, s₁, emk, hk, rfl,
      decryptUserMasterKey_encryptUserMasterKey aead pbkdf2 rng he⟩
  · intro password auth w req hsent
    obtain ⟨resp, emk, key, newKey, aug, s₁, newEmk, _, hg, hn, hd, ha, he, rfl⟩ :=
      userRotatePrivateKey_of_sent aead pbkdf2 rng recrypt backend hsent
    exact ⟨resp, emk, key, newKey, aug, s₁, newEmk, hg, hn, hd, ha, rfl,
      decryptUserMasterKey_encryptUserMasterKey aead pbkdf2 rng he⟩

theorem lifecycle_sendsSealedIntendedKey_oneUser :
    ∃ create update,
      (RustM.stateAfter (userCreate Aead.transparent Pbkdf2.zeros Rng.zeros Recrypt.zeros
        Backend.oneUser ⟨"a.b.c"⟩ ⟨"p"⟩ false ourRequest ⟨(), []⟩)).sent = [create] ∧
      (∃ priv pub s₁ emk, Recrypt.zeros.generateKeyPair () = (.ok (priv, pub), s₁) ∧
        create = .userCreate ⟨"a.b.c"⟩ pub emk false ourRequest ∧
        decryptUserMasterKey Aead.transparent Pbkdf2.zeros "p" emk = .ok priv.bytes) ∧
      (RustM.stateAfter (userRotatePrivateKey Aead.transparent Pbkdf2.zeros Rng.zeros
        Recrypt.zeros Backend.oneUser ⟨"p"⟩ ⟨⟨"u"⟩, 1, ⟨.zero 64⟩, ourRequest⟩ ⟨(), []⟩)).sent =
        [.getCurrUser ⟨⟨"u"⟩, 1, ⟨.zero 64⟩, ourRequest⟩, update] ∧
      ∃ resp emk key newKey aug s₁ newEmk,
        Backend.oneUser.getCurrUser ⟨⟨"u"⟩, 1, ⟨.zero 64⟩, ourRequest⟩ = .ok resp ∧
        EncryptedMasterKey.newFromSlice resp.userPrivateKey = .ok emk ∧
        decryptUserMasterKey Aead.transparent Pbkdf2.zeros "p" emk = .ok key ∧
        Recrypt.zeros.augmentPrivateKeyWithRetry ⟨key⟩ () = (.ok (newKey, aug), s₁) ∧
        update = .updatePrivateKey ⟨⟨"u"⟩, 1, ⟨.zero 64⟩, ourRequest⟩ resp.id resp.currentKeyId
          newEmk aug ∧
        decryptUserMasterKey Aead.transparent Pbkdf2.zeros "p" newEmk = .ok newKey.bytes := by
  obtain ⟨hcreate, hrotate⟩ := lifecycle_sendsSealedIntendedKey Aead.transparent Pbkdf2.zeros
    Rng.zeros Recrypt.zeros Backend.oneUser
  exact ⟨_, _, rfl, hcreate _ _ _ _ ⟨(), []⟩ _ rfl, rfl, hrotate _ _ ⟨(), []⟩ _ rfl⟩

end Sealing

/-! ## 5. What a provisioned device holds -/

section Provisioning

variable {σ δ : Type} (aead : Aead) (pbkdf2 : Pbkdf2) (recrypt : Recrypt σ) (backend : Backend δ)
  (publicKeyTryFrom : WirePublicKey → Except IronOxideErr PublicKey)

/-- When `generate_device_key` returns, it has sent the verify request and then the device-add
request with its JWT and a `DeviceAdd` made in one run of the PRE: the signing pair, the device
pair, the transform key from the unsealed master key to the device pair's public key with the
signing pair, and the signature under the user's key pair over that `DeviceAdd`'s timestamp,
transform key and user public key and the JWT; its user public key is the verified user's. The
device context holds the verified account id and segment id, the device pair's private key and
the signing pair. -/
theorem generateDeviceKey_bindsDeviceKeys (jwt : Jwt) (password : Password)
    (deviceName : Option DeviceName) (signingTs : DateTime) (request : IronCoreRequest)
    (w w' : World σ) (r : DeviceAddResult)
    (h : generateDeviceKey aead pbkdf2 recrypt backend publicKeyTryFrom jwt password deviceName
      signingTs request w = .ok r w') :
    ∃ resp userPublicKey emk key deviceAdd accountId s₁ s₂ s₃,
      backend.userVerify jwt request = .ok (some resp) ∧
      publicKeyTryFrom resp.userMasterPublicKey = .ok userPublicKey ∧
      EncryptedMasterKey.newFromSlice resp.userPrivateKey = .ok emk ∧
      decryptUserMasterKey aead pbkdf2 password.password emk = .ok key ∧
      w'.sent = w.sent ++
        [.userVerify jwt request, .userDeviceAdd jwt deviceAdd deviceName request] ∧
      deviceAdd.userPublicKey = userPublicKey ∧
      recrypt.generateEd25519KeyPair w.rng = (deviceAdd.signingKeys, s₁) ∧
      recrypt.generateKeyPair s₁ =
        (.ok (deviceAdd.deviceKeys.privateKey, deviceAdd.deviceKeys.publicKey), s₂) ∧
      recrypt.generateTransformKey ⟨key⟩ deviceAdd.deviceKeys.publicKey deviceAdd.signingKeys s₂ =
        (.ok deviceAdd.transformKey, s₃) ∧
      deviceAdd.signature = (recrypt.schnorrSign ⟨key⟩ userPublicKey (signedMessageToBytes
        deviceAdd.signatureTs deviceAdd.transformKey jwt deviceAdd.userPublicKey) s₃).1 ∧
      deviceAdd.signatureTs = signingTs ∧
      UserId.tryFrom resp.id = .ok accountId ∧
      (DeviceContext.ofDeviceAddResult r).accountId = accountId ∧
      (DeviceContext.ofDeviceAddResult r).segmentId = resp.segmentId ∧
      (DeviceContext.ofDeviceAddResult r).privateDeviceKey = deviceAdd.deviceKeys.privateKey ∧
      (DeviceContext.ofDeviceAddResult r).signingKeys = deviceAdd.signingKeys := by
  obtain ⟨_, -, hr⟩ | ⟨-, hr⟩ | ⟨resp, hv, hc⟩ := generateDeviceKey_cases aead pbkdf2 recrypt
    backend publicKeyTryFrom jwt password deviceName signingTs request w
  · cases h.symm.trans hr
  · cases h.symm.trans hr
  obtain ⟨_, -, hr⟩ | ⟨userPublicKey, hp, hc⟩ := hc
  · cases h.symm.trans hr
  obtain ⟨_, -, hr⟩ | ⟨emk, hn, hc⟩ := hc
  · cases h.symm.trans hr
  obtain ⟨_, -, hr⟩ | ⟨key, hd, hc⟩ := hc
  · cases h.symm.trans hr
  obtain ⟨_, _, -, hr⟩ | ⟨deviceAdd, s₁, ha, hc⟩ := hc
  · cases h.symm.trans hr
  obtain ⟨_, -, hr⟩ | ⟨accountId, hu, hc⟩ := hc
  · cases h.symm.trans hr
  obtain ⟨_, -, hr⟩ | ⟨_, -, hr⟩ := hc
  · cases h.symm.trans hr
  cases h.symm.trans hr
  obtain ⟨t₁, t₂, t₃, hsk, hkp, htk, hsig, hpub, hts⟩ := generateDeviceAdd_eq_ok recrypt ha
  exact ⟨resp, userPublicKey, emk, key, deviceAdd, accountId, t₁, t₂, t₃, hv, hp, hn, hd,
    List.append_assoc _ _ _, hpub, hsk, hkp, htk, by rw [hpub, hts, hsig], hts, hu, rfl, rfl, rfl,
    rfl⟩

theorem generateDeviceKey_bindsDeviceKeys_oneUser :
    ∃ r w', generateDeviceKey Aead.transparent Pbkdf2.zeros Recrypt.zeros Backend.oneUser
      (fun _ => .ok ⟨.zero 32, .zero 32⟩) ⟨"a.b.c"⟩ ⟨"p"⟩ none ⟨0, 0, by decide⟩ ourRequest
      ⟨(), []⟩ = .ok r w' ∧
    ∃ resp userPublicKey emk key deviceAdd accountId s₁ s₂ s₃,
      Backend.oneUser.userVerify ⟨"a.b.c"⟩ ourRequest = .ok (some resp) ∧
      (.ok ⟨.zero 32, .zero 32⟩ : Except IronOxideErr PublicKey) = .ok userPublicKey ∧
      EncryptedMasterKey.newFromSlice resp.userPrivateKey = .ok emk ∧
      decryptUserMasterKey Aead.transparent Pbkdf2.zeros "p" emk = .ok key ∧
      w'.sent =
        [.userVerify ⟨"a.b.c"⟩ ourRequest, .userDeviceAdd ⟨"a.b.c"⟩ deviceAdd none ourRequest] ∧
      deviceAdd.userPublicKey = userPublicKey ∧
      Recrypt.zeros.generateEd25519KeyPair () = (deviceAdd.signingKeys, s₁) ∧
      Recrypt.zeros.generateKeyPair s₁ =
        (.ok (deviceAdd.deviceKeys.privateKey, deviceAdd.deviceKeys.publicKey), s₂) ∧
      Recrypt.zeros.generateTransformKey ⟨key⟩ deviceAdd.deviceKeys.publicKey
        deviceAdd.signingKeys s₂ = (.ok deviceAdd.transformKey, s₃) ∧
      deviceAdd.signature = (Recrypt.zeros.schnorrSign ⟨key⟩ userPublicKey (signedMessageToBytes
        deviceAdd.signatureTs deviceAdd.transformKey ⟨"a.b.c"⟩ deviceAdd.userPublicKey) s₃).1 ∧
      deviceAdd.signatureTs = ⟨0, 0, by decide⟩ ∧
      UserId.tryFrom resp.id = .ok accountId ∧
      (DeviceContext.ofDeviceAddResult r).accountId = accountId ∧
      (DeviceContext.ofDeviceAddResult r).segmentId = resp.segmentId ∧
      (DeviceContext.ofDeviceAddResult r).privateDeviceKey = deviceAdd.deviceKeys.privateKey ∧
      (DeviceContext.ofDeviceAddResult r).signingKeys = deviceAdd.signingKeys :=
  ⟨_, _, rfl, generateDeviceKey_bindsDeviceKeys Aead.transparent Pbkdf2.zeros Recrypt.zeros
    Backend.oneUser (fun _ => .ok ⟨.zero 32, .zero 32⟩) ⟨"a.b.c"⟩ ⟨"p"⟩ none ⟨0, 0, by decide⟩
    ourRequest ⟨(), []⟩ _ _ rfl⟩

end Provisioning

/-! ## 6. No write after a failed local step -/

section Failures

variable {σ δ : Type} (aead : Aead) (pbkdf2 : Pbkdf2) (rng : Rng σ) (recrypt : Recrypt σ)
  (backend : Backend δ) (publicKeyTryFrom : WirePublicKey → Except IronOxideErr PublicKey)

/-- No lifecycle call sends its write request after a failed local step. A failing step ends the
call with that step's error, in a world whose requests are those sent before the call and the
call's read request; and the write request is sent only when every local step succeeded. -/
theorem lifecycle_noWriteAfterFailedStep :
    (∀ (jwt : Jwt) (passphrase : Password) (needsRotation : Bool) (request : IronCoreRequest)
        (w : World σ),
      (∀ e s₁, recrypt.generateKeyPair w.rng = (.error e, s₁) →
        userCreate aead pbkdf2 rng recrypt backend jwt passphrase needsRotation request w =
          .error (.err (.ofRecryptErr e)) { w with rng := s₁ }) ∧
      (∀ priv pub s₁ f s₂, recrypt.generateKeyPair w.rng = (.ok (priv, pub), s₁) →
        encryptUserMasterKey aead pbkdf2 rng passphrase.password priv.bytes s₁ = .error f s₂ →
        userCreate aead pbkdf2 rng recrypt backend jwt passphrase needsRotation request w =
          .error (f.map .ofUnspecified) { w with rng := s₂ }) ∧
      (∀ req, (RustM.stateAfter (userCreate aead pbkdf2 rng recrypt backend jwt passphrase
          needsRotation request w)).sent = w.sent ++ [req] →
        ∃ priv pub s₁ emk s₂, recrypt.generateKeyPair w.rng = (.ok (priv, pub), s₁) ∧
          encryptUserMasterKey aead pbkdf2 rng passphrase.password priv.bytes s₁ = .ok emk s₂)) ∧
    (∀ (password : Password) (auth : RequestAuth) (w : World σ),
      (∀ resp e, backend.getCurrUser auth = .ok resp →
        EncryptedMasterKey.newFromSlice resp.userPrivateKey = .error e →
        userRotatePrivateKey aead pbkdf2 rng recrypt backend password auth w =
          .error (.err e) (w.record (.getCurrUser auth))) ∧
      (∀ resp emk f, backend.getCurrUser auth = .ok resp →
        EncryptedMasterKey.newFromSlice resp.userPrivateKey = .ok emk →
        decryptUserMasterKey aead pbkdf2 password.password emk = .error f →
        userRotatePrivateKey aead pbkdf2 rng recrypt backend password auth w =
          .error (f.map .ofUnspecified) (w.record (.getCurrUser auth))) ∧
      (∀ resp emk key e s₁, backend.getCurrUser auth = .ok resp →
        EncryptedMasterKey.newFromSlice resp.userPrivateKey = .ok emk →
        decryptUserMasterKey aead pbkdf2 password.password emk = .ok key →
        recrypt.augmentPrivateKeyWithRetry ⟨key⟩ w.rng = (.error e, s₁) →
        userRotatePrivateKey aead pbkdf2 rng recrypt backend password auth w =
          .error (.err e) { w.record (.getCurrUser auth) with rng := s₁ }) ∧
      (∀ resp emk key newKey aug s₁ f s₂, backend.getCurrUser auth = .ok resp →
        EncryptedMasterKey.newFromSlice resp.userPrivateKey = .ok emk →
        decryptUserMasterKey aead pbkdf2 password.password emk = .ok key →
        recrypt.augmentPrivateKeyWithRetry ⟨key⟩ w.rng = (.ok (newKey, aug), s₁) →
        encryptUserMasterKey aead pbkdf2 rng password.password newKey.bytes s₁ = .error f s₂ →
        userRotatePrivateKey aead pbkdf2 rng recrypt backend password auth w =
          .error (f.map .ofUnspecified) { w.record (.getCurrUser auth) with rng := s₂ }) ∧
      (∀ req, (RustM.stateAfter (userRotatePrivateKey aead pbkdf2 rng recrypt backend password auth
          w)).sent = w.sent ++ [.getCurrUser auth, req] →
        ∃ resp emk key newKey aug s₁ newEmk s₂, backend.getCurrUser auth = .ok resp ∧
          EncryptedMasterKey.newFromSlice resp.userPrivateKey = .ok emk ∧
          decryptUserMasterKey aead pbkdf2 password.password emk = .ok key ∧
          recrypt.augmentPrivateKeyWithRetry ⟨key⟩ w.rng = (.ok (newKey, aug), s₁) ∧
          encryptUserMasterKey aead pbkdf2 rng password.password newKey.bytes s₁ =
            .ok newEmk s₂)) ∧
    (∀ (jwt : Jwt) (password : Password) (deviceName : Option DeviceName) (signingTs : DateTime)
        (request : IronCoreRequest) (w : World σ),
      (backend.userVerify jwt request = .ok none →
        generateDeviceKey aead pbkdf2 recrypt backend publicKeyTryFrom jwt password deviceName
          signingTs request w = .error (.err (.userDoesNotExist
          "Device cannot be added to a user that doesn't exist"))
          (w.record (.userVerify jwt request))) ∧
      (∀ resp e, backend.userVerify jwt request = .ok (some resp) →
        publicKeyTryFrom resp.userMasterPublicKey = .error e →
        generateDeviceKey aead pbkdf2 recrypt backend publicKeyTryFrom jwt password deviceName
          signingTs request w = .error (.err e) (w.record (.userVerify jwt request))) ∧
      (∀ resp userPublicKey e, backend.userVerify jwt request = .ok (some resp) →
        publicKeyTryFrom resp.userMasterPublicKey = .ok userPublicKey →
        EncryptedMasterKey.newFromSlice resp.userPrivateKey = .error e →
        generateDeviceKey aead pbkdf2 recrypt backend publicKeyTryFrom jwt password deviceName
          signingTs request w = .error (.err e) (w.record (.userVerify jwt request))) ∧
      (∀ resp userPublicKey emk f, backend.userVerify jwt request = .ok (some resp) →
        publicKeyTryFrom resp.userMasterPublicKey = .ok userPublicKey →
        EncryptedMasterKey.newFromSlice resp.userPrivateKey = .ok emk →
        decryptUserMasterKey aead pbkdf2 password.password emk = .error f →
        generateDeviceKey aead pbkdf2 recrypt backend publicKeyTryFrom jwt password deviceName
          signingTs request w =
          .error (f.map .ofUnspecified) (w.record (.userVerify jwt request))) ∧
      (∀ resp userPublicKey emk key f s₁, backend.userVerify jwt request = .ok (some resp) →
        publicKeyTryFrom resp.userMasterPublicKey = .ok userPublicKey →
        EncryptedMasterKey.newFromSlice resp.userPrivateKey = .ok emk →
        decryptUserMasterKey aead pbkdf2 password.password emk = .ok key →
        generateDeviceAdd recrypt jwt ⟨userPublicKey, ⟨key⟩⟩ signingTs w.rng = .error f s₁ →
        generateDeviceKey aead pbkdf2 recrypt backend publicKeyTryFrom jwt password deviceName
          signingTs request w = .error f { w.record (.userVerify jwt request) with rng := s₁ }) ∧
      (∀ resp userPublicKey emk key deviceAdd s₁ e,
        backend.userVerify jwt request = .ok (some resp) →
        publicKeyTryFrom resp.userMasterPublicKey = .ok userPublicKey →
        EncryptedMasterKey.newFromSlice resp.userPrivateKey = .ok emk →
        decryptUserMasterKey aead pbkdf2 password.password emk = .ok key →
        generateDeviceAdd recrypt jwt ⟨userPublicKey, ⟨key⟩⟩ signingTs w.rng = .ok deviceAdd s₁ →
        UserId.tryFrom resp.id = .error e →
        generateDeviceKey aead pbkdf2 recrypt backend publicKeyTryFrom jwt password deviceName
          signingTs request w =
          .error (.err e) { w.record (.userVerify jwt request) with rng := s₁ }) ∧
      (∀ req, (RustM.stateAfter (generateDeviceKey aead pbkdf2 recrypt backend publicKeyTryFrom
          jwt password deviceName signingTs request w)).sent =
          w.sent ++ [.userVerify jwt request, req] →
        ∃ resp userPublicKey emk key deviceAdd s₁ accountId,
          backend.userVerify jwt request = .ok (some resp) ∧
          publicKeyTryFrom resp.userMasterPublicKey = .ok userPublicKey ∧
          EncryptedMasterKey.newFromSlice resp.userPrivateKey = .ok emk ∧
          decryptUserMasterKey aead pbkdf2 password.password emk = .ok key ∧
          generateDeviceAdd recrypt jwt ⟨userPublicKey, ⟨key⟩⟩ signingTs w.rng =
            .ok deviceAdd s₁ ∧
          UserId.tryFrom resp.id = .ok accountId)) := by
  -- each failing step is followed down its call's inversion lemma; `(t :)` elaborates `t` on
  -- its own, so each branch is read off the lemma and not guessed from the goal
  refine ⟨fun jwt passphrase needsRotation request w => ?_,
    fun password auth w => ?_, fun jwt password deviceName signingTs request w => ?_⟩
  · have hc := userCreate_cases aead pbkdf2 rng recrypt backend jwt passphrase needsRotation
      request w
    refine ⟨fun _ _ hk => (drawCases_error hc hk :),
      fun _ _ _ _ _ hk he => (resultCases_error (drawCases_ok hc hk :) he :), fun _ hsent => ?_⟩
    obtain ⟨priv, pub, s₁, emk, s₂, hk, he, -⟩ :=
      userCreate_of_sent aead pbkdf2 rng recrypt backend hsent
    exact ⟨priv, pub, s₁, emk, s₂, hk, he⟩
  · have hc := userRotatePrivateKey_cases aead pbkdf2 rng recrypt backend password auth w
    refine ⟨fun _ _ hg hn => (exceptCases_error (exceptCases_ok hc hg :) hn :),
      fun _ _ _ hg hn hd =>
        (exceptCases_error (exceptCases_ok (exceptCases_ok hc hg :) hn :) hd :),
      fun _ _ _ _ _ hg hn hd ha => (drawCases_error
        (exceptCases_ok (exceptCases_ok (exceptCases_ok hc hg :) hn :) hd :) ha :),
      fun _ _ _ _ _ _ _ _ hg hn hd ha he => (resultCases_error (drawCases_ok
        (exceptCases_ok (exceptCases_ok (exceptCases_ok hc hg :) hn :) hd :) ha :) he :),
      fun _ hsent => ?_⟩
    obtain ⟨resp, emk, key, newKey, aug, s₁, newEmk, s₂, hg, hn, hd, ha, he, -⟩ :=
      userRotatePrivateKey_of_sent aead pbkdf2 rng recrypt backend hsent
    exact ⟨resp, emk, key, newKey, aug, s₁, newEmk, s₂, hg, hn, hd, ha, he⟩
  · have hc := generateDeviceKey_cases aead pbkdf2 recrypt backend publicKeyTryFrom jwt password
      deviceName signingTs request w
    refine ⟨fun hv => (exceptOptionCases_none hc hv :),
      fun _ _ hv hp => (exceptCases_error (exceptOptionCases_some hc hv :) hp :),
      fun _ _ _ hv hp hn =>
        (exceptCases_error (exceptCases_ok (exceptOptionCases_some hc hv :) hp :) hn :),
      fun _ _ _ _ hv hp hn hd => (exceptCases_error (exceptCases_ok
        (exceptCases_ok (exceptOptionCases_some hc hv :) hp :) hn :) hd :),
      fun _ _ _ _ _ _ hv hp hn hd ha => (resultCases_error (exceptCases_ok (exceptCases_ok
        (exceptCases_ok (exceptOptionCases_some hc hv :) hp :) hn :) hd :) ha :),
      fun _ _ _ _ _ _ _ hv hp hn hd ha hu => (exceptCases_error (resultCases_ok (exceptCases_ok
        (exceptCases_ok (exceptCases_ok (exceptOptionCases_some hc hv :) hp :) hn :) hd :) ha :)
        hu :),
      fun _ hsent => ?_⟩
    obtain ⟨resp, userPublicKey, emk, key, deviceAdd, s₁, accountId, hv, hp, hn, hd, ha, hu, -⟩ :=
      generateDeviceKey_of_sent aead pbkdf2 recrypt backend publicKeyTryFrom hsent
    exact ⟨resp, userPublicKey, emk, key, deviceAdd, s₁, accountId, hv, hp, hn, hd, ha, hu⟩

theorem lifecycle_noWriteAfterFailedStep_emptyEscrow :
    (∃ resp e, Backend.emptyEscrow.getCurrUser ⟨⟨"u"⟩, 1, ⟨.zero 64⟩, ourRequest⟩ = .ok resp ∧
      EncryptedMasterKey.newFromSlice resp.userPrivateKey = .error e ∧
      userRotatePrivateKey Aead.transparent Pbkdf2.zeros Rng.zeros Recrypt.zeros
        Backend.emptyEscrow ⟨"p"⟩ ⟨⟨"u"⟩, 1, ⟨.zero 64⟩, ourRequest⟩ ⟨(), []⟩ =
        .error (.err e) ⟨(), [.getCurrUser ⟨⟨"u"⟩, 1, ⟨.zero 64⟩, ourRequest⟩]⟩) ∧
    ∃ create, (RustM.stateAfter (userCreate Aead.transparent Pbkdf2.zeros Rng.zeros Recrypt.zeros
        Backend.emptyEscrow ⟨"a.b.c"⟩ ⟨"p"⟩ false ourRequest ⟨(), []⟩)).sent = [create] ∧
      ∃ priv pub s₁ emk s₂, Recrypt.zeros.generateKeyPair () = (.ok (priv, pub), s₁) ∧
        encryptUserMasterKey Aead.transparent Pbkdf2.zeros Rng.zeros "p" priv.bytes s₁ =
          .ok emk s₂ := by
  obtain ⟨hcreate, hrotate, -⟩ := lifecycle_noWriteAfterFailedStep Aead.transparent Pbkdf2.zeros
    Rng.zeros Recrypt.zeros Backend.emptyEscrow (fun _ => .ok ⟨.zero 32, .zero 32⟩)
  exact ⟨⟨_, _, rfl, rfl, (hrotate ⟨"p"⟩ _ ⟨(), []⟩).1 _ _ rfl rfl⟩, _, rfl,
    (hcreate ⟨"a.b.c"⟩ ⟨"p"⟩ false ourRequest ⟨(), []⟩).2.2 _ rfl⟩

end Failures

/-! ## 7. No call panics -/

section Panics

variable {σ δ : Type} (aead : Aead) (pbkdf2 : Pbkdf2) (rng : Rng σ) (recrypt : Recrypt σ)
  (backend : Backend δ) (publicKeyTryFrom : WirePublicKey → Except IronOxideErr PublicKey)

theorem encryptUserMasterKey_noPanic (password : String) (key : ByteArr 32) :
    (encryptUserMasterKey aead pbkdf2 rng password key).NoPanic :=
  encryptUserMasterKey_ne_panic aead pbkdf2 rng password key

theorem generateDeviceAdd_noPanic (jwt : Jwt) (userMasterKeypair : KeyPair)
    (signingTs : DateTime) : (generateDeviceAdd recrypt jwt userMasterKeypair signingTs).NoPanic :=
  (RustM.noPanic_draw _).bind fun _ => ((RustM.noPanic_drawExcept _).mapErr _).bind fun ⟨_, _⟩ =>
    ((RustM.noPanic_drawExcept _).mapErr _).bind fun _ =>
      (RustM.noPanic_draw _).bind fun _ => RustM.noPanic_pure _

theorem userCreate_noPanic (jwt : Jwt) (passphrase : Password) (needsRotation : Bool)
    (request : IronCoreRequest) :
    (userCreate aead pbkdf2 rng recrypt backend jwt passphrase needsRotation request).NoPanic :=
  ((RustM.noPanic_drawExcept _).mapErr _).onRng.bind fun ⟨_, _⟩ =>
    ((encryptUserMasterKey_noPanic aead pbkdf2 rng _ _).mapErr _).onRng.bind fun _ =>
      send_noPanic _ _

theorem userRotatePrivateKey_noPanic (password : Password) (auth : RequestAuth) :
    (userRotatePrivateKey aead pbkdf2 rng recrypt backend password auth).NoPanic :=
  (send_noPanic _ _).bind fun _ => (RustM.noPanic_ofExcept _).bind fun _ =>
    ((RustM.NoPanic.ofFallible (decryptUserMasterKey_ne_panic aead pbkdf2 _ _)).mapErr _).bind
      fun _ => (RustM.noPanic_drawExcept _).onRng.bind fun ⟨_, _⟩ =>
        ((encryptUserMasterKey_noPanic aead pbkdf2 rng _ _).mapErr _).onRng.bind fun _ =>
          send_noPanic _ _

theorem generateDeviceKey_noPanic (jwt : Jwt) (password : Password)
    (deviceName : Option DeviceName) (signingTs : DateTime) (request : IronCoreRequest) :
    (generateDeviceKey aead pbkdf2 recrypt backend publicKeyTryFrom jwt password deviceName
      signingTs request).NoPanic := by
  refine (send_noPanic _ _).bind fun verified => ?_
  -- both branches on the verify answer go on with the do block's join point
  cases verified <;> dsimp only <;> refine RustM.NoPanic.bind ?_ fun _ => ?_
  all_goals first
    | exact RustM.noPanic_throw_err _
    | exact RustM.noPanic_pure _
    | exact (RustM.noPanic_ofExcept _).bind fun _ => (RustM.noPanic_ofExcept _).bind fun _ =>
        ((RustM.NoPanic.ofFallible (decryptUserMasterKey_ne_panic aead pbkdf2 _ _)).mapErr _).bind
          fun _ => (generateDeviceAdd_noPanic recrypt _ _ _).onRng.bind fun _ =>
            (RustM.noPanic_ofExcept _).bind fun _ => (send_noPanic _ _).bind fun _ =>
              RustM.noPanic_pure _

/-- No lifecycle call panics, from any world, whatever the backend answers and whatever the
primitives return: the panics in their code are the `copy_from_slice` calls of sealing and
unsealing, and each copies a slice of the length it copies into. -/
theorem lifecycle_neverPanics :
    (∀ jwt passphrase needsRotation request,
      (userCreate aead pbkdf2 rng recrypt backend jwt passphrase needsRotation request).NoPanic) ∧
    (∀ password auth,
      (userRotatePrivateKey aead pbkdf2 rng recrypt backend password auth).NoPanic) ∧
    (∀ jwt password deviceName signingTs request, (generateDeviceKey aead pbkdf2 recrypt backend
      publicKeyTryFrom jwt password deviceName signingTs request).NoPanic) :=
  ⟨userCreate_noPanic aead pbkdf2 rng recrypt backend,
    userRotatePrivateKey_noPanic aead pbkdf2 rng recrypt backend,
    generateDeviceKey_noPanic aead pbkdf2 recrypt backend publicKeyTryFrom⟩

end Panics

end IronOxide
