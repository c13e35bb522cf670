import IronOxide.Crypto.Codec

/-!
# Sealing and unsealing round trips

`encrypt` / `decrypt` on a plaintext of any length, and the master-key escrow
`encrypt_user_master_key` / `decrypt_user_master_key`. Each theorem holds for every AEAD with the
`open_seal` law, every PBKDF2 and every random source: the salt and IV stored by the sealing side
are what the opening side re-derives its key from and opens under.
-/

namespace IronOxide

section Escrow

variable {σ : Type} (aead : Aead) (pbkdf2 : Pbkdf2) (rng : Rng σ)

/-! ## 1. One lemma per function -/

/-- `encrypt` returns exactly when sealing `plaintext ‖ [0; 16]` under the drawn IV succeeds. -/
theorem encrypt_eq_ok {p : List UInt8} {key : ByteArr aesKeyLen} {s s' : σ}
    {v : AesEncryptedValue} :
    encrypt aead rng p key s = .ok v s' ↔
      ∃ sealed, aead.sealInPlace key (rng.fillBytes nonceLen s).1 []
          (p ++ List.replicate tagLen 0) tagLen = .ok sealed ∧
        v = ⟨(rng.fillBytes nonceLen s).1, sealed.toList⟩ ∧ s' = (rng.fillBytes nonceLen s).2 := by
  unfold encrypt
  rw [RustM.bind_apply_ok (Rng.fill_apply rng nonceLen s)]
  cases h : aead.sealInPlace key (rng.fillBytes nonceLen s).1 [] (p ++ List.replicate tagLen 0)
    tagLen with
  | ok sealed =>
    rw [RustM.bind_apply_ok (RustM.ofExcept_ok sealed _)]
    simp only [RustM.pure_apply, EStateM.Result.ok.injEq, Except.ok.injEq, exists_eq_left']
    exact ⟨fun ⟨hv, hs⟩ => ⟨hv.symm, hs.symm⟩, fun ⟨hv, hs⟩ => ⟨hv.symm, hs.symm⟩⟩
  | error e =>
    rw [RustM.bind_apply_error (RustM.ofExcept_error e _)]
    simp

/-- `encrypt` never panics. -/
theorem encrypt_ne_panic (p : List UInt8) (key : ByteArr aesKeyLen) (s s' : σ) :
    encrypt aead rng p key s ≠ .error .panic s' := by
  unfold encrypt
  rw [RustM.bind_apply_ok (Rng.fill_apply rng nonceLen s)]
  cases h : aead.sealInPlace key (rng.fillBytes nonceLen s).1 [] (p ++ List.replicate tagLen 0)
    tagLen with
  | ok sealed => rw [RustM.bind_apply_ok (RustM.ofExcept_ok sealed _)]; simp
  | error e => rw [RustM.bind_apply_error (RustM.ofExcept_error e _)]; simp

/-- A sealed ciphertext is the plaintext's length plus the 16-byte tag. -/
theorem encrypt_ciphertext_length {p : List UInt8} {key : ByteArr aesKeyLen} {s s' : σ}
    {v : AesEncryptedValue} (h : encrypt aead rng p key s = .ok v s') :
    v.ciphertext.length = p.length + tagLen := by
  obtain ⟨sealed, -, rfl, -⟩ := (encrypt_eq_ok aead rng).mp h
  simp [sealed.length_eq]

/-- The plaintext `decrypt` returns is the ciphertext without its tag. -/
theorem decrypt_length {v : AesEncryptedValue} {key : ByteArr aesKeyLen} {p : List UInt8}
    (h : decrypt aead v key = .ok p) : p.length = v.ciphertext.length - tagLen := by
  unfold decrypt at h
  cases ho : aead.openInPlace key v.aesIv [] 0 v.ciphertext with
  | ok b => rw [ho] at h; cases h; simp [b.length_eq]
  | error e => rw [ho] at h; cases h

/-- `decrypt` undoes `encrypt` under the same key: the IV stored with the ciphertext is the one
the buffer was sealed under, and the whole ciphertext and tag reach `open_in_place`. -/
theorem decrypt_encrypt {p : List UInt8} {key : ByteArr aesKeyLen} {s s' : σ}
    {v : AesEncryptedValue} (h : encrypt aead rng p key s = .ok v s') :
    decrypt aead v key = .ok p := by
  obtain ⟨sealed, hseal, rfl, -⟩ := (encrypt_eq_ok aead rng).mp h
  exact aead.open_seal _ _ _ _ _ hseal

/-- The escrow record holds the drawn salt, and the IV and ciphertext of sealing the master key
under the key derived from that salt. -/
theorem encryptUserMasterKey_fields {password : String} {key : ByteArr 32} {s s' : σ}
    {emk : EncryptedMasterKey}
    (h : encryptUserMasterKey aead pbkdf2 rng password key s = .ok emk s') :
    emk.pbkdf2Salt = (rng.fillBytes pbkdf2SaltLen s).1 ∧
      encrypt aead rng key.toList (deriveKeyFromPassword pbkdf2 password emk.pbkdf2Salt)
        (rng.fillBytes pbkdf2SaltLen s).2 = .ok ⟨emk.aesIv, emk.encryptedKey.toList⟩ s' := by
  unfold encryptUserMasterKey at h
  rw [RustM.bind_apply_ok (Rng.fill_apply rng pbkdf2SaltLen s)] at h
  cases he : encrypt aead rng key.toList
      (deriveKeyFromPassword pbkdf2 password (rng.fillBytes pbkdf2SaltLen s).1)
      (rng.fillBytes pbkdf2SaltLen s).2 with
  | ok v s₂ =>
    rw [RustM.bind_apply_ok he] at h
    cases hc : (ByteArr.copyFromSlice v.ciphertext : Option (ByteArr encryptedKeyAndGcmTagLen)) with
    | some c =>
      rw [hc, RustM.bind_apply_ok (RustM.orPanic_some c s₂)] at h
      cases h
      have hct : c.toList = v.ciphertext := by
        unfold ByteArr.copyFromSlice at hc; split at hc <;> cases hc; rfl
      exact ⟨rfl, by rw [he, hct]⟩
    | none => rw [hc, RustM.bind_apply_error (RustM.orPanic_none s₂)] at h; cases h
  | error e s₂ => rw [RustM.bind_apply_error he] at h; cases h

/-- `encrypt_user_master_key` never panics: the sealed key and tag are exactly 48 bytes. -/
theorem encryptUserMasterKey_ne_panic (password : String) (key : ByteArr 32) (s s' : σ) :
    encryptUserMasterKey aead pbkdf2 rng password key s ≠ .error .panic s' := by
  unfold encryptUserMasterKey
  rw [RustM.bind_apply_ok (Rng.fill_apply rng pbkdf2SaltLen s)]
  cases he : encrypt aead rng key.toList
      (deriveKeyFromPassword pbkdf2 password (rng.fillBytes pbkdf2SaltLen s).1)
      (rng.fillBytes pbkdf2SaltLen s).2 with
  | ok v s₂ =>
    have hlen : v.ciphertext.length = encryptedKeyAndGcmTagLen := by
      rw [encrypt_ciphertext_length aead rng he, key.length_eq]
    rw [RustM.bind_apply_ok he, ByteArr.copyFromSlice_of_length hlen,
      RustM.bind_apply_ok (RustM.orPanic_some _ s₂)]
    simp
  | error e s₂ =>
    rw [RustM.bind_apply_error he]
    intro hp
    cases hp
    exact encrypt_ne_panic aead rng _ _ _ _ he

/-- Unsealing returns the key whose bytes `decrypt` opens to. -/
theorem decryptUserMasterKey_of_decrypt {password : String} {emk : EncryptedMasterKey}
    {key : ByteArr 32}
    (h : decrypt aead ⟨emk.aesIv, emk.encryptedKey.toList⟩
      (deriveKeyFromPassword pbkdf2 password emk.pbkdf2Salt) = .ok key.toList) :
    decryptUserMasterKey aead pbkdf2 password emk = .ok key := by
  simp only [decryptUserMasterKey, h, Except.mapError, bind, Except.bind,
    ByteArr.copyFromSlice_toList]
  rfl

/-- `decrypt_user_master_key` never panics: opening a 48-byte buffer gives 32 bytes. -/
theorem decryptUserMasterKey_ne_panic (password : String) (emk : EncryptedMasterKey) :
    decryptUserMasterKey aead pbkdf2 password emk ≠ .error .panic := by
  cases hd : decrypt aead ⟨emk.aesIv, emk.encryptedKey.toList⟩
      (deriveKeyFromPassword pbkdf2 password emk.pbkdf2Salt) with
  | ok p =>
    have hlen : p.length = 32 := by
      rw [decrypt_length aead hd, emk.encryptedKey.length_eq]; rfl
    rw [@decryptUserMasterKey_of_decrypt aead pbkdf2 password emk ⟨p, hlen⟩ hd]
    nofun
  | error e =>
    simp only [decryptUserMasterKey, hd, Except.mapError, bind, Except.bind]
    nofun

/-! ## 2. The master-key escrow -/

/-- An escrow record that sealing returns unseals, under the same password, to the sealed key. -/
theorem decryptUserMasterKey_encryptUserMasterKey {password : String} {key : ByteArr 32}
    {s s' : σ} {emk : EncryptedMasterKey}
    (h : encryptUserMasterKey aead pbkdf2 rng password key s = .ok emk s') :
    decryptUserMasterKey aead pbkdf2 password emk = .ok key := by
  obtain ⟨-, he⟩ := encryptUserMasterKey_fields aead pbkdf2 rng h
  exact decryptUserMasterKey_of_decrypt aead pbkdf2 (decrypt_encrypt aead rng he)

/-- The escrow round trip: whatever the password, the master key and the RNG's draws, a sealed
master key unseals under the same password to that key; neither call can panic, whatever
`EncryptedMasterKey` `decrypt_user_master_key` is given. -/
theorem masterKeyEscrow_roundTrip :
    (∀ (password : String) (key : ByteArr 32) (s s' : σ) (emk : EncryptedMasterKey),
      encryptUserMasterKey aead pbkdf2 rng password key s = .ok emk s' →
      decryptUserMasterKey aead pbkdf2 password emk = .ok key) ∧
    (∀ (password : String) (key : ByteArr 32) (s s' : σ),
      encryptUserMasterKey aead pbkdf2 rng password key s ≠ .error .panic s') ∧
    (∀ (password : String) (emk : EncryptedMasterKey),
      decryptUserMasterKey aead pbkdf2 password emk ≠ .error .panic) :=
  ⟨fun _ _ _ _ _ h => decryptUserMasterKey_encryptUserMasterKey aead pbkdf2 rng h,
    encryptUserMasterKey_ne_panic aead pbkdf2 rng, decryptUserMasterKey_ne_panic aead pbkdf2⟩

/-! ## 3. The encrypted-value format -/

/-- A sealed plaintext of at least two bytes survives `bytes()` and `try_from`, and opens to the
plaintext again. -/
theorem encryptedValue_roundTrip {p : List UInt8} {key : ByteArr aesKeyLen} {s s' : σ}
    {v : AesEncryptedValue} (h : encrypt aead rng p key s = .ok v s') :
    v.ciphertext.length = p.length + tagLen ∧
      (2 ≤ p.length → AesEncryptedValue.tryFrom v.bytes = .ok v ∧ decrypt aead v key = .ok p) := by
  have hlen := encrypt_ciphertext_length aead rng h
  refine ⟨hlen, fun hp => ⟨AesEncryptedValue.tryFrom_bytes ?_, decrypt_encrypt aead rng h⟩⟩
  rw [hlen]; simp only [tagLen]; omega

theorem encryptedValue_roundTrip_twoZeros :
    ∃ v, encrypt Aead.transparent Rng.zeros [0, 0] (.zero 32) () = .ok v () ∧
      v.ciphertext.length = [0, 0].length + tagLen ∧
      (2 ≤ [0, 0].length → AesEncryptedValue.tryFrom v.bytes = .ok v ∧
        decrypt Aead.transparent v (.zero 32) = .ok [0, 0]) :=
  ⟨_, rfl, @encryptedValue_roundTrip Unit Aead.transparent Rng.zeros [0, 0] (.zero 32) () () _ rfl⟩

/-- `try_from` refuses the serialization of every sealed one-byte plaintext: it is 29 bytes, and
`try_from` compares the length with `<=` against IV + tag + 1 = 29. -/
theorem tryFrom_refuses_sealed_single_byte {b : UInt8} {key : ByteArr aesKeyLen} {s s' : σ}
    {v : AesEncryptedValue} (h : encrypt aead rng [b] key s = .ok v s') :
    v.bytes.length = 29 ∧ AesEncryptedValue.tryFrom v.bytes = .error .aesEncryptedDocSizeError := by
  have hlen : v.bytes.length = 29 := by
    simp only [AesEncryptedValue.bytes, List.length_append, v.aesIv.length_eq,
      encrypt_ciphertext_length aead rng h]
    rfl
  exact ⟨hlen, AesEncryptedValue.tryFrom_of_length_le hlen.le⟩

theorem tryFrom_refuses_sealed_zero_byte :
    ∃ v, encrypt Aead.transparent Rng.zeros [0] ⟨List.replicate 32 0, rfl⟩ () = .ok v () ∧
      v.bytes.length = 29 ∧ AesEncryptedValue.tryFrom v.bytes = .error .aesEncryptedDocSizeError :=
  ⟨_, rfl, @tryFrom_refuses_sealed_single_byte Unit Aead.transparent Rng.zeros 0
    ⟨List.replicate 32 0, rfl⟩ () () _ rfl⟩

end Escrow

end IronOxide
