import IronOxide.Crypto.Ring

/-!
# `crypto/aes.rs`: the master-key escrow and the encrypted-value format

`EncryptedMasterKey` is the escrowed form of a user's master private key, `salt ‖ iv ‖
ciphertext-and-tag`; `AesEncryptedValue` is `iv ‖ ciphertext-and-tag` for a plaintext of any
length. The copies whose length is fixed by the types are built with their length proof; the
two `copy_from_slice` calls whose length depends on what `ring` returned are modelled with their
panic.
-/

namespace IronOxide

/-- `PBKDF2_ITERATIONS`. -/
def pbkdf2Iterations : Nat := 250000

/-- `PBKDF2_SALT_LEN`. -/
abbrev pbkdf2SaltLen : Nat := 32

/-- `AES_GCM_TAG_LEN`. -/
abbrev aesGcmTagLen : Nat := 16

/-- `AES_IV_LEN`. -/
abbrev aesIvLen : Nat := 12

/-- `AES_KEY_LEN`. -/
abbrev aesKeyLen : Nat := 32

/-- `ENCRYPTED_KEY_AND_GCM_TAG_LEN`: the sealed 32-byte key and its 16-byte tag. -/
abbrev encryptedKeyAndGcmTagLen : Nat := aesKeyLen + aesGcmTagLen

/-- `str::as_bytes`: the UTF-8 encoding of a string. -/
def asBytes (s : String) : List UInt8 := s.toUTF8.data.toList

/-! ## 1. `EncryptedMasterKey` -/

/-- `EncryptedMasterKey`: all three fields are fixed-size arrays. -/
structure EncryptedMasterKey where
  pbkdf2Salt : ByteArr pbkdf2SaltLen
  aesIv : ByteArr aesIvLen
  encryptedKey : ByteArr encryptedKeyAndGcmTagLen
deriving DecidableEq, Repr

namespace EncryptedMasterKey

/-- `EncryptedMasterKey::SIZE_BYTES`. -/
abbrev sizeBytes : Nat := pbkdf2SaltLen + aesIvLen + encryptedKeyAndGcmTagLen

/-- `EncryptedMasterKey::new_from_slice`: split a slice of exactly `SIZE_BYTES` bytes into salt,
IV and sealed key. -/
def newFromSlice (bytes : List UInt8) : Except IronOxideErr EncryptedMasterKey :=
  if h : bytes.length = sizeBytes then
    .ok { pbkdf2Salt := ⟨bytes.take pbkdf2SaltLen, by rw [List.length_take, h]; rfl⟩
          aesIv := ⟨(bytes.drop pbkdf2SaltLen).take aesIvLen, by
            rw [List.length_take, List.length_drop, h]; rfl⟩
          encryptedKey := ⟨bytes.drop (pbkdf2SaltLen + aesIvLen), by
            rw [List.length_drop, h]; rfl⟩ }
  else
    .error (.wrongSizeError (some bytes.length) (some sizeBytes))

/-- `EncryptedMasterKey::bytes`: `salt ‖ iv ‖ encrypted_key`, copied into a `[u8; SIZE_BYTES]`. -/
def bytes (k : EncryptedMasterKey) : ByteArr sizeBytes :=
  ⟨k.pbkdf2Salt.toList ++ k.aesIv.toList ++ k.encryptedKey.toList, by
    simp only [List.length_append, ByteArr.length_eq]⟩

end EncryptedMasterKey

/-! ## 2. `AesEncryptedValue` -/

/-- `AesEncryptedValue`: the IV and the ciphertext with its tag at the end. -/
structure AesEncryptedValue where
  aesIv : ByteArr aesIvLen
  ciphertext : List UInt8
deriving DecidableEq, Repr

namespace AesEncryptedValue

/-- `AesEncryptedValue::bytes`: `iv ‖ ciphertext`. -/
def bytes (v : AesEncryptedValue) : List UInt8 := v.aesIv.toList ++ v.ciphertext

/-- `TryFrom<&[u8]> for AesEncryptedValue`. -/
def tryFrom (bytes : List UInt8) : Except IronOxideErr AesEncryptedValue :=
  if h : bytes.length ≤ aesIvLen + aesGcmTagLen + 1 then
    .error .aesEncryptedDocSizeError
  else
    .ok { aesIv := ⟨bytes.take aesIvLen, List.length_take_of_le
            (Nat.le_trans (Nat.le_add_right _ (aesGcmTagLen + 1)) (Nat.le_of_not_le h))⟩,
          ciphertext := bytes.drop aesIvLen }

end AesEncryptedValue

/-! ## 3. Sealing and opening -/

section Primitives

variable {σ : Type} (aead : Aead) (pbkdf2 : Pbkdf2) (rng : Rng σ)

/-- `derive_key_from_password`: PBKDF2 over the password's bytes with the given salt. -/
def deriveKeyFromPassword (password : String) (salt : ByteArr pbkdf2SaltLen) :
    ByteArr aesKeyLen :=
  pbkdf2.derive pbkdf2Iterations salt.toList (asBytes password)

/-- `encrypt`: draw a fresh IV, extend the plaintext by `tag_len` zero bytes and seal the buffer
in place with no additional data. (`SealingKey::new` accepts every 32-byte key.) -/
def encrypt (plaintext : List UInt8) (key : ByteArr aesKeyLen) :
    RustM σ Unspecified AesEncryptedValue := do
  let iv ← rng.fill nonceLen
  let sealed ← RustM.ofExcept
    (aead.sealInPlace key iv [] (plaintext ++ List.replicate tagLen 0) tagLen)
  pure { aesIv := iv, ciphertext := sealed.toList }

/-- `decrypt`: open the ciphertext in place with no prefix and no additional data, and return
the plaintext slice. (The buffer it overwrites is not read again by any caller.) -/
def decrypt (encryptedDoc : AesEncryptedValue) (key : ByteArr aesKeyLen) :
    Except Unspecified (List UInt8) :=
  (aead.openInPlace key encryptedDoc.aesIv [] 0 encryptedDoc.ciphertext).map ByteArr.toList

/-- `encrypt_user_master_key`: draw a salt, derive the AES key from the password, seal the master
key and copy the 48-byte ciphertext into the fixed-size field. -/
def encryptUserMasterKey (password : String) (userMasterKey : ByteArr 32) :
    RustM σ Unspecified EncryptedMasterKey := do
  let salt ← rng.fill pbkdf2SaltLen
  let derivedKey := deriveKeyFromPassword pbkdf2 password salt
  let encryptedKey ← encrypt aead rng userMasterKey.toList derivedKey
  let masterKeyCiphertext ← RustM.orPanic (ByteArr.copyFromSlice encryptedKey.ciphertext)
  pure { pbkdf2Salt := salt, aesIv := encryptedKey.aesIv, encryptedKey := masterKeyCiphertext }

/-- `decrypt_user_master_key`: re-derive the AES key from the stored salt, open the stored IV and
ciphertext, and copy the plaintext into a `[u8; 32]`. -/
def decryptUserMasterKey (password : String) (encryptedMasterKey : EncryptedMasterKey) :
    Except (Fault Unspecified) (ByteArr 32) := do
  let derivedKey := deriveKeyFromPassword pbkdf2 password encryptedMasterKey.pbkdf2Salt
  let encryptedKey : AesEncryptedValue :=
    { aesIv := encryptedMasterKey.aesIv, ciphertext := encryptedMasterKey.encryptedKey.toList }
  let decryptedMasterKey ← (decrypt aead encryptedKey derivedKey).mapError .err
  match ByteArr.copyFromSlice decryptedMasterKey with
  | some fixedDecryptedMasterKey => pure fixedDecryptedMasterKey
  | none => throw .panic

end Primitives

end IronOxide
