import IronOxide.Crypto.Aes

/-!
# The two byte formats of `aes.rs`

`EncryptedMasterKey::bytes` / `new_from_slice` and `AesEncryptedValue::bytes` / `try_from`.
Both decoders split a slice at fixed offsets; the lemmas below say what each split gives back
and which slice lengths each decoder refuses.
-/

namespace IronOxide

/-! ## 1. `EncryptedMasterKey` -/

namespace EncryptedMasterKey

@[simp] theorem bytes_toList (k : EncryptedMasterKey) :
    k.bytes.toList = k.pbkdf2Salt.toList ++ k.aesIv.toList ++ k.encryptedKey.toList := rfl

/-- What `new_from_slice` reads out of a slice it accepts. -/
theorem newFromSlice_fields {b : List UInt8} {k : EncryptedMasterKey}
    (hk : newFromSlice b = .ok k) :
    b.length = sizeBytes ∧ k.pbkdf2Salt.toList = b.take pbkdf2SaltLen ∧
      k.aesIv.toList = (b.drop pbkdf2SaltLen).take aesIvLen ∧
      k.encryptedKey.toList = b.drop (pbkdf2SaltLen + aesIvLen) := by
  unfold newFromSlice at hk
  split at hk
  · cases hk; exact ⟨‹_›, rfl, rfl, rfl⟩
  · cases hk

theorem newFromSlice_of_length {b : List UInt8} (h : b.length = sizeBytes) :
    ∃ k, newFromSlice b = .ok k ∧ k.bytes.toList = b := by
  refine ⟨_, dif_pos h, ?_⟩
  simp only [bytes_toList, List.append_assoc, ← List.drop_drop, List.take_append_drop]

theorem newFromSlice_of_length_ne {b : List UInt8} (h : b.length ≠ sizeBytes) :
    newFromSlice b = .error (.wrongSizeError (some b.length) (some sizeBytes)) := dif_neg h

/-- Salt and IV have fixed lengths, so `bytes()` tells keys apart. -/
theorem bytes_injective {k k' : EncryptedMasterKey} (h : k.bytes.toList = k'.bytes.toList) :
    k = k' := by
  simp only [bytes_toList, List.append_assoc] at h
  obtain ⟨hsalt, hrest⟩ :=
    List.append_inj h (k.pbkdf2Salt.length_eq.trans k'.pbkdf2Salt.length_eq.symm)
  obtain ⟨hiv, hkey⟩ := List.append_inj hrest (k.aesIv.length_eq.trans k'.aesIv.length_eq.symm)
  cases k; cases k'
  congr <;> exact ByteArr.ext ‹_›

/-- Decoding the encoding gives back all three fields. -/
theorem newFromSlice_bytes (k : EncryptedMasterKey) : newFromSlice k.bytes.toList = .ok k := by
  obtain ⟨k', hk', hb⟩ := newFromSlice_of_length k.bytes.length_eq
  rw [hk', bytes_injective hb]

/-- The `EncryptedMasterKey` byte codec: `bytes()` is the 92 bytes `salt ‖ iv ‖ encrypted_key`
and `new_from_slice` reads them back; `new_from_slice` accepts exactly the 92-byte slices, gives
back the slice through `bytes()`, and names both sizes when it refuses one. -/
theorem encryptedMasterKey_codec :
    sizeBytes = 92 ∧
    (∀ k : EncryptedMasterKey,
      k.bytes.toList = k.pbkdf2Salt.toList ++ k.aesIv.toList ++ k.encryptedKey.toList ∧
      newFromSlice k.bytes.toList = .ok k) ∧
    (∀ b : List UInt8,
      ((∃ k, newFromSlice b = .ok k) ↔ b.length = 92) ∧
      (∀ k, newFromSlice b = .ok k → k.bytes.toList = b) ∧
      (b.length ≠ 92 → newFromSlice b = .error (.wrongSizeError (some b.length) (some 92)))) := by
  refine ⟨rfl, fun k => ⟨rfl, newFromSlice_bytes k⟩, fun b => ⟨⟨fun ⟨_, hk⟩ =>
    (newFromSlice_fields hk).1, fun h => (newFromSlice_of_length h).imp fun _ => And.left⟩,
    fun k hk => ?_, newFromSlice_of_length_ne⟩⟩
  obtain ⟨k', hk', hb⟩ := newFromSlice_of_length (newFromSlice_fields hk).1
  rw [hk] at hk'
  cases hk'
  exact hb

end EncryptedMasterKey

/-! ## 2. `AesEncryptedValue` -/

namespace AesEncryptedValue

theorem tryFrom_of_length_le {b : List UInt8} (h : b.length ≤ 29) :
    tryFrom b = .error .aesEncryptedDocSizeError := dif_pos h

theorem tryFrom_of_lt_length {b : List UInt8} (h : 29 < b.length) :
    ∃ v, tryFrom b = .ok v ∧ v.aesIv.toList = b.take aesIvLen ∧ v.ciphertext = b.drop aesIvLen :=
  ⟨_, dif_neg (Nat.not_le.mpr h), rfl, rfl⟩

/-- `try_from` refuses exactly the slices of at most 29 bytes; what it accepts, `bytes()` gives
back. -/
theorem tryFrom_spec (b : List UInt8) :
    ((∃ v, tryFrom b = .ok v) ↔ 30 ≤ b.length) ∧ (∀ v, tryFrom b = .ok v → v.bytes = b) := by
  by_cases h : b.length ≤ 29
  · rw [tryFrom_of_length_le h]
    refine ⟨⟨fun ⟨_, hv⟩ => ?_, fun h' => absurd h' (by omega)⟩, fun _ hv => ?_⟩ <;> cases hv
  · obtain ⟨v, hv, hiv, hct⟩ := tryFrom_of_lt_length (Nat.lt_of_not_le h)
    refine ⟨⟨fun _ => by omega, fun _ => ⟨v, hv⟩⟩, fun v' hv' => ?_⟩
    rw [hv] at hv'
    cases hv'
    simp only [bytes, hiv, hct, List.take_append_drop]

/-- The IV has a fixed length, so `bytes()` tells values apart. -/
theorem bytes_injective {v v' : AesEncryptedValue} (h : v.bytes = v'.bytes) : v = v' := by
  obtain ⟨hiv, hct⟩ := List.append_inj h (v.aesIv.length_eq.trans v'.aesIv.length_eq.symm)
  cases v; cases v'
  congr
  exact ByteArr.ext hiv

/-- `try_from` of `iv ‖ ciphertext` gives back the IV and the ciphertext, once the ciphertext
has at least 18 bytes. -/
theorem tryFrom_bytes {v : AesEncryptedValue} (h : 17 < v.ciphertext.length) :
    tryFrom v.bytes = .ok v := by
  have hlen : 30 ≤ v.bytes.length := by
    simp only [bytes, List.length_append, v.aesIv.length_eq, aesIvLen]; omega
  obtain ⟨v', hv'⟩ := (tryFrom_spec v.bytes).1.mpr hlen
  rw [hv', bytes_injective ((tryFrom_spec v.bytes).2 v' hv')]

end AesEncryptedValue

end IronOxide
