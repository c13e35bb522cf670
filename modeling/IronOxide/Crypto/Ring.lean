import IronOxide.Internal.Error

/-!
# The `ring` primitives `aes.rs` calls

`ring` is a dependency, not part of this repository, so its calls are an interface here: the
in-place AES-256-GCM `seal_in_place` / `open_in_place` and PBKDF2-HMAC-SHA256. What the types
fix is what Rust's slices fix (a sealed buffer keeps its length, an opened one is returned as
`in_out[in_prefix_len .. in_out.len() - TAG_LEN]`); the one law assumed is that opening undoes
sealing.
-/

namespace IronOxide

/-- `aead::NONCE_LEN`. -/
abbrev nonceLen : Nat := 12

/-- `aead::AES_256_GCM.tag_len()`. -/
abbrev tagLen : Nat := 16

/-- The `ring::aead` calls on `AES_256_GCM`. -/
structure Aead where
  /-- `seal_in_place(key, nonce, aad, in_out, out_suffix_capacity)`: the buffer it leaves. -/
  sealInPlace : (key : ByteArr 32) → (nonce : ByteArr nonceLen) → (aad : List UInt8) →
    (inOut : List UInt8) → (outSuffixCapacity : Nat) → Except Unspecified (ByteArr inOut.length)
  /-- `open_in_place(key, nonce, aad, in_prefix_len, in_out)`: the plaintext slice it returns. -/
  openInPlace : (key : ByteArr 32) → (nonce : ByteArr nonceLen) → (aad : List UInt8) →
    (inPrefixLen : Nat) → (inOut : List UInt8) →
    Except Unspecified (ByteArr (inOut.length - inPrefixLen - tagLen))
  /-- Opening, with no prefix, what sealing wrote over `plaintext ‖ [0; TAG_LEN]` gives back the
  plaintext, under the same key, nonce and additional data. -/
  open_seal : ∀ key nonce aad (plaintext : List UInt8) sealed,
    sealInPlace key nonce aad (plaintext ++ List.replicate tagLen 0) tagLen = .ok sealed →
    (openInPlace key nonce aad 0 sealed.toList).map ByteArr.toList = .ok plaintext

/-- An AEAD that leaves the buffer as it is and checks nothing. It meets `open_seal`, so the
hypotheses the theorems put on an `Aead` are met by at least one. -/
def Aead.transparent : Aead where
  sealInPlace _ _ _ inOut _ := .ok ⟨inOut, rfl⟩
  openInPlace _ _ _ inPrefixLen inOut :=
    .ok ⟨(inOut.drop inPrefixLen).take (inOut.length - inPrefixLen - tagLen), by
      rw [List.length_take, List.length_drop]; exact Nat.min_eq_left (Nat.sub_le _ _)⟩
  open_seal _ _ _ plaintext _ h := by
    cases h
    simp only [Except.map, List.drop_zero, List.length_append, List.length_replicate,
      Nat.sub_zero, Nat.add_sub_cancel, List.take_left']

/-- `pbkdf2::derive(&digest::SHA256, iterations, salt, secret, out)` into a 32-byte `out`. -/
structure Pbkdf2 where
  derive : (iterations : Nat) → (salt : List UInt8) → (secret : List UInt8) → ByteArr 32

/-- A key derivation that derives the all-zero key from everything. -/
def Pbkdf2.zeros : Pbkdf2 := ⟨fun _ _ _ => .zero 32⟩

end IronOxide
