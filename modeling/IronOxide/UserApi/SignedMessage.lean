import IronOxide.UserApi.Lifecycle

/-!
# What the device-add signed message determines

`SignedMessage::to_bytes` concatenates the decimal `timestamp_millis`, the transform key's
bytes, the JWT's bytes and the user's public key `x ‖ y`, with no lengths and no separators.
A reader that knows the transform key's length reads the message back (`readSignedMessage`)
whenever the byte after the decimal number is not a digit, that is, whenever the transform key's
encoding begins with a byte that is not an ASCII digit. Then equal messages have equal
timestamps in milliseconds, transform keys, JWTs and public keys. Without that condition the
decimal number can end inside the transform key, and the sub-millisecond part of the timestamp
is never in the message.
-/

namespace IronOxide

/-! ## 1. Reading a decimal number back -/

/-- An ASCII digit, `'0'` to `'9'`. -/
def isDigitByte (b : UInt8) : Bool := 48 ≤ b.toNat && b.toNat ≤ 57

/-- The number a run of ASCII digits writes, most significant digit first. -/
def digitsValue (digits : List UInt8) : Nat :=
  digits.foldl (fun acc d => 10 * acc + (d.toNat - 48)) 0

/-- Read a decimal integer off the front of `bytes`: an optional `-` and the longest run of
digits after it; what follows is returned with it. -/
def readDecimal : List UInt8 → Int × List UInt8
  | b :: rest =>
    if b = 45 then (-(digitsValue (rest.takeWhile isDigitByte) : Int), rest.dropWhile isDigitByte)
    else (digitsValue ((b :: rest).takeWhile isDigitByte), (b :: rest).dropWhile isDigitByte)
  | [] => (0, [])

/-- Bytes that begin with a byte other than an ASCII digit, and so end a decimal number written
right before them. -/
def stopsDecimal : List UInt8 → Bool
  | b :: _ => !isDigitByte b
  | [] => false

theorem digitsValue_append_singleton (digits : List UInt8) (d : UInt8) :
    digitsValue (digits ++ [d]) = 10 * digitsValue digits + (d.toNat - 48) := by
  simp [digitsValue, List.foldl_append]

theorem stopsDecimal_append {l : List UInt8} (h : stopsDecimal l = true) (r : List UInt8) :
    stopsDecimal (l ++ r) = true := by
  cases l with
  | nil => cases h
  | cons b l => exact h

/-- A run of digits followed by bytes that stop it is read off whole. -/
theorem takeWhile_dropWhile_digits {digits rest : List UInt8}
    (hd : ∀ b ∈ digits, isDigitByte b = true) (hr : stopsDecimal rest = true) :
    (digits ++ rest).takeWhile isDigitByte = digits ∧
      (digits ++ rest).dropWhile isDigitByte = rest := by
  obtain _ | ⟨b, rest⟩ := rest
  · cases hr
  have hb : ¬ isDigitByte b = true := by simpa [stopsDecimal] using hr
  rw [List.takeWhile_append_of_pos hd, List.dropWhile_append_of_pos hd,
    List.takeWhile_cons_of_neg hb, List.dropWhile_cons_of_neg hb, List.append_nil]
  exact ⟨rfl, rfl⟩

/-! ## 2. The decimal bytes of an integer -/

/-- The UTF-8 byte of a decimal digit character, and the digit it writes. -/
theorem utf8EncodeChar_digitChar : ∀ d < 10,
    String.utf8EncodeChar (Nat.digitChar d) = [UInt8.ofNat (48 + d)] ∧
      isDigitByte (UInt8.ofNat (48 + d)) = true ∧ (UInt8.ofNat (48 + d)).toNat - 48 = d := by
  decide

/-- `Nat.toDigitsCore` with enough fuel puts, before what it had, a non-empty run of digits
that writes the number. -/
theorem toDigitsCore_bytes (fuel n : Nat) (ds : List Char) (hn : n < fuel) :
    ∃ digits, digits ≠ [] ∧ (∀ b ∈ digits, isDigitByte b = true) ∧ digitsValue digits = n ∧
      (Nat.toDigitsCore 10 fuel n ds).flatMap String.utf8EncodeChar =
        digits ++ ds.flatMap String.utf8EncodeChar := by
  induction fuel generalizing n ds with
  | zero => exact absurd hn (Nat.not_lt_zero n)
  | succ fuel ih =>
    obtain ⟨henc, hdig, hval⟩ := utf8EncodeChar_digitChar (n % 10) (Nat.mod_lt n (by decide))
    have hstep : Nat.toDigitsCore 10 (fuel + 1) n ds =
        if n / 10 = 0 then Nat.digitChar (n % 10) :: ds
        else Nat.toDigitsCore 10 fuel (n / 10) (Nat.digitChar (n % 10) :: ds) := rfl
    rw [hstep]
    split
    · -- one digit left
      refine ⟨[UInt8.ofNat (48 + n % 10)], List.cons_ne_nil _ _, by simpa using hdig, ?_,
        by rw [List.flatMap_cons, henc]⟩
      rw [digitsValue, List.foldl_cons, List.foldl_nil, hval]
      omega
    · -- the higher digits come first
      obtain ⟨digits, -, hall, hv, heq⟩ := ih (n / 10) (Nat.digitChar (n % 10) :: ds) (by omega)
      refine ⟨digits ++ [UInt8.ofNat (48 + n % 10)], by simp, ?_, ?_, ?_⟩
      · simpa [or_imp, forall_and] using And.intro hall hdig
      · rw [digitsValue_append_singleton, hv, hval]
        omega
      · rw [heq, List.flatMap_cons, henc, List.append_assoc, List.singleton_append]

/-- `toString m` is read back from the front of its bytes, when what follows stops it. -/
theorem readDecimal_asBytes_toString (m : Int) {rest : List UInt8}
    (hr : stopsDecimal rest = true) : readDecimal (asBytes (toString m) ++ rest) = (m, rest) := by
  cases m with
  | ofNat k =>
    obtain ⟨digits, hne, hall, hv, heq⟩ := toDigitsCore_bytes (k + 1) k [] (Nat.lt_succ_self k)
    have hbytes : asBytes (toString (Int.ofNat k)) = digits := heq.trans (List.append_nil _)
    obtain ⟨htake, hdrop⟩ := takeWhile_dropWhile_digits hall hr
    obtain _ | ⟨b, bs⟩ := digits
    · exact absurd rfl hne
    have hb : b ≠ 45 := fun h => absurd (hall b (.head _)) (by rw [h]; decide)
    rw [hbytes, List.cons_append, readDecimal, if_neg hb, ← List.cons_append, htake, hdrop, hv]
    rfl
  | negSucc k =>
    obtain ⟨digits, -, hall, hv, heq⟩ :=
      toDigitsCore_bytes (k + 2) (k + 1) [] (Nat.lt_succ_self (k + 1))
    have hbytes : asBytes (toString (Int.negSucc k)) = 45 :: digits :=
      congrArg (45 :: ·) (heq.trans (List.append_nil _))
    obtain ⟨htake, hdrop⟩ := takeWhile_dropWhile_digits hall hr
    rw [hbytes, List.cons_append, readDecimal, if_pos rfl, htake, hdrop, hv]
    rfl

/-! ## 3. Reading the signed message back -/

/-- Read a device-add signed message back, given the length of the transform key's encoding:
the decimal timestamp in milliseconds, that many bytes of transform key, the JWT, and last the
64 bytes of the user's public key. -/
def readSignedMessage (transformKeyLen : Nat) (bytes : List UInt8) :
    Int × List UInt8 × List UInt8 × List UInt8 :=
  let (millis, rest) := readDecimal bytes
  let afterKey := rest.drop transformKeyLen
  (millis, rest.take transformKeyLen, afterKey.take (afterKey.length - 64),
    afterKey.drop (afterKey.length - 64))

theorem PublicKey.asBytes_length (k : PublicKey) : k.asBytes.length = 64 := by
  simp [PublicKey.asBytes, ByteArr.length_eq]

/-- A signed message whose transform key stops the decimal timestamp reads back to its four
fields. -/
theorem readSignedMessage_signedMessageToBytes (timestamp : DateTime)
    (transformKey : TransformKey) (jwt : Jwt) (userPublicKey : PublicKey)
    (h : stopsDecimal transformKey.toBytes = true) :
    readSignedMessage transformKey.toBytes.length
        (signedMessageToBytes timestamp transformKey jwt userPublicKey) =
      (timestamp.timestampMillis, transformKey.toBytes, jwt.toUtf8, userPublicKey.asBytes) := by
  have hrest := stopsDecimal_append (stopsDecimal_append h jwt.toUtf8) userPublicKey.asBytes
  have hlen : (jwt.toUtf8 ++ userPublicKey.asBytes).length - 64 = jwt.toUtf8.length := by
    rw [List.length_append, PublicKey.asBytes_length, Nat.add_sub_cancel]
  simp only [readSignedMessage, signedMessageToBytes, List.append_assoc]
  rw [← List.append_assoc transformKey.toBytes, readDecimal_asBytes_toString _ hrest]
  simp only [List.append_assoc, List.take_left, List.drop_left, hlen]

/-! ## 4. What equal messages share -/

theorem Jwt.tryFrom_ascii {s : String} {jwt : Jwt} (h : Jwt.tryFrom s = .ok jwt) :
    ∀ c ∈ jwt.jwt.data, c.toNat < 128 := by
  unfold Jwt.tryFrom at h
  split at h <;> cases h
  exact fun c hc => of_decide_eq_true (List.all_eq_true.mp ((Bool.and_eq_true _ _).mp ‹_›).1 c hc)

theorem utf8EncodeChar_of_ascii {c : Char} (h : c.toNat < 128) :
    String.utf8EncodeChar c = [c.val.toUInt8] := by
  have hv : c.val ≤ 0x7f := (Nat.le_of_lt_succ h : c.toNat ≤ 127)
  simp [String.utf8EncodeChar, hv]

/-- The characters of an ASCII string, read back from its UTF-8 bytes. -/
theorem map_ofNat_flatMap_utf8EncodeChar (l : List Char) (h : ∀ c ∈ l, c.toNat < 128) :
    (l.flatMap String.utf8EncodeChar).map (fun b => Char.ofNat b.toNat) = l := by
  induction l with
  | nil => rfl
  | cons c l ih =>
    have hc := h c (.head _)
    have hbyte : c.val.toUInt8.toNat = c.toNat := Nat.mod_eq_of_lt (show c.toNat < 256 by omega)
    rw [List.flatMap_cons, utf8EncodeChar_of_ascii hc, List.singleton_append, List.map_cons,
      hbyte, Char.ofNat_toNat, ih fun c hc => h c (.tail _ hc)]

/-- Two JWTs that `Jwt::try_from` accepts are equal when their bytes are. -/
theorem Jwt.eq_of_toUtf8_eq {a b : Jwt} (ha : ∃ s, Jwt.tryFrom s = .ok a)
    (hb : ∃ s, Jwt.tryFrom s = .ok b) (h : a.toUtf8 = b.toUtf8) : a = b := by
  obtain ⟨_, ha⟩ := ha
  obtain ⟨_, hb⟩ := hb
  have hdata : a.jwt.data = b.jwt.data := by
    rw [← map_ofNat_flatMap_utf8EncodeChar _ (Jwt.tryFrom_ascii ha),
      ← map_ofNat_flatMap_utf8EncodeChar _ (Jwt.tryFrom_ascii hb)]
    exact congrArg (List.map _) h
  cases a; cases b
  exact congrArg Jwt.mk (String.ext hdata)

theorem PublicKey.eq_of_asBytes_eq {a b : PublicKey} (h : a.asBytes = b.asBytes) : a = b := by
  obtain ⟨hx, hy⟩ := List.append_inj h (by rw [a.x.length_eq, b.x.length_eq])
  cases a; cases b
  congr <;> exact ByteArr.ext ‹_›

/-- The device-add signed message determines the timestamp in milliseconds, the transform key,
the JWT and the user's public key, among JWTs that `Jwt::try_from` accepts and transform keys
whose encodings have one length and begin with a byte that is not an ASCII digit. -/
theorem signedMessage_determinesFields {tsA tsB : DateTime} {tkA tkB : TransformKey}
    {jwtA jwtB : Jwt} {pkA pkB : PublicKey}
    (hjA : ∃ s, Jwt.tryFrom s = .ok jwtA) (hjB : ∃ s, Jwt.tryFrom s = .ok jwtB)
    (hlen : tkA.toBytes.length = tkB.toBytes.length)
    (hsA : stopsDecimal tkA.toBytes = true) (hsB : stopsDecimal tkB.toBytes = true)
    (h : signedMessageToBytes tsA tkA jwtA pkA = signedMessageToBytes tsB tkB jwtB pkB) :
    tsA.timestampMillis = tsB.timestampMillis ∧ tkA = tkB ∧ jwtA = jwtB ∧ pkA = pkB := by
  have hread := congrArg (readSignedMessage tkA.toBytes.length) h
  rw [readSignedMessage_signedMessageToBytes _ _ _ _ hsA, hlen,
    readSignedMessage_signedMessageToBytes _ _ _ _ hsB] at hread
  simp only [Prod.mk.injEq] at hread
  obtain ⟨hm, htk, hjwt, hpk⟩ := hread
  cases tkA; cases tkB
  exact ⟨hm, congrArg TransformKey.mk htk, Jwt.eq_of_toUtf8_eq hjA hjB hjwt,
    PublicKey.eq_of_asBytes_eq hpk⟩

theorem signedMessage_determinesFields_subMillisecond :
    signedMessageToBytes ⟨0, 0, by decide⟩ ⟨[0]⟩ ⟨"a.b.c"⟩ ⟨.zero 32, .zero 32⟩ =
      signedMessageToBytes ⟨0, 999999, by decide⟩ ⟨[0]⟩ ⟨"a.b.c"⟩ ⟨.zero 32, .zero 32⟩ ∧
    DateTime.timestampMillis ⟨0, 0, by decide⟩ = DateTime.timestampMillis ⟨0, 999999, by decide⟩ :=
  have h : signedMessageToBytes ⟨0, 0, by decide⟩ ⟨[0]⟩ ⟨"a.b.c"⟩ ⟨.zero 32, .zero 32⟩ =
      signedMessageToBytes ⟨0, 999999, by decide⟩ ⟨[0]⟩ ⟨"a.b.c"⟩ ⟨.zero 32, .zero 32⟩ := rfl
  ⟨h, (signedMessage_determinesFields ⟨"a.b.c", rfl⟩ ⟨"a.b.c", rfl⟩ (by rfl) (by rfl) (by rfl)
    h).1⟩

/-- Different tuples with one message. Two timestamps less than a millisecond apart give one
message whatever the other fields are. With a transform key that begins with the digit `0`, the
timestamp 1 ms with the JWT `0.b.c` and the timestamp 10 ms with the JWT `.b.c` give one message,
for a transform key of any length. -/
theorem signedMessage_collisions :
    (⟨0, 0, by decide⟩ : DateTime) ≠ ⟨0, 1, by decide⟩ ∧
    (∀ transformKey jwt userPublicKey,
      signedMessageToBytes ⟨0, 0, by decide⟩ transformKey jwt userPublicKey =
        signedMessageToBytes ⟨0, 1, by decide⟩ transformKey jwt userPublicKey) ∧
    Jwt.tryFrom "0.b.c" = .ok ⟨"0.b.c"⟩ ∧ Jwt.tryFrom ".b.c" = .ok ⟨".b.c"⟩ ∧
    DateTime.timestampMillis ⟨0, 1000000, by decide⟩ = 1 ∧
    DateTime.timestampMillis ⟨0, 10000000, by decide⟩ = 10 ∧
    (∀ n userPublicKey,
      signedMessageToBytes ⟨0, 1000000, by decide⟩ ⟨List.replicate n 48⟩ ⟨"0.b.c"⟩ userPublicKey =
        signedMessageToBytes ⟨0, 10000000, by decide⟩ ⟨List.replicate n 48⟩ ⟨".b.c"⟩
          userPublicKey) := by
  refine ⟨by decide, fun _ _ _ => rfl, rfl, rfl, rfl, rfl, fun n _ => ?_⟩
  have hshift : ∀ rest : List UInt8,
      List.replicate n 48 ++ 48 :: rest = 48 :: (List.replicate n 48 ++ rest) := fun rest => by
    rw [← List.cons_append, ← List.replicate_succ, List.replicate_succ', List.append_assoc,
      List.singleton_append]
  show [49] ++ List.replicate n 48 ++ [48, 46, 98, 46, 99] ++ _ =
    [49, 48] ++ List.replicate n 48 ++ [46, 98, 46, 99] ++ _
  simp only [List.append_assoc, List.singleton_append, List.cons_append, List.nil_append, hshift]

end IronOxide
