import IronOxide.Internal.Validate

/-!
# What `validate_id` and `validate_name` accept

`validate_id` accepts exactly the trimmed ids of 1 to 100 bytes drawn from its character class,
and gives back each such id unchanged when it is validated again. `validate_name` bounds the
trimmed name's length in UTF-8 bytes, not in characters.
-/

namespace IronOxide

namespace Str

/-! ## 1. Byte length -/

@[simp] theorem len_nil : len ⟨[]⟩ = 0 := rfl

theorem len_cons (c : Char) (cs : List Char) : len ⟨c :: cs⟩ = len ⟨cs⟩ + c.utf8Size := rfl

theorem utf8Size_of_lt {c : Char} (h : c.toNat < 128) : c.utf8Size = 1 := by
  have h' : c.val ≤ UInt32.ofNatCore 0x7F (by decide) := by
    show c.val.val.val ≤ 127
    exact Nat.le_of_lt_succ h
  simp only [Char.utf8Size, h', ite_true]

/-- An ASCII string has as many bytes as characters. -/
theorem len_eq_length {s : String} (h : ∀ c ∈ s.data, c.toNat < 128) : len s = s.length := by
  obtain ⟨cs⟩ := s
  induction cs with
  | nil => rfl
  | cons c cs ih =>
    rw [len_cons, ih (fun d hd => h d (List.mem_cons_of_mem c hd)),
      utf8Size_of_lt (h c (List.mem_cons_self c cs))]
    rfl

theorem isEmpty_iff {s : String} : isEmpty s = true ↔ s.data = [] := by
  obtain ⟨cs⟩ := s
  cases cs with
  | nil => exact iff_of_true rfl rfl
  | cons c cs =>
    have := c.utf8Size_pos
    simp only [isEmpty, len_cons, beq_iff_eq, reduceCtorEq, iff_false]
    omega

/-! ## 2. Trimming -/

theorem dropWhile_eq_self {p : Char → Bool} {l : List Char}
    (h : ∀ hl : l ≠ [], p (l.head hl) = false) : l.dropWhile p = l := by
  cases l with
  | nil => rfl
  | cons c cs =>
    have hc : p c = false := h (List.cons_ne_nil c cs)
    simp [List.dropWhile_cons, hc]

theorem trim_eq_self {s : String} (h : ∀ c ∈ s.data, isWhitespace c = false) : trim s = s := by
  obtain ⟨cs⟩ := s
  have hd : cs.dropWhile isWhitespace = cs := dropWhile_eq_self fun hl => h _ (List.head_mem hl)
  show String.mk _ = String.mk cs
  rw [hd, List.rdropWhile_eq_self_iff.mpr fun hl => by simp [h _ (List.getLast_mem hl)]]

theorem trim_trim (s : String) : trim (trim s) = trim s := by
  obtain ⟨cs⟩ := s
  have hhead : ∀ hl : (cs.dropWhile isWhitespace).rdropWhile isWhitespace ≠ [],
      isWhitespace (((cs.dropWhile isWhitespace).rdropWhile isWhitespace).head hl) = false := by
    intro hl
    rw [List.IsPrefix.head (List.rdropWhile_prefix _ _) hl]
    exact List.head_dropWhile_not _ _ _
  simp only [trim, dropWhile_eq_self hhead, List.rdropWhile_idempotent]

end Str

/-! ## 3. The id character class -/

theorem Char.le_iff_toNat {a b : Char} : a ≤ b ↔ a.toNat ≤ b.toNat := Iff.rfl

theorem Char.lt_iff_toNat {a b : Char} : a < b ↔ a.toNat < b.toNat := Iff.rfl

theorem Char.eq_iff_toNat {a b : Char} : a = b ↔ a.toNat = b.toNat :=
  ⟨congrArg Char.toNat, fun h => Char.eq_of_val_eq (UInt32.eq_of_val_eq (Fin.ext h))⟩

/-- The id class as ranges of code points. -/
theorem isIdChar_iff (c : Char) :
    isIdChar c = true ↔ (97 ≤ c.toNat ∧ c.toNat ≤ 122) ∨ (65 ≤ c.toNat ∧ c.toNat ≤ 90) ∨
      (48 ≤ c.toNat ∧ c.toNat ≤ 57) ∨
      c.toNat ∈ [95, 46, 36, 35, 124, 64, 47, 58, 59, 61, 43, 39, 45] := by
  simp only [isIdChar, Bool.or_eq_true, Bool.and_eq_true, decide_eq_true_eq, List.mem_cons,
    List.not_mem_nil, or_false, Char.le_iff_toNat, Char.eq_iff_toNat, or_assoc]
  rfl

theorem isIdChar_lt {c : Char} (h : isIdChar c = true) : c.toNat < 128 := by
  rw [isIdChar_iff] at h
  simp only [List.mem_cons, List.not_mem_nil, or_false] at h
  omega

/-- `char::is_whitespace` as ranges of code points. -/
theorem isWhitespace_iff (c : Char) :
    Str.isWhitespace c = true ↔ c.toNat = 32 ∨ (9 ≤ c.toNat ∧ c.toNat ≤ 13) ∨
      (127 < c.toNat ∧ Str.isWhiteSpaceAboveAscii c.toNat = true) := by
  simp only [Str.isWhitespace, Bool.or_eq_true, Bool.and_eq_true, decide_eq_true_eq,
    Char.le_iff_toNat, Char.lt_iff_toNat, Char.eq_iff_toNat, or_assoc]
  rfl

theorem isIdChar_not_whitespace {c : Char} (h : isIdChar c = true) :
    Str.isWhitespace c = false := by
  have hlt := isIdChar_lt h
  rw [isIdChar_iff] at h
  simp only [List.mem_cons, List.not_mem_nil, or_false] at h
  rw [← Bool.not_eq_true, isWhitespace_iff]
  omega

/-! ## 4. `validate_id` -/

/-- `validate_id` returns exactly the trimmed ids that are non-empty, at most 100 bytes long and
made of the class's characters. -/
theorem validateId_eq_ok {id idType t : String} :
    validateId id idType = .ok t ↔
      t = Str.trim id ∧ t.data ≠ [] ∧ Str.len t ≤ 100 ∧ ∀ c ∈ t.data, isIdChar c = true := by
  unfold validateId
  dsimp only
  split_ifs with h₁ h₂
  · simp only [Bool.or_eq_true, Str.isEmpty_iff, decide_eq_true_eq, nameAndIdMaxLen] at h₁
    refine iff_of_false (by nofun) ?_
    rintro ⟨rfl, hne, hle, -⟩
    rcases h₁ with h₁ | h₁
    · exact hne h₁
    · omega
  · simp only [idRegexIsMatch, Bool.not_eq_true', Bool.and_eq_false_iff, Bool.not_eq_false',
      List.isEmpty_iff, List.all_eq_false, Bool.not_eq_true] at h₂
    refine iff_of_false (by nofun) ?_
    rintro ⟨rfl, hne, -, hall⟩
    rcases h₂ with h₂ | ⟨c, hc, hc'⟩
    · exact hne h₂
    · rw [hall c hc] at hc'; cases hc'
  · simp only [Bool.or_eq_true, Str.isEmpty_iff, decide_eq_true_eq, nameAndIdMaxLen,
      not_or, not_lt] at h₁
    have hall : ∀ c ∈ (Str.trim id).data, isIdChar c = true := by
      simp only [idRegexIsMatch, Bool.not_eq_true', Bool.not_eq_false, Bool.and_eq_true,
        List.all_eq_true] at h₂
      exact h₂.2
    rw [Except.ok.injEq]
    constructor
    · rintro rfl; exact ⟨rfl, h₁.1, h₁.2, hall⟩
    · rintro ⟨rfl, -⟩; rfl

/-- Every error of `validate_id` names the field it checked. -/
theorem validateId_error {id idType : String} {e : IronOxideErr}
    (h : validateId id idType = .error e) : ∃ msg, e = .validationError idType msg := by
  unfold validateId at h
  dsimp only at h
  split_ifs at h <;> cases h
  · exact ⟨_, rfl⟩
  · exact ⟨_, rfl⟩

/-- An accepted id validates to itself, under any field name. -/
theorem validateId_of_ok {id idType t : String} (h : validateId id idType = .ok t)
    (idType' : String) : validateId t idType' = .ok t := by
  obtain ⟨-, hne, hle, hall⟩ := validateId_eq_ok.mp h
  have htrim : Str.trim t = t := Str.trim_eq_self fun c hc => isIdChar_not_whitespace (hall c hc)
  exact validateId_eq_ok.mpr ⟨htrim.symm, hne, hle, hall⟩

/-- `UserId::try_from` is `validate_id` under the field name `user_id`. -/
theorem UserId.tryFrom_eq_ok {s : String} {u : UserId} :
    UserId.tryFrom s = .ok u ↔ validateId s "user_id" = .ok u.id := by
  cases u
  unfold UserId.tryFrom
  cases validateId s "user_id" <;> simp [Except.map]

/-- `validate_id` accepts exactly its grammar, and what it accepts is a fixed point: an accepted
id is ASCII, has 1 to 100 characters, validates to itself, and gives a `UserId` that converts
back to itself. -/
theorem validateId_grammar (id idType : String) :
    (∀ t, validateId id idType = .ok t ↔
      t = Str.trim id ∧ t.data ≠ [] ∧ Str.len t ≤ 100 ∧ ∀ c ∈ t.data, isIdChar c = true) ∧
    (∀ t, validateId id idType = .ok t →
      (∀ c ∈ t.data, c.toNat < 128) ∧ 1 ≤ t.length ∧ t.length ≤ 100) ∧
    (∀ e, validateId id idType = .error e → ∃ msg, e = .validationError idType msg) ∧
    (∀ t, validateId id idType = .ok t → validateId t idType = .ok t) ∧
    (∀ u, UserId.tryFrom id = .ok u → UserId.tryFrom u.id = .ok u) := by
  refine ⟨fun t => validateId_eq_ok, fun t ht => ?_, fun e => validateId_error,
    fun t ht => validateId_of_ok ht idType, fun u hu => ?_⟩
  · obtain ⟨-, hne, hle, hall⟩ := validateId_eq_ok.mp ht
    have hascii : ∀ c ∈ t.data, c.toNat < 128 := fun c hc => isIdChar_lt (hall c hc)
    rw [Str.len_eq_length hascii] at hle
    exact ⟨hascii, List.length_pos.mpr hne, hle⟩
  · exact UserId.tryFrom_eq_ok.mpr (validateId_of_ok (UserId.tryFrom_eq_ok.mp hu) _)

/-! ## 5. `validate_name` -/

/-- `validate_name` returns exactly the trimmed names that are non-empty and at most 100 bytes
long. -/
theorem validateName_eq_ok {name nameType t : String} :
    validateName name nameType = .ok t ↔ t = Str.trim name ∧ t.data ≠ [] ∧ Str.len t ≤ 100 := by
  unfold validateName
  dsimp only
  rw [Str.trim_trim]
  split_ifs with h
  · simp only [Bool.or_eq_true, Str.isEmpty_iff, decide_eq_true_eq, nameAndIdMaxLen] at h
    refine iff_of_false (by nofun) ?_
    rintro ⟨rfl, hne, hle⟩
    rcases h with h | h
    · exact hne h
    · omega
  · simp only [Bool.or_eq_true, Str.isEmpty_iff, decide_eq_true_eq, nameAndIdMaxLen,
      not_or, not_lt] at h
    rw [Except.ok.injEq]
    constructor
    · rintro rfl; exact ⟨rfl, h⟩
    · rintro ⟨rfl, -⟩; rfl

/-- Every error of `validate_name` names the field it checked. -/
theorem validateName_error {name nameType : String} {e : IronOxideErr}
    (h : validateName name nameType = .error e) : ∃ msg, e = .validationError nameType msg := by
  unfold validateName at h
  dsimp only at h
  split_ifs at h
  cases h
  exact ⟨_, rfl⟩

/-- `DeviceName::try_from` refuses a name of 51 two-byte characters (`é`): `validate_name`
compares its 102 bytes, not its 51 characters, with 100. -/
theorem deviceName_refuses_fiftyOne_twoByte_chars :
    (Str.trim ⟨List.replicate 51 (Char.ofNat 0xE9)⟩).length = 51 ∧
      Str.len (Str.trim ⟨List.replicate 51 (Char.ofNat 0xE9)⟩) = 102 ∧
      DeviceName.tryFrom ⟨List.replicate 51 (Char.ofNat 0xE9)⟩ =
        .error (.validationError "device_name"
          ("'" ++ ⟨List.replicate 51 (Char.ofNat 0xE9)⟩ ++ "' must have length between 1 and 100")) :=
  ⟨by decide, by decide, rfl⟩

end IronOxide