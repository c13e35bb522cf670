import Mathlib.Data.List.DropRight
import IronOxide.Internal.Error

/-!
# Identifier validation

`validate_id` and `validate_name` (`src/internal/mod.rs`), the `str` operations they are built
from, and the validated wrappers built on them: `UserId`, `DeviceName`, `DeviceId`, `Jwt` and
`Password`. A Rust `&str` is a Lean `String`: a list of Unicode scalar values, whose `len()` is
its UTF-8 byte count.
-/

namespace IronOxide

/-! ## 1. `str` -/

namespace Str

/-- The code points above ASCII with the Unicode `White_Space` property. -/
def isWhiteSpaceAboveAscii (n : Nat) : Bool :=
  n = 0x85 || n = 0xA0 || n = 0x1680 || (0x2000 ≤ n && n ≤ 0x200A) || n = 0x2028 ||
    n = 0x2029 || n = 0x202F || n = 0x205F || n = 0x3000

/-- `char::is_whitespace`: `' '`, `'\t'`..=`'\r'`, and above ASCII the `White_Space` code
points. -/
def isWhitespace (c : Char) : Bool :=
  c = ' ' || ('\t' ≤ c && c ≤ '\r') || (c > '\x7f' && isWhiteSpaceAboveAscii c.toNat)

/-- `str::trim`: the string without its leading and trailing whitespace. -/
def trim (s : String) : String := ⟨(s.data.dropWhile isWhitespace).rdropWhile isWhitespace⟩

/-- `str::len`: the length in bytes of the UTF-8 encoding. -/
def len (s : String) : Nat := s.utf8ByteSize

/-- `str::is_empty`. -/
def isEmpty (s : String) : Bool := len s == 0

end Str

/-! ## 2. `validate_id` and `validate_name` -/

/-- `NAME_AND_ID_MAX_LEN`. -/
def nameAndIdMaxLen : Nat := 100

/-- A character of the class `[a-zA-Z0-9_.$#|@/:;=+'-]` (the apostrophe is `'\x27'`). -/
def isIdChar (c : Char) : Bool :=
  ('a' ≤ c && c ≤ 'z') || ('A' ≤ c && c ≤ 'Z') || ('0' ≤ c && c ≤ '9') ||
    c ∈ ['_', '.', '$', '#', '|', '@', '/', ':', ';', '=', '+', '\x27', '-']

/-- `Regex::new("^[a-zA-Z0-9_.$#|@/:;=+'-]+$").unwrap().is_match(s)`: `s` is one or more
characters of the class, from its start to its end. -/
def idRegexIsMatch (s : String) : Bool := !s.data.isEmpty && s.data.all isIdChar

/-- `validate_id`: trim, check the byte length, then the character class. -/
def validateId (id idType : String) : Except IronOxideErr String :=
  let trimmedId := Str.trim id
  if Str.isEmpty trimmedId || Str.len trimmedId > nameAndIdMaxLen then
    .error (.validationError idType
      ("'" ++ trimmedId ++ "' must have length between 1 and 100"))
  else if !idRegexIsMatch trimmedId then
    .error (.validationError idType ("'" ++ trimmedId ++ "' contains invalid characters"))
  else
    .ok trimmedId

/-- `validate_name`: trim and check the byte length. -/
def validateName (name nameType : String) : Except IronOxideErr String :=
  let trimmedName := Str.trim name
  if Str.isEmpty (Str.trim trimmedName) || Str.len trimmedName > nameAndIdMaxLen then
    .error (.validationError nameType
      ("'" ++ trimmedName ++ "' must have length between 1 and 100"))
  else
    .ok (Str.trim trimmedName)

/-! ## 3. The validated wrappers -/

/-- `UserId`. -/
structure UserId where
  id : String
deriving DecidableEq, Repr

/-- `TryFrom<&str> for UserId`. -/
def UserId.tryFrom (userId : String) : Except IronOxideErr UserId :=
  (validateId userId "user_id").map UserId.mk

/-- `DeviceName`. -/
structure DeviceName where
  name : String
deriving DecidableEq, Repr

/-- `TryFrom<&str> for DeviceName`. -/
def DeviceName.tryFrom (name : String) : Except IronOxideErr DeviceName :=
  (validateName name "device_name").map DeviceName.mk

/-- `DeviceId`: a `u64`. -/
structure DeviceId where
  id : UInt64
deriving DecidableEq, Repr

/-- `i64::max_value()`. -/
def i64MaxValue : Nat := 9223372036854775807

/-- `TryFrom<u64> for DeviceId`: between 1 and `i64::max_value()`. -/
def DeviceId.tryFrom (deviceId : UInt64) : Except IronOxideErr DeviceId :=
  if deviceId.toNat < 1 || deviceId.toNat > i64MaxValue then
    .error (.validationError "device_id"
      ("'" ++ toString deviceId.toNat ++ "' must be a number greater than 0"))
  else
    .ok ⟨deviceId⟩

/-- `Jwt`. -/
structure Jwt where
  jwt : String
deriving DecidableEq, Repr

/-- `TryFrom<&str> for Jwt`: ASCII, with exactly two `.` separators. -/
def Jwt.tryFrom (maybeJwt : String) : Except IronOxideErr Jwt :=
  if maybeJwt.data.all (·.toNat < 128) && maybeJwt.data.count '.' == 2 then
    .ok ⟨maybeJwt⟩
  else
    .error (.validationError "JWT" "must be valid ascii and be formatted correctly")

/-- `Jwt::to_utf8`. -/
def Jwt.toUtf8 (j : Jwt) : List UInt8 := j.jwt.toUTF8.data.toList

/-- `Password`. -/
structure Password where
  password : String
deriving DecidableEq, Repr

/-- `TryFrom<&str> for Password`: not blank. -/
def Password.tryFrom (maybePassword : String) : Except IronOxideErr Password :=
  if Str.len (Str.trim maybePassword) > 0 then
    .ok ⟨maybePassword⟩
  else
    .error (.validationError "maybe_password" "length must be > 0")

end IronOxide
