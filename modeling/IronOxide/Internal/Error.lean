import IronOxide.Rust

/-!
# `IronOxideErr` and the errors converted into it

The variants of `IronOxideErr` (`src/internal/mod.rs`) that the modelled calls build or pass
on, the error of `ring` (`Unspecified`), the error of `recrypt` (`RecryptErr`), and the two
`From` impls that `?` applies to them.
-/

namespace IronOxide

/-- `ring::error::Unspecified`: a failure that carries no information. -/
structure Unspecified where
deriving DecidableEq, Repr

/-- `RequestErrorCode`: which backend operation a request error comes from. -/
inductive RequestErrorCode where
  | userVerify | userCreate | userDeviceAdd | userDeviceDelete | userDeviceList | userKeyList
  | groupCreate | groupDelete | groupList | groupGet | groupAddMember | groupUpdate
  | groupMemberRemove | groupAdminRemove | documentList | documentGet | documentCreate
  | documentUpdate | documentGrantAccess | documentRevokeAccess
deriving DecidableEq, Repr

/-- `IronOxideErr`, with the variants the modelled calls can return. -/
inductive IronOxideErr where
  | validationError (fieldName : String) (err : String)
  | wrongSizeError (actualSize : Option Nat) (expectedSize : Option Nat)
  | keyGenerationError
  | aesError (err : Unspecified)
  | aesEncryptedDocSizeError
  | recryptError (msg : String)
  | userDoesNotExist (msg : String)
  | requestError (message : String) (code : RequestErrorCode) (httpStatus : Option UInt16)
deriving DecidableEq, Repr

/-- The errors of `recrypt` that `From<RecryptErr> for IronOxideErr` tells apart; every other
one is kept as its `Display` text. -/
inductive RecryptErr where
  | inputWrongSize (typeName : String) (expectedSize : Nat)
  | invalidPublicKey
  | other (display : String)
deriving DecidableEq, Repr

/-- `impl From<RecryptErr> for IronOxideErr`. -/
def IronOxideErr.ofRecryptErr : RecryptErr → IronOxideErr
  | .inputWrongSize _ expectedSize => .wrongSizeError none (some expectedSize)
  | .invalidPublicKey => .keyGenerationError
  | .other display => .recryptError display

/-- `impl From<ring::error::Unspecified> for IronOxideErr`. -/
def IronOxideErr.ofUnspecified (e : Unspecified) : IronOxideErr := .aesError e

end IronOxide
