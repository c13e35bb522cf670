import IronOxide.UserApi.Backend

/-!
# The calls of `user_api.rs` that send one request

`user_verify`, `user_get_current` and `device_delete` each send one request and convert its
answer: `user_verify` through the `TryFrom` of the `requests` module, which is not in the sources
(`userResultTryFrom`), `user_get_current` by decoding the user's public key, and `device_delete`
by taking the id of the device deleted. The request is recorded whatever the answer, and
`device_delete` sends the delete-current request when it is given no device id.
-/

namespace IronOxide

section Calls

variable {σ : Type} {δ : Type} (backend : Backend δ)
  (publicKeyTryFrom : WirePublicKey → Except IronOxideErr PublicKey)
  (userResultTryFrom : UserVerifyResponse → Except IronOxideErr UserResult)

/-! ## 1. The calls -/

/-- `user_verify`: the verify request, and its answer, if any, through `try_into`. -/
def userVerify (jwt : Jwt) (request : IronCoreRequest) : Call σ (Option UserResult) := do
  let resp ← send (.userVerify jwt request) (backend.userVerify jwt request)
  RustM.ofExcept (resp.mapM userResultTryFrom)

/-- `user_get_current`: the current-user request, its public key decoded. -/
def userGetCurrent (auth : RequestAuth) : Call σ UserResult := do
  let result ← send (.getCurrUser auth) (backend.getCurrUser auth)
  RustM.ofExcept do
    let userPublicKey ← publicKeyTryFrom result.userMasterPublicKey
    pure { needsRotation := result.needsRotation, userPublicKey,
           segmentId := result.segmentId, accountId := result.id }

/-- The request `device_delete` sends: delete the device given, or the current device. -/
def deviceDeleteRequest (auth : RequestAuth) : Option DeviceId → Request
  | some deviceId => .deviceDelete auth deviceId
  | none => .deviceDeleteCurrent auth

/-- `device_delete`: the id of the device the backend deleted. -/
def deviceDelete (auth : RequestAuth) (deviceId : Option DeviceId) : Call σ DeviceId := do
  let resp ← match deviceId with
    | some deviceId => send (.deviceDelete auth deviceId) (backend.deviceDelete auth deviceId)
    | none => send (.deviceDeleteCurrent auth) (backend.deviceDeleteCurrent auth)
  pure resp.id

/-! ## 2. What each call sends and returns -/

/-- `user_verify` sends the verify request and nothing else. -/
theorem userVerify_sent (jwt : Jwt) (request : IronCoreRequest) (w : World σ) :
    (RustM.stateAfter (userVerify backend userResultTryFrom jwt request w)).sent =
      w.sent ++ [.userVerify jwt request] :=
  send_bind_sent _ _ _ (fun _ => RustM.stateAfter_ofExcept _) w

/-- `user_get_current` sends the current-user request and nothing else. -/
theorem userGetCurrent_sent (auth : RequestAuth) (w : World σ) :
    (RustM.stateAfter (userGetCurrent backend publicKeyTryFrom auth w)).sent =
      w.sent ++ [.getCurrUser auth] :=
  send_bind_sent _ _ _ (fun _ => RustM.stateAfter_ofExcept _) w

/-- `device_delete` sends one request, for the device given or for the current device, and
returns the id in the backend's answer to it. -/
theorem deviceDelete_spec (auth : RequestAuth) (deviceId : Option DeviceId) (w : World σ) :
    (RustM.stateAfter (deviceDelete backend auth deviceId w)).sent =
      w.sent ++ [deviceDeleteRequest auth deviceId] ∧
    ∀ resp, (deviceId.elim (backend.deviceDeleteCurrent auth)
        (backend.deviceDelete auth) = .ok resp) →
      deviceDelete backend auth deviceId w =
        .ok resp.id (w.record (deviceDeleteRequest auth deviceId)) := by
  cases deviceId <;>
    exact ⟨send_bind_sent _ _ (fun resp : DeviceDeleteResponse => pure resp.id) (fun _ _ => rfl) w,
      fun _ h => RustM.bind_apply_ok (send_ok h w) _⟩

end Calls

end IronOxide
