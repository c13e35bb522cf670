import IronOxide.UserApi.LifecycleSpec
import IronOxide.UserApi.KeyList
import IronOxide.UserApi.DeviceList
import IronOxide.UserApi.Account

/-!
# Sessions: the requests a client sends over any sequence of calls

A client session runs calls of `user_api` one after another over one world: each call starts
from the random state and the request log the previous call left, whatever that call returned.
The server answering the calls may change with what it has received: each call is answered by
the backend the server gives on the log sent before it. `Op.Sends` says what each call is for,
seen from the backend: the blocks of requests it may add to the log, and what the sealed master
keys among them unseal to. A step lemma per call shows that the call adds one such block; by
induction a session's log is its first log followed by one block per call, in order, each sent
to the backend of the log before it (`runSession_sends`). An invariant follows for every session
from any log that satisfies it: each write request comes right after the read request of its own
call.
-/

namespace IronOxide

/-! ## 1. Clients, calls and sessions -/

/-- What a client runs its calls with: the cryptographic primitives and random source, the
backend, and the conversions of the `requests` module, which is not in the sources. -/
structure Client (σ δ : Type) where
  aead : Aead
  pbkdf2 : Pbkdf2
  rng : Rng σ
  recrypt : Recrypt σ
  backend : Backend δ
  publicKeyTryFrom : WirePublicKey → Except IronOxideErr PublicKey
  userResultTryFrom : UserVerifyResponse → Except IronOxideErr UserResult
  userDeviceFrom : δ → UserDevice

/-- The client, talking to `backend`. -/
def Client.withBackend {σ δ : Type} (c : Client σ δ) (backend : Backend δ) : Client σ δ :=
  { c with backend }

/-- A call of `user_api`, with its arguments. -/
inductive Op where
  | userVerify (jwt : Jwt) (request : IronCoreRequest)
  | userCreate (jwt : Jwt) (passphrase : Password) (needsRotation : Bool)
      (request : IronCoreRequest)
  | userGetCurrent (auth : RequestAuth)
  | userRotatePrivateKey (password : Password) (auth : RequestAuth)
  | generateDeviceKey (jwt : Jwt) (password : Password) (deviceName : Option DeviceName)
      (signingTs : DateTime) (request : IronCoreRequest)
  | deviceList (auth : RequestAuth)
  | deviceDelete (auth : RequestAuth) (deviceId : Option DeviceId)
  | userKeyList (auth : RequestAuth) (userIds : List UserId)
  | getUserKeys (auth : RequestAuth) (users : List UserId)

variable {σ δ : Type}

/-- The world a call leaves, whatever it returns. -/
def Client.run (c : Client σ δ) : Op → World σ → World σ
  | .userVerify jwt request, w =>
    RustM.stateAfter (userVerify c.backend c.userResultTryFrom jwt request w)
  | .userCreate jwt passphrase needsRotation request, w => RustM.stateAfter
    (userCreate c.aead c.pbkdf2 c.rng c.recrypt c.backend jwt passphrase needsRotation request w)
  | .userGetCurrent auth, w =>
    RustM.stateAfter (userGetCurrent c.backend c.publicKeyTryFrom auth w)
  | .userRotatePrivateKey password auth, w => RustM.stateAfter
    (userRotatePrivateKey c.aead c.pbkdf2 c.rng c.recrypt c.backend password auth w)
  | .generateDeviceKey jwt password deviceName signingTs request, w => RustM.stateAfter
    (generateDeviceKey c.aead c.pbkdf2 c.recrypt c.backend c.publicKeyTryFrom jwt password
      deviceName signingTs request w)
  | .deviceList auth, w => RustM.stateAfter (deviceList c.backend c.userDeviceFrom auth w)
  | .deviceDelete auth deviceId, w => RustM.stateAfter (deviceDelete c.backend auth deviceId w)
  | .userKeyList auth userIds, w =>
    RustM.stateAfter (userKeyList c.backend c.publicKeyTryFrom auth userIds w)
  | .getUserKeys auth users, w =>
    RustM.stateAfter (getUserKeys c.backend c.publicKeyTryFrom auth users w)

/-- A session against `server`: the calls run one after another, each on the world the previous
one left and answered by the backend `server` gives on the log sent before it. A server that
never changes is `fun _ => c.backend`. -/
def runSession (c : Client σ δ) (server : List Request → Backend δ) : List Op → World σ → World σ
  | [], w => w
  | op :: ops, w => runSession c server ops ((c.withBackend (server w.sent)).run op w)

/-! ## 2. What each call sends -/

/-- The blocks of requests a call may add to the log. A write goes out only after the read of
its own call succeeded, and a sealed master key it carries unseals under the call's password;
a device-add request carries the verified user's public key and the caller's timestamp. -/
def Op.Sends (c : Client σ δ) : Op → List Request → Prop
  | .userVerify jwt request, b => b = [.userVerify jwt request]
  | .userCreate jwt passphrase needsRotation request, b => b = [] ∨
    ∃ pub emk key, b = [.userCreate jwt pub emk needsRotation request] ∧
      decryptUserMasterKey c.aead c.pbkdf2 passphrase.password emk = .ok key
  | .userGetCurrent auth, b => b = [.getCurrUser auth]
  | .userRotatePrivateKey password auth, b => b = [.getCurrUser auth] ∨
    ∃ resp emk aug key, c.backend.getCurrUser auth = .ok resp ∧
      b = [.getCurrUser auth, .updatePrivateKey auth resp.id resp.currentKeyId emk aug] ∧
      decryptUserMasterKey c.aead c.pbkdf2 password.password emk = .ok key
  | .generateDeviceKey jwt _ deviceName signingTs request, b => b = [.userVerify jwt request] ∨
    ∃ resp deviceAdd, c.backend.userVerify jwt request = .ok (some resp) ∧
      c.publicKeyTryFrom resp.userMasterPublicKey = .ok deviceAdd.userPublicKey ∧
      deviceAdd.signatureTs = signingTs ∧
      b = [.userVerify jwt request, .userDeviceAdd jwt deviceAdd deviceName request]
  | .deviceList auth, b => b = [.deviceList auth]
  | .deviceDelete auth deviceId, b => b = [deviceDeleteRequest auth deviceId]
  | .userKeyList auth userIds, b => b = [.userKeyList auth userIds]
  | .getUserKeys auth users, b =>
    (users = [] ∧ b = []) ∨ (users ≠ [] ∧ b = [.userKeyList auth users])

/-- A call adds to the log a block it may send. -/
def Op.AddsBlock (c : Client σ δ) (op : Op) (w : World σ) : Prop :=
  ∃ b, op.Sends c b ∧ (c.run op w).sent = w.sent ++ b

section Steps

variable (c : Client σ δ) (w : World σ)

theorem userCreate_addsBlock (jwt : Jwt) (passphrase : Password) (needsRotation : Bool)
    (request : IronCoreRequest) :
    (Op.userCreate jwt passphrase needsRotation request).AddsBlock c w := by
  obtain ⟨_, _, -, hr⟩ | ⟨_, pub, _, -, hc⟩ := userCreate_cases c.aead c.pbkdf2 c.rng c.recrypt
    c.backend jwt passphrase needsRotation request w
  · exact ⟨[], .inl rfl, by simp [Client.run, hr]⟩
  obtain ⟨_, _, -, hr⟩ | ⟨emk, _, he, hr⟩ := hc
  · exact ⟨[], .inl rfl, by simp [Client.run, hr]⟩
  · exact ⟨_, .inr ⟨pub, emk, _, rfl,
      decryptUserMasterKey_encryptUserMasterKey c.aead c.pbkdf2 c.rng he⟩,
      by rw [Client.run, hr, send_sent]⟩

theorem userRotatePrivateKey_addsBlock (password : Password) (auth : RequestAuth) :
    (Op.userRotatePrivateKey password auth).AddsBlock c w := by
  -- a call that ends before the update has sent the current-user request only
  obtain ⟨_, -, hr⟩ | ⟨resp, hg, hc⟩ := userRotatePrivateKey_cases c.aead c.pbkdf2 c.rng
    c.recrypt c.backend password auth w
  · exact ⟨_, .inl rfl, by rw [Client.run, hr]; rfl⟩
  obtain ⟨_, -, hr⟩ | ⟨emk, -, hc⟩ := hc
  · exact ⟨_, .inl rfl, by rw [Client.run, hr]; rfl⟩
  obtain ⟨_, -, hr⟩ | ⟨key, -, hc⟩ := hc
  · exact ⟨_, .inl rfl, by rw [Client.run, hr]; rfl⟩
  obtain ⟨_, _, -, hr⟩ | ⟨newKey, aug, s₁, -, hc⟩ := hc
  · exact ⟨_, .inl rfl, by rw [Client.run, hr]; rfl⟩
  obtain ⟨_, _, -, hr⟩ | ⟨newEmk, _, he, hr⟩ := hc
  · exact ⟨_, .inl rfl, by rw [Client.run, hr]; rfl⟩
  · exact ⟨_, .inr ⟨resp, newEmk, aug, _, hg, rfl,
      decryptUserMasterKey_encryptUserMasterKey c.aead c.pbkdf2 c.rng he⟩,
      by rw [Client.run, hr, send_sent]; exact List.append_assoc _ _ _⟩

theorem generateDeviceKey_addsBlock (jwt : Jwt) (password : Password)
    (deviceName : Option DeviceName) (signingTs : DateTime) (request : IronCoreRequest) :
    (Op.generateDeviceKey jwt password deviceName signingTs request).AddsBlock c w := by
  -- a call that ends before the device-add request has sent the verify request only
  obtain ⟨_, -, hr⟩ | ⟨-, hr⟩ | ⟨resp, hv, hc⟩ := generateDeviceKey_cases c.aead c.pbkdf2
    c.recrypt c.backend c.publicKeyTryFrom jwt password deviceName signingTs request w
  · exact ⟨_, .inl rfl, by rw [Client.run, hr]; rfl⟩
  · exact ⟨_, .inl rfl, by rw [Client.run, hr]; rfl⟩
  obtain ⟨_, -, hr⟩ | ⟨userPublicKey, hp, hc⟩ := hc
  · exact ⟨_, .inl rfl, by rw [Client.run, hr]; rfl⟩
  obtain ⟨_, -, hr⟩ | ⟨emk, -, hc⟩ := hc
  · exact ⟨_, .inl rfl, by rw [Client.run, hr]; rfl⟩
  obtain ⟨_, -, hr⟩ | ⟨key, -, hc⟩ := hc
  · exact ⟨_, .inl rfl, by rw [Client.run, hr]; rfl⟩
  obtain ⟨_, _, -, hr⟩ | ⟨deviceAdd, s₁, ha, hc⟩ := hc
  · exact ⟨_, .inl rfl, by rw [Client.run, hr]; rfl⟩
  obtain ⟨_, -, hr⟩ | ⟨accountId, -, hc⟩ := hc
  · exact ⟨_, .inl rfl, by rw [Client.run, hr]; rfl⟩
  -- the device-add request is sent whatever its answer
  obtain ⟨_, _, _, -, -, -, -, hpub, hts⟩ := generateDeviceAdd_eq_ok c.recrypt ha
  have hsends : (Op.generateDeviceKey jwt password deviceName signingTs request).Sends c
      [.userVerify jwt request, .userDeviceAdd jwt deviceAdd deviceName request] :=
    .inr ⟨resp, deviceAdd, hv, hp.trans (congrArg Except.ok hpub.symm), hts, rfl⟩
  obtain ⟨_, -, hr⟩ | ⟨_, -, hr⟩ := hc
  all_goals exact ⟨_, hsends, by rw [Client.run, hr]; exact List.append_assoc _ _ _⟩

theorem getUserKeys_addsBlock (auth : RequestAuth) (users : List UserId) :
    (Op.getUserKeys auth users).AddsBlock c w := by
  cases users with
  | nil => exact ⟨[], .inl ⟨rfl, rfl⟩, (List.append_nil _).symm⟩
  | cons u us =>
    refine ⟨_, .inr ⟨List.cons_ne_nil u us, rfl⟩, ?_⟩
    cases hk : c.backend.userKeyList auth (u :: us) with
    | error e => exact congrArg World.sent (congrArg RustM.stateAfter
        (RustM.bind_apply_error (userKeyList_error c.backend c.publicKeyTryFrom hk w) _))
    | ok entries => exact congrArg World.sent (congrArg RustM.stateAfter
        (RustM.bind_apply_ok (userKeyList_ok c.backend c.publicKeyTryFrom hk w) _))

/-- Every call adds to the log a block it may send. -/
theorem Op.addsBlock (op : Op) : op.AddsBlock c w := by
  cases op with
  | userVerify jwt request => exact ⟨_, rfl, userVerify_sent c.backend c.userResultTryFrom _ _ w⟩
  | userCreate => exact userCreate_addsBlock c w _ _ _ _
  | userGetCurrent auth => exact ⟨_, rfl, userGetCurrent_sent c.backend c.publicKeyTryFrom _ w⟩
  | userRotatePrivateKey => exact userRotatePrivateKey_addsBlock c w _ _
  | generateDeviceKey => exact generateDeviceKey_addsBlock c w _ _ _ _ _
  | deviceList auth => exact ⟨_, rfl, send_bind_sent _ _ _ (fun _ _ => by rfl) w⟩
  | deviceDelete auth deviceId => exact ⟨_, rfl, (deviceDelete_spec c.backend auth deviceId w).1⟩
  | userKeyList auth userIds =>
    exact ⟨_, rfl, send_bind_sent _ _ _ (fun _ _ => by rfl) w⟩
  | getUserKeys => exact getUserKeys_addsBlock c w _ _

end Steps

/-! ## 3. Whole sessions -/

/-- The blocks `bs` a session's calls `ops` may send, one per call, from the log `log`: each
call may send its block to the backend `server` gives on the log before it. -/
def SessionSends (c : Client σ δ) (server : List Request → Backend δ) :
    List Request → List Op → List (List Request) → Prop
  | _, [], [] => True
  | log, op :: ops, b :: bs =>
    op.Sends (c.withBackend (server log)) b ∧ SessionSends c server (log ++ b) ops bs
  | _, _, _ => False

section Sessions

variable (c : Client σ δ) (server : List Request → Backend δ)

/-- A session one call longer runs that call last, against the backend of the log before it. -/
theorem runSession_append_singleton (pre : List Op) (op : Op) (w : World σ) :
    runSession c server (pre ++ [op]) w =
      (c.withBackend (server (runSession c server pre w).sent)).run op
        (runSession c server pre w) := by
  induction pre generalizing w with
  | nil => rfl
  | cons p pre ih => exact ih _

/-- A property of worlds that every call keeps, against whatever backend the server gives,
holds after every session. -/
theorem runSession_preserves (P : World σ → Prop)
    (hstep : ∀ (op : Op) w, P w → P ((c.withBackend (server w.sent)).run op w))
    (ops : List Op) {w : World σ} (hw : P w) : P (runSession c server ops w) := by
  induction ops generalizing w with
  | nil => exact hw
  | cons op ops ih => exact ih (hstep op w hw)

/-- The log a session leaves is the log it started from followed by one block per call, in the
order of the calls, each a block that call may send to the backend of the log before it. -/
theorem runSession_sends (ops : List Op) (w : World σ) :
    ∃ bs, SessionSends c server w.sent ops bs ∧
      (runSession c server ops w).sent = w.sent ++ bs.flatten := by
  induction ops generalizing w with
  | nil => exact ⟨[], trivial, (List.append_nil _).symm⟩
  | cons op ops ih =>
    obtain ⟨b, hb, hw⟩ := op.addsBlock (c.withBackend (server w.sent)) w
    obtain ⟨bs, hbs, hw'⟩ := ih ((c.withBackend (server w.sent)).run op w)
    rw [hw] at hbs hw'
    exact ⟨b :: bs, ⟨hb, hbs⟩, by rw [runSession, hw', List.flatten_cons, List.append_assoc]⟩

end Sessions

/-! ## 4. Writes come right after their reads -/

/-- The read request a write request comes after, in the call that sends both. -/
def Request.readBefore : Request → Option Request
  | .updatePrivateKey auth .. => some (.getCurrUser auth)
  | .userDeviceAdd jwt _ _ request => some (.userVerify jwt request)
  | _ => none

/-- Each write request of `log` comes right after its read; `prev` is the request just before
`log`. -/
def writesFollowReads : Option Request → List Request → Bool
  | _, [] => true
  | prev, r :: rs =>
    decide (r.readBefore = none ∨ r.readBefore = prev) && writesFollowReads (some r) rs

theorem writesFollowReads_append (prev : Option Request) (l b : List Request) :
    writesFollowReads prev (l ++ b) =
      (writesFollowReads prev l && writesFollowReads (l.getLast?.or prev) b) := by
  induction l generalizing prev with
  | nil => simp [writesFollowReads]
  | cons r l ih =>
    have hlast : (r :: l).getLast?.or prev = l.getLast?.or (some r) := by
      cases h : l.getLast? <;> simp [List.getLast?_cons, h]
    rw [List.cons_append]
    simp only [writesFollowReads, ih, hlast, Bool.and_assoc]

/-- A block any call sends keeps its writes right after their reads, whatever came before. -/
theorem writesFollowReads_of_sends {c : Client σ δ} {op : Op} {b : List Request}
    (hb : op.Sends c b) (prev : Option Request) : writesFollowReads prev b = true := by
  cases op with
  | userCreate => obtain rfl | ⟨_, _, _, rfl, -⟩ := hb <;> rfl
  | userRotatePrivateKey =>
    obtain rfl | ⟨_, _, _, _, -, rfl, -⟩ := hb <;> simp [writesFollowReads, Request.readBefore]
  | generateDeviceKey =>
    obtain rfl | ⟨_, _, -, -, -, rfl⟩ := hb <;> simp [writesFollowReads, Request.readBefore]
  | deviceDelete auth deviceId => cases deviceId <;> (subst hb; rfl)
  | getUserKeys => obtain ⟨-, rfl⟩ | ⟨-, rfl⟩ := hb <;> rfl
  | _ => subst hb; rfl

/-- In every session, against any server, from a log whose writes come right after their reads,
each write request sent still comes right after the read request of its own call: an update
right after the current-user request with the same authorization, a device-add right after the
verify request with the same JWT and request. -/
theorem session_writesFollowReads (c : Client σ δ) (server : List Request → Backend δ)
    (ops : List Op) (w : World σ) (h : writesFollowReads none w.sent = true) :
    writesFollowReads none (runSession c server ops w).sent = true := by
  refine runSession_preserves c server (fun w => writesFollowReads none w.sent = true)
    (fun op w hw => ?_) ops h
  obtain ⟨b, hb, hsent⟩ := op.addsBlock (c.withBackend (server w.sent)) w
  rw [hsent, writesFollowReads_append, hw, writesFollowReads_of_sends hb]
  rfl

/-- A client of the one-user backend, with the transparent cipher and zero randomness. -/
def Client.oneUser : Client Unit Unit where
  aead := Aead.transparent
  pbkdf2 := Pbkdf2.zeros
  rng := Rng.zeros
  recrypt := Recrypt.zeros
  backend := Backend.oneUser
  publicKeyTryFrom _ := .ok ⟨.zero 32, .zero 32⟩
  userResultTryFrom resp := .ok ⟨⟨resp.id⟩, resp.segmentId, ⟨.zero 32, .zero 32⟩, false⟩
  userDeviceFrom _ := ⟨⟨1⟩, none, ⟨0, 0, by decide⟩, ⟨0, 0, by decide⟩, true⟩

theorem session_writesFollowReads_oneUser :
    writesFollowReads none [] = true ∧
    writesFollowReads none (runSession Client.oneUser (fun _ => Backend.oneUser)
      [.userRotatePrivateKey ⟨"p"⟩ ⟨⟨"u"⟩, 1, ⟨.zero 64⟩, ourRequest⟩,
        .generateDeviceKey ⟨"a.b.c"⟩ ⟨"p"⟩ none ⟨0, 0, by decide⟩ ourRequest] ⟨(), []⟩).sent =
      true :=
  ⟨rfl, session_writesFollowReads Client.oneUser _ _ ⟨(), []⟩ rfl⟩

end IronOxide
