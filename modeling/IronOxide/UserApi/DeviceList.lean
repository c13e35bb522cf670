import Mathlib.Data.List.Sort
import IronOxide.UserApi.Backend

/-!
# `device_list`: the user's devices, sorted by device id

`device_list` converts each entry of the response into a `UserDevice` and sorts them with
`sort_by(|a, b| a.id.0.cmp(&b.id.0))`. That sort is a stable merge sort; so is `List.mergeSort`,
which keeps `a` before `b` unless `b`'s id is smaller, and a stable sort by one comparison has one
result. The result is a permutation of the response's devices in non-decreasing id order, and
when the ids are distinct it does not depend on the order the response listed them in.
-/

namespace IronOxide

/-! ## 1. Devices and the call -/

/-- `UserDevice`. -/
structure UserDevice where
  id : DeviceId
  name : Option DeviceName
  created : DateTime
  lastUpdated : DateTime
  isCurrentDevice : Bool
deriving DecidableEq, Repr

/-- `UserDeviceListResult`. -/
structure UserDeviceListResult where
  result : List UserDevice
deriving DecidableEq, Repr

/-- The comparison `sort_by` is given, as the test a stable merge sort makes: `a` stays before `b`
unless `a.id.0.cmp(&b.id.0)` is `Greater`. -/
def idCmpLe (a b : UserDevice) : Bool := a.id.id ≤ b.id.id

section Calls

variable {σ δ : Type} (backend : Backend δ) (userDeviceFrom : δ → UserDevice)

/-- `device_list`: one request, each entry through `UserDevice::from`, sorted by device id. -/
def deviceList (auth : RequestAuth) : Call σ UserDeviceListResult := do
  let resp ← send (.deviceList auth) (backend.deviceList auth)
  let devices := (resp.map userDeviceFrom).mergeSort idCmpLe
  pure ⟨devices⟩

theorem deviceList_ok {auth : RequestAuth} {items : List δ}
    (h : backend.deviceList auth = .ok items) (w : World σ) :
    deviceList backend userDeviceFrom auth w =
      .ok ⟨(items.map userDeviceFrom).mergeSort idCmpLe⟩ (w.record (.deviceList auth)) :=
  RustM.bind_apply_ok (send_ok h w) _

/-! ## 2. Sorted, and determined by the devices -/

theorem idCmpLe_trans (a b c : UserDevice) (hab : idCmpLe a b) (hbc : idCmpLe b c) :
    idCmpLe a c :=
  decide_eq_true (UInt64.le_trans (of_decide_eq_true hab) (of_decide_eq_true hbc))

theorem idCmpLe_total (a b : UserDevice) : (idCmpLe a b || idCmpLe b a) = true := by
  rcases UInt64.le_total a.id.id b.id.id with h | h <;> simp [idCmpLe, h]

/-- The sort leaves the devices in non-decreasing id order. -/
theorem pairwise_mergeSort_idCmpLe (devices : List UserDevice) :
    (devices.mergeSort idCmpLe).Pairwise fun a b => a.id.id ≤ b.id.id :=
  (List.sorted_mergeSort idCmpLe_trans idCmpLe_total devices).imp of_decide_eq_true

theorem uint64_lt_of_le_of_ne {a b : UInt64} (h₁ : a ≤ b) (h₂ : a ≠ b) : a < b := by
  rw [← UInt64.not_le]
  intro h
  exact h₂ (UInt64.toNat.inj (Nat.le_antisymm h₁ h))

/-- Devices with distinct ids sort to one list, whatever order they come in. -/
theorem mergeSort_idCmpLe_eq_of_perm {devices devices' : List UserDevice}
    (hp : devices.Perm devices') (hid : (devices.map UserDevice.id).Nodup) :
    devices.mergeSort idCmpLe = devices'.mergeSort idCmpLe := by
  have hstrict : ∀ {l : List UserDevice}, l.Perm devices →
      (l.mergeSort idCmpLe).Sorted fun a b => a.id.id < b.id.id := fun {l} hl =>
    have hne := List.pairwise_map.mp
      ((((List.mergeSort_perm l idCmpLe).trans hl).map UserDevice.id).nodup_iff.mpr hid)
    ((pairwise_mergeSort_idCmpLe l).and hne).imp fun h =>
      uint64_lt_of_le_of_ne h.1 fun he => h.2 (congrArg DeviceId.mk he)
  have : IsAntisymm UserDevice fun a b => a.id.id < b.id.id :=
    ⟨fun _ _ h₁ h₂ => absurd h₂ (UInt64.lt_asymm h₁)⟩
  exact List.eq_of_perm_of_sorted
    (((List.mergeSort_perm _ _).trans hp).trans (List.mergeSort_perm _ _).symm)
    (hstrict (List.Perm.refl _)) (hstrict hp.symm)

/-- `device_list` returns the response's devices, none lost or repeated, in non-decreasing id
order; two responses listing the same devices, with distinct ids, in any two orders give the
same result. -/
theorem deviceList_sortedPermutation (auth : RequestAuth) (w : World σ) :
    (∀ items, backend.deviceList auth = .ok items →
      ∃ r, deviceList backend userDeviceFrom auth w = .ok r (w.record (.deviceList auth)) ∧
        r.result.Perm (items.map userDeviceFrom) ∧
        r.result.Pairwise fun a b => a.id.id ≤ b.id.id) ∧
    (∀ (backend' : Backend δ) items items', backend.deviceList auth = .ok items →
      backend'.deviceList auth = .ok items' → items.Perm items' →
      ((items.map userDeviceFrom).map UserDevice.id).Nodup →
      deviceList backend userDeviceFrom auth w = deviceList backend' userDeviceFrom auth w) := by
  refine ⟨fun items h => ⟨_, deviceList_ok backend userDeviceFrom h w,
    List.mergeSort_perm _ _, pairwise_mergeSort_idCmpLe _⟩,
    fun backend' items items' h h' hp hid => ?_⟩
  rw [deviceList_ok backend userDeviceFrom h w, deviceList_ok backend' userDeviceFrom h' w,
    mergeSort_idCmpLe_eq_of_perm (hp.map userDeviceFrom) hid]

end Calls

end IronOxide
