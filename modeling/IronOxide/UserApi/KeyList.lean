import IronOxide.UserApi.Backend

/-!
# Public-key resolution: `user_key_list` and `get_user_keys`

`user_key_list` folds the backend's entries into a map from user id to public key: an entry whose
key decodes is inserted under its id, so a later entry replaces an earlier one. `get_user_keys`
sends no request for an empty list of ids; otherwise it splits the ids it was asked about with
itertools' `partition_map`, by whether the map holds a key for them.

The fold and `partition_map` are loops with accumulators: each gets a step lemma and a run lemma
by induction over the list, and the partition theorem is read off the two run lemmas.
-/

namespace IronOxide

/-! ## 1. The map and `partition_map` -/

/-- A `HashMap<UserId, PublicKey>`, by what `get` returns for each id. -/
abbrev KeyMap := UserId → Option PublicKey

/-- `HashMap::insert`. -/
def KeyMap.insert (m : KeyMap) (k : UserId) (v : PublicKey) : KeyMap :=
  Function.update m k (some v)

section PartitionMap

variable {α β γ : Type}

/-- The body of `partition_map`'s loop: extend the left or the right collection. -/
def partitionMapStep (predicate : α → β ⊕ γ) (acc : List β × List γ) (val : α) :
    List β × List γ :=
  match predicate val with
  | .inl v => (acc.1 ++ [v], acc.2)
  | .inr v => (acc.1, acc.2 ++ [v])

/-- `Itertools::partition_map`: the `Left` values and the `Right` values, each in iteration
order. -/
def partitionMap (predicate : α → β ⊕ γ) (iter : List α) : List β × List γ :=
  iter.foldl (partitionMapStep predicate) ([], [])

/-- Run lemma of `partition_map`'s loop: from any accumulators, the loop appends the `Left` and
the `Right` values of what it iterates over. -/
theorem foldl_partitionMapStep (predicate : α → β ⊕ γ) (iter : List α) (left : List β)
    (right : List γ) :
    iter.foldl (partitionMapStep predicate) (left, right) =
      (left ++ iter.filterMap fun a => (predicate a).getLeft?,
        right ++ iter.filterMap fun a => (predicate a).getRight?) := by
  induction iter generalizing left right with
  | nil => simp
  | cons a iter ih =>
    rw [List.foldl_cons]
    cases h : predicate a <;> simp [partitionMapStep, h, ih, List.filterMap_cons]

theorem partitionMap_eq (predicate : α → β ⊕ γ) (iter : List α) :
    partitionMap predicate iter =
      (iter.filterMap fun a => (predicate a).getLeft?,
        iter.filterMap fun a => (predicate a).getRight?) := by
  simpa using foldl_partitionMapStep predicate iter [] []

end PartitionMap

/-! ## 2. The calls -/

section Calls

variable {σ δ : Type} (backend : Backend δ)
  (publicKeyTryFrom : WirePublicKey → Except IronOxideErr PublicKey)

/-- The body of `user_key_list`'s fold: insert the entry's key under its id when
`PublicKey::try_from` decodes it (`UserId::unsafe_from_string` checks nothing). -/
def userKeyListStep (acc : KeyMap) (user : UserKeyListEntry) : KeyMap :=
  match publicKeyTryFrom user.userMasterPublicKey with
  | .ok pubKey => acc.insert ⟨user.id⟩ pubKey
  | .error _ => acc

/-- `user_key_list`: one request, and the fold of its entries into an empty map. -/
def userKeyList (auth : RequestAuth) (userIds : List UserId) : Call σ KeyMap := do
  let resp ← send (.userKeyList auth userIds) (backend.userKeyList auth userIds)
  pure (resp.foldl (userKeyListStep publicKeyTryFrom) fun _ => none)

/-- The `partition_map` closure of `get_user_keys`: the id with its key, or the id alone. -/
def userKeyOrId (idsWithKeys : KeyMap) (userId : UserId) : UserId ⊕ WithKey UserId :=
  match idsWithKeys userId with
  | some pk => .inr ⟨userId, pk⟩
  | none => .inl userId

theorem userKeyOrId_of_none {m : KeyMap} {u : UserId} (h : m u = none) :
    userKeyOrId m u = .inl u := by
  rw [userKeyOrId, h]

theorem userKeyOrId_of_some {m : KeyMap} {u : UserId} {pk : PublicKey} (h : m u = some pk) :
    userKeyOrId m u = .inr ⟨u, pk⟩ := by
  rw [userKeyOrId, h]

/-- `get_user_keys`: no request for no users; otherwise the users without a key, and the users
with their key. -/
def getUserKeys (auth : RequestAuth) (users : List UserId) :
    Call σ (List UserId × List (WithKey UserId)) :=
  if users.isEmpty then pure ([], [])
  else do
    let idsWithKeys ← userKeyList backend publicKeyTryFrom auth users
    pure (partitionMap (userKeyOrId idsWithKeys) users)

/-! ## 3. The key the fold keeps -/

/-- The key an entry gives for `u`: its decoded key when its id is `u`. -/
def decodedKeyAt (u : UserId) (e : UserKeyListEntry) : Option PublicKey :=
  if (⟨e.id⟩ : UserId) = u then (publicKeyTryFrom e.userMasterPublicKey).toOption else none

/-- The key of the last entry for `u` whose key decodes. -/
def lastDecodedKey (entries : List UserKeyListEntry) (u : UserId) : Option PublicKey :=
  (entries.filterMap (decodedKeyAt publicKeyTryFrom u)).getLast?

theorem getLast?_filterMap_cons {α β : Type} (f : α → Option β) (a : α) (l : List α) :
    ((a :: l).filterMap f).getLast? = (l.filterMap f).getLast?.or (f a) := by
  cases h : f a with
  | none => simp [List.filterMap_cons, h, Option.or_none]
  | some b =>
    rw [List.filterMap_cons_some h, List.getLast?_cons]
    cases (l.filterMap f).getLast? <;> rfl

/-- Step lemma of the fold: after one entry, `u`'s key is that entry's key for `u`, if any. -/
theorem userKeyListStep_apply (acc : KeyMap) (e : UserKeyListEntry) (u : UserId) :
    userKeyListStep publicKeyTryFrom acc e u = (decodedKeyAt publicKeyTryFrom u e).or (acc u) := by
  unfold userKeyListStep decodedKeyAt
  cases h : publicKeyTryFrom e.userMasterPublicKey <;> by_cases hu : (⟨e.id⟩ : UserId) = u
  all_goals simp [h, hu, KeyMap.insert, Function.update, Except.toOption, Ne.symm]

/-- Run lemma of the fold: a key for `u` is the last decoded one, or the one held before. -/
theorem foldl_userKeyListStep (entries : List UserKeyListEntry) (acc : KeyMap) (u : UserId) :
    entries.foldl (userKeyListStep publicKeyTryFrom) acc u =
      (lastDecodedKey publicKeyTryFrom entries u).or (acc u) := by
  induction entries generalizing acc with
  | nil => rfl
  | cons e entries ih =>
    rw [List.foldl_cons, ih, userKeyListStep_apply, lastDecodedKey, lastDecodedKey,
      getLast?_filterMap_cons, Option.or_assoc]

/-- There is a last decoded key for `u` exactly when some entry for `u` decodes. -/
theorem lastDecodedKey_isSome (entries : List UserKeyListEntry) (u : UserId) :
    (lastDecodedKey publicKeyTryFrom entries u).isSome ↔
      ∃ e ∈ entries, (⟨e.id⟩ : UserId) = u ∧
        ∃ pk, publicKeyTryFrom e.userMasterPublicKey = .ok pk := by
  simp only [lastDecodedKey, List.getLast?_isSome, ne_eq, List.filterMap_eq_nil_iff, not_forall,
    decodedKeyAt]
  refine exists_congr fun e => ?_
  cases h : publicKeyTryFrom e.userMasterPublicKey <;> by_cases hu : (⟨e.id⟩ : UserId) = u <;>
    simp [h, hu, Except.toOption]

/-! ## 4. The partition -/

theorem userKeyList_ok {auth : RequestAuth} {userIds : List UserId}
    {entries : List UserKeyListEntry} (h : backend.userKeyList auth userIds = .ok entries)
    (w : World σ) :
    userKeyList backend publicKeyTryFrom auth userIds w =
      .ok (entries.foldl (userKeyListStep publicKeyTryFrom) fun _ => none)
        (w.record (.userKeyList auth userIds)) :=
  RustM.bind_apply_ok (send_ok h w) _

theorem userKeyList_error {auth : RequestAuth} {userIds : List UserId} {e : IronOxideErr}
    (h : backend.userKeyList auth userIds = .error e) (w : World σ) :
    userKeyList backend publicKeyTryFrom auth userIds w =
      .error (.err e) (w.record (.userKeyList auth userIds)) :=
  RustM.bind_apply_error (send_error h w) _

/-- `partition_map` with the closure of `get_user_keys` keeps, in order, the users the map has
no key for, and the users it has a key for with that key. -/
theorem partitionMap_userKeyOrId (m : KeyMap) (users : List UserId) :
    partitionMap (userKeyOrId m) users =
      (users.filter fun u => (m u).isNone, users.filterMap fun u => (m u).map (WithKey.mk u)) := by
  rw [partitionMap_eq]
  induction users with
  | nil => rfl
  | cons u users ih =>
    simp only [List.filterMap_cons, List.filter_cons, Prod.mk.injEq] at ih ⊢
    cases h : m u with
    | none => simp [userKeyOrId_of_none h, h, ih]
    | some pk => simp [userKeyOrId_of_some h, h, ih]

theorem map_id_filterMap_withKey (m : KeyMap) (users : List UserId) :
    (users.filterMap fun u => (m u).map (WithKey.mk u)).map WithKey.id =
      users.filter fun u => (m u).isSome := by
  induction users with
  | nil => rfl
  | cons u users ih => cases h : m u <;> simp [List.filterMap_cons, List.filter_cons, h, ih]

/-- Every user is counted, as often as it occurs, in exactly one side of a split by a map. -/
theorem count_filter_isNone_add_isSome (m : KeyMap) (users : List UserId) (u : UserId) :
    (users.filter fun v => (m v).isNone).count u + (users.filter fun v => (m v).isSome).count u =
      users.count u := by
  induction users with
  | nil => rfl
  | cons v users ih => cases h : m v <;> simp [List.filter_cons, h, List.count_cons] <;> omega

theorem length_filter_isNone_add_isSome (m : KeyMap) (users : List UserId) :
    (users.filter fun v => (m v).isNone).length + (users.filter fun v => (m v).isSome).length =
      users.length := by
  induction users with
  | nil => rfl
  | cons v users ih => cases h : m v <;> simp [List.filter_cons, h] <;> omega

/-- `get_user_keys` partitions its users. With no users it sends nothing and returns two empty
lists; a failed request is its error. Otherwise the users with no decodable entry go, in order,
to the first list, and the others, in order, to the second with the key of their last decodable
entry: every user, with its multiplicity, is on exactly one side. -/
theorem getUserKeys_partition (auth : RequestAuth) (w : World σ) :
    getUserKeys backend publicKeyTryFrom auth [] w = .ok ([], []) w ∧
    (∀ users e, users ≠ [] → backend.userKeyList auth users = .error e →
      getUserKeys backend publicKeyTryFrom auth users w =
        .error (.err e) (w.record (.userKeyList auth users))) ∧
    (∀ users entries, users ≠ [] → backend.userKeyList auth users = .ok entries →
      ∃ failed found,
        getUserKeys backend publicKeyTryFrom auth users w =
          .ok (failed, found) (w.record (.userKeyList auth users)) ∧
        failed = users.filter (fun u => (lastDecodedKey publicKeyTryFrom entries u).isNone) ∧
        found = users.filterMap
          (fun u => (lastDecodedKey publicKeyTryFrom entries u).map (WithKey.mk u)) ∧
        failed.Sublist users ∧ (found.map WithKey.id).Sublist users ∧
        (∀ u, failed.count u + (found.map WithKey.id).count u = users.count u) ∧
        (∀ u, u ∉ failed ∨ u ∉ found.map WithKey.id) ∧
        failed.length + found.length = users.length ∧
        (∀ u, u ∈ found.map WithKey.id ↔ u ∈ users ∧ ∃ e ∈ entries, (⟨e.id⟩ : UserId) = u ∧
          ∃ pk, publicKeyTryFrom e.userMasterPublicKey = .ok pk) ∧
        (∀ u, u ∈ failed ↔ u ∈ users ∧ ¬ ∃ e ∈ entries, (⟨e.id⟩ : UserId) = u ∧
          ∃ pk, publicKeyTryFrom e.userMasterPublicKey = .ok pk) ∧
        (∀ wk ∈ found, lastDecodedKey publicKeyTryFrom entries wk.id = some wk.publicKey)) := by
  refine ⟨rfl, fun users e hne he => ?_, fun users entries hne hok => ?_⟩
  · simp only [getUserKeys, List.isEmpty_iff, hne, if_false]
    exact RustM.bind_apply_error (userKeyList_error backend publicKeyTryFrom he w) _
  have hm : entries.foldl (userKeyListStep publicKeyTryFrom) (fun _ => none) =
      lastDecodedKey publicKeyTryFrom entries :=
    funext fun u => (foldl_userKeyListStep publicKeyTryFrom entries _ u).trans Option.or_none
  have hrun : getUserKeys backend publicKeyTryFrom auth users w =
      .ok (partitionMap (userKeyOrId (lastDecodedKey publicKeyTryFrom entries)) users)
        (w.record (.userKeyList auth users)) := by
    simp only [getUserKeys, List.isEmpty_iff, hne, if_false]
    rw [RustM.bind_apply_ok (userKeyList_ok backend publicKeyTryFrom hok w), hm]
    rfl
  have hids := map_id_filterMap_withKey (lastDecodedKey publicKeyTryFrom entries) users
  rw [partitionMap_userKeyOrId] at hrun
  refine ⟨_, _, hrun, rfl, rfl, List.filter_sublist _, hids ▸ List.filter_sublist _,
    fun u => hids ▸ count_filter_isNone_add_isSome _ users u, fun u => ?_,
    ?_, fun u => ?_, fun u => ?_, fun wk hwk => ?_⟩
  · rw [hids]
    cases h : lastDecodedKey publicKeyTryFrom entries u
    · exact .inr (by simp [List.mem_filter, h])
    · exact .inl (by simp [List.mem_filter, h])
  · rw [← List.length_map _ WithKey.id, hids]
    exact length_filter_isNone_add_isSome _ users
  · rw [hids, List.mem_filter, lastDecodedKey_isSome]
  · rw [List.mem_filter, Option.isNone_iff_eq_none, ← Option.not_isSome_iff_eq_none,
      lastDecodedKey_isSome]
  · obtain ⟨u, -, hu⟩ := List.mem_filterMap.mp hwk
    cases h : lastDecodedKey publicKeyTryFrom entries u with
    | none => simp [h] at hu
    | some pk =>
      simp only [h, Option.map_some', Option.some.injEq] at hu
      subst hu
      exact h

end Calls

end IronOxide
