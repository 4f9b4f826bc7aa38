/-
# The key of an account, from the cache and from `/keys`

`resolve_auth_address` looks for the first spendable entry with the signing
address. It looks through the entries of `/keys` as they came when it has just
fetched them, and through the cache when the revision is unchanged. The cache
holds the last entry of each address. The two searches agree exactly where the
last entry with the address is the first spendable one, or where none is
spendable.

Key definitions: `Cache.next`, `Cache.Reads`, `Go.FromKeys`, `Go.FromCache`,
`resolveAuthAddress`, `OneEntry`.
Key theorems: `keepsLast_values`, `keepsLast_ofListed`, `Go.resolve_iff`,
`resolveAuthAddress_iff`, `resolve_cached_iff`.
-/
import AplaneSdk.Inventory
import AplaneSdk.Revisions
import AplaneSdk.Lib.Grouping

namespace AplaneSdk

open Interaction Interaction.Prog Grouping

/-- The address that signs for an account. -/
def signingAddress (address authAddr : String) : String :=
  if authAddr ≠ "" ∧ authAddr ≠ address then authAddr else address

/-- A result that carries the value it was made of, and an error where there
is none. -/
theorem injective_of_value {α β ε : Type} {f : Option α → Except ε β} (value : β → α)
    (hsome : ∀ a, ∃ b, f (some a) = .ok b ∧ value b = a) (hnone : ∀ b, f none ≠ .ok b) : Function.Injective f := by
  intro x y h
  cases x with
  | none =>
    cases y with
    | none => rfl
    | some a =>
      obtain ⟨b, hb, -⟩ := hsome a
      exact absurd (h.trans hb) (hnone b)
  | some a =>
    obtain ⟨b, hb, hvalue⟩ := hsome a
    cases y with
    | none => exact absurd (h.symm.trans hb) (hnone b)
    | some a' =>
      obtain ⟨b', hb', hvalue'⟩ := hsome a'
      have hsame : b = b' := Except.ok.inj (hb.symm.trans (h.trans hb'))
      rw [← hvalue, ← hvalue', hsame]

/-! ### Go: the cache of one client -/

/-- What a step leaves in the cache. -/
def Cache.next (c : Cache) : Event inventory → Cache
  | ⟨.storeKeys keys, _⟩ => { keys := some (KeyMap.ofKeys keys) }
  | ⟨.cacheKeysRevision r, _⟩ => { c with revision := r, known := true }
  | ⟨.clear, _⟩ => {}
  | _ => c

/-- A step that reads the cache reads it as it is. -/
def Cache.reads (c : Cache) : Event inventory → Bool
  | ⟨.cachedKeys, a⟩ => lists c.keys a
  | ⟨.cachedKeysForRevision r, a⟩ => lists (c.hit r) a
  | ⟨.keyAt address, a⟩ => a = c.keys.bind (·.get? address)
  | _ => true

/-- The calls that share a cache read and write it step by step like this. -/
theorem reads_of_answer {honest : Bool} {s s' : CacheState} {e : Event inventory}
    (h : (cacheMachine honest).answer s e.op e.ans = some s') : s.cache.reads e = true ∧ s'.cache = s.cache.next e := by
  obtain ⟨o, a⟩ := e
  cases o with
  | status | keys =>
    simp only [cacheMachine, Option.ite_none_right_eq_some, Option.some.injEq] at h
    obtain ⟨-, rfl⟩ := h
    exact ⟨rfl, rfl⟩
  | cachedKeys | cachedKeysForRevision r =>
    simp only [cacheMachine, Option.ite_none_right_eq_some, Option.some.injEq] at h
    obtain ⟨hlists, rfl⟩ := h
    exact ⟨hlists, rfl⟩
  | keyAt address =>
    simp only [cacheMachine, Option.ite_none_right_eq_some, Option.some.injEq] at h
    obtain ⟨hkey, rfl⟩ := h
    exact ⟨by simpa [Cache.reads] using hkey, rfl⟩
  | storeKeys keys | cacheKeysRevision r | clear =>
    cases h
    exact ⟨rfl, rfl⟩
  | generate keyType parameters | delete address | suggestedParams | accountInformation address | received =>
    cases h
    exact ⟨rfl, rfl⟩

/-- The cache after the steps of a call. -/
def Cache.after (c : Cache) (t : Trace inventory) : Cache := t.foldl Cache.next c

/-- The steps of a call, on a cache nobody else uses. -/
def Cache.Reads (c : Cache) : Trace inventory → Prop
  | [] => True
  | e :: t => c.reads e = true ∧ Cache.Reads (c.next e) t

namespace Go

/-- A call that was answered with the entries of `/keys`. -/
def FromKeys (t : Trace inventory) (revision : ℕ) (keys : List KeyInfo) : Prop :=
  ∃ (reply : Reply StatusResponse) (st : StatusResponse) (t' : Trace inventory),
    reply.okBody = some st ∧ st.signerLocked = false ∧ st.keysetRevision = revision ∧ Fetched t' keys ∧
    t = [⟨.status, reply⟩, ⟨.received, ()⟩] ++ (⟨.cachedKeysForRevision revision, none⟩ ::
      (t' ++ [⟨.cacheKeysRevision revision, ()⟩]))

/-- A call that was answered from the cache. -/
def FromCache (t : Trace inventory) (revision : ℕ) (keys : List KeyInfo) : Prop :=
  ∃ (reply : Reply StatusResponse) (st : StatusResponse),
    reply.okBody = some st ∧ st.signerLocked = false ∧ st.keysetRevision = revision ∧
    t = [⟨.status, reply⟩, ⟨.received, ()⟩] ++ [⟨.cachedKeysForRevision revision, some keys⟩]

section Runs

variable {env : Env} {t : Trace inventory} {revision : ℕ} {keys : List KeyInfo}

theorem runs_fetchKeys_of (h : Fetched t keys) : Runs (fetchKeys env) t (.ok keys) := by
  obtain ⟨reply, body, hbody, rfl, rfl⟩ := h
  have hunlocked : saysLocked reply = false := by
    cases reply with
    | unreachable why => rfl
    | http status statusText text envelope content =>
      by_cases hstatus : status = 200
      · subst hstatus
        rfl
      · rw [Reply.okBody, if_neg hstatus] at hbody
        cases hbody
  have hget : Runs (getKeysResponse env) [⟨.keys, reply⟩, ⟨.received, ()⟩, ⟨.storeKeys body.keys, ()⟩]
      (.ok { count := body.count, keys := body.keys }) := by
    refine runs_bind_ok.mpr ⟨reply, [⟨.keys, reply⟩, ⟨.received, ()⟩], [⟨.storeKeys body.keys, ()⟩], rfl,
      runs_fetch.mpr ⟨reply, rfl, rfl⟩, ?_⟩
    rw [hunlocked]
    exact runs_lift_bind_ok.mpr ⟨body, decodeReply_ok.mpr hbody, (), [], rfl, rfl, rfl⟩
  exact runs_bind_ok.mpr ⟨_, _, [], (List.append_nil _).symm, runs_mapError_ok.mpr hget, rfl, rfl⟩

theorem FromKeys.runs (h : FromKeys t revision keys) : Runs (listKeysIfKeysetChanged env) t (.ok keys) := by
  obtain ⟨reply, st, t', hbody, hlocked, rfl, hfetched, rfl⟩ := h
  refine runs_bind_ok.mpr ⟨st, _, _, rfl, runs_fetch_lift_ok.mpr ⟨reply, rfl, decodeReply_ok.mpr hbody⟩, ?_⟩
  rw [hlocked]
  refine ⟨none, _, rfl, ?_⟩
  show Runs (do
    let keys ← fetchKeys env
    query (I := inventory) (.cacheKeysRevision st.keysetRevision)
    pure keys) (t' ++ [⟨.cacheKeysRevision st.keysetRevision, ()⟩]) (.ok keys)
  exact runs_bind_ok.mpr ⟨keys, t', _, rfl, runs_fetchKeys_of hfetched, (), [], rfl, rfl, rfl⟩

theorem FromCache.runs (h : FromCache t revision keys) : Runs (listKeysIfKeysetChanged env) t (.ok keys) := by
  obtain ⟨reply, st, hbody, hlocked, rfl, rfl⟩ := h
  refine runs_bind_ok.mpr ⟨st, _, _, rfl, runs_fetch_lift_ok.mpr ⟨reply, rfl, decodeReply_ok.mpr hbody⟩, ?_⟩
  rw [hlocked]
  exact ⟨some keys, [], rfl, rfl, rfl⟩

/-- What `ResolveAuthAddress` makes of the key it has found. -/
def resolvedTo (address authAddr : String) : Option KeyInfo → Except SdkError ResolvedAuthAddress
  | some key => .ok { address := address, authAddress := signingAddress address authAddr
                      isRekeyed := signingAddress address authAddr ≠ address, keyInfo := key }
  | none =>
    if signingAddress address authAddr = address then
      .error (keyNotFoundError s!"{address} is not available for signing")
    else .error (keyNotFoundError s!"account is rekeyed to {authAddr} but that address is not signable")

theorem resolvedTo_injective (address authAddr : String) : Function.Injective (resolvedTo address authAddr) := by
  refine injective_of_value ResolvedAuthAddress.keyInfo (fun _ => ⟨_, rfl, rfl⟩) fun resolved h => ?_
  by_cases hself : signingAddress address authAddr = address
  · simp only [resolvedTo, if_pos hself, reduceCtorEq] at h
  · simp only [resolvedTo, if_neg hself, reduceCtorEq] at h

theorem runs_resolveAuthAddress {address authAddr : String}
    (hkeys : Runs (listKeysIfKeysetChanged env) t (.ok keys)) :
    Runs (resolveAuthAddress env address (.ok authAddr)) t
      (resolvedTo address authAddr (findSpendableKey keys (signingAddress address authAddr))) := by
  refine runs_lift_bind.mpr (Or.inr ⟨authAddr, rfl, ?_⟩)
  refine runs_bind.mpr (Or.inr ⟨keys, t, [], (List.append_nil t).symm, hkeys, ?_⟩)
  unfold resolvedTo signingAddress
  generalize (if authAddr ≠ "" ∧ authAddr ≠ address then authAddr else address) = signing
  cases findSpendableKey keys signing with
  | some key => exact ⟨rfl, rfl⟩
  | none =>
    dsimp only
    by_cases hself : signing = address
    · rw [if_pos hself, if_pos hself]
      exact ⟨rfl, rfl⟩
    · rw [if_neg hself, if_neg hself]
      exact ⟨rfl, rfl⟩

end Runs

end Go

/-! ### Go: the map keeps the last entry -/

theorem KeyMap.get?_ofKeys (address : String) (keys : List KeyInfo) :
    (KeyMap.ofKeys keys).get? address = lastAt (fun k => decide (k.address = address)) keys := by
  induction keys using List.reverseRecOn with
  | nil => exact AList.lookup_empty _
  | append_singleton keys k ih =>
    have hinsert : KeyMap.ofKeys (keys ++ [k]) = (KeyMap.ofKeys keys).insert k := by
      rw [KeyMap.ofKeys, List.foldl_append]
      rfl
    rw [hinsert, lastAt_append_singleton]
    by_cases hk : k.address = address
    · subst hk
      rw [if_pos (by simp)]
      exact AList.lookup_insert _
    · rw [if_neg (by simpa using hk), KeyMap.get?_insert_ne (Ne.symm hk), ih]

theorem keepsLast_values {keys cached : List KeyInfo} (hperm : cached.Perm (KeyMap.ofKeys keys).values)
    (address : String) : KeepsLast (fun k => decide (k.address = address)) keys cached := by
  intro k hk
  rw [decide_eq_true_eq] at hk
  rw [hperm.mem_iff, KeyMap.mem_values, hk, KeyMap.get?_ofKeys]

/-- A spendable key, as the searches see it. -/
def KeyInfo.spendable (k : KeyInfo) : Bool := k.isSpendingAccount != some false

theorem Go.findSpendableKey_cached {keys cached : List KeyInfo}
    (hperm : cached.Perm (KeyMap.ofKeys keys).values) (address : String) :
    Go.findSpendableKey cached address =
      (lastAt (fun k => decide (k.address = address)) keys).filter KeyInfo.spendable :=
  (keepsLast_values hperm address).find?_eq KeyInfo.spendable

/-- The cache after a call that was answered with the entries of `/keys`. -/
theorem Go.FromKeys.after {t : Trace inventory} {revision : ℕ} {keys : List KeyInfo}
    (h : Go.FromKeys t revision keys) (c : Cache) :
    c.after t = { keys := some (KeyMap.ofKeys keys), revision := revision, known := true } := by
  obtain ⟨reply, st, t', -, -, rfl, ⟨keysReply, body, -, rfl, rfl⟩, rfl⟩ := h
  rfl

/-- What a call finds in the cache another one has filled. -/
theorem Go.FromCache.perm {t t' : Trace inventory} {revision revision' : ℕ} {keys cached : List KeyInfo}
    (h : Go.FromKeys t revision keys) (h' : Go.FromCache t' revision' cached) {c : Cache}
    (hreads : (c.after t).Reads t') : cached.Perm (KeyMap.ofKeys keys).values := by
  rw [h.after] at hreads
  obtain ⟨reply, st, -, -, rfl, rfl⟩ := h'
  obtain ⟨-, -, hlists, -⟩ := hreads
  change lists (Cache.hit _ _) (some cached) = true at hlists
  unfold Cache.hit at hlists
  split at hlists
  · exact of_decide_eq_true hlists
  · cases hlists

/-- None of the entries with the address is spendable, or the last of them is
the first spendable one. -/
def OneEntry (keys : List KeyInfo) (address : String) : Prop :=
  FirstIsLast (fun k => decide (k.address = address)) KeyInfo.spendable keys

/-- A call answered from the cache ends like the one that filled it exactly
where one entry counts. -/
theorem Go.resolve_iff {env : Env} {address : String} {lookup : Except String String} {c : Cache}
    {t t' : Trace inventory} {revision revision' : ℕ} {keys cached : List KeyInfo}
    {r r' : Except SdkError Go.ResolvedAuthAddress}
    (hrun : Runs (Go.resolveAuthAddress env address lookup) t r) (hfresh : Go.FromKeys t revision keys)
    (hrun' : Runs (Go.resolveAuthAddress env address lookup) t' r') (hcached : Go.FromCache t' revision' cached)
    (hreads : (c.after t).Reads t') :
    r = r' ↔ ∀ authAddr, lookup = .ok authAddr → OneEntry keys (signingAddress address authAddr) := by
  cases lookup with
  | error why =>
    -- nothing is asked when the account is not known
    obtain ⟨reply, st, t₀, -, -, -, -, rfl⟩ := hfresh
    cases hrun.1
  | ok authAddr =>
    rw [runs_unique hrun (Go.runs_resolveAuthAddress hfresh.runs),
      runs_unique hrun' (Go.runs_resolveAuthAddress hcached.runs), (Go.resolvedTo_injective address authAddr).eq_iff,
      Go.findSpendableKey_cached (hcached.perm hfresh hreads)]
    refine find?_eq_lastAt_iff.trans ⟨fun h authAddr' heq => ?_, fun h => h authAddr rfl⟩
    cases heq
    exact h

/-! ### Python and TypeScript -/

structure ListedAuthAddress where
  address : String
  authAddress : String
  isRekeyed : Bool
  keyInfo : ListedKey

/-- `key.address == address`. -/
def ListedKey.at (address : String) (k : ListedKey) : Bool :=
  match k.address with
  | some (.str s) => s = address
  | _ => false

/-- `key.is_spending_account is not False`. -/
def ListedKey.spendable (k : ListedKey) : Bool :=
  match k.isSpendingAccount with
  | some (.bool false) => false
  | _ => true

/-- `_find_spendable_key`, `findSpendableKey`. -/
def findSpendableKey (keys : List ListedKey) (address : String) : Option ListedKey :=
  keys.find? fun k => k.at address && k.spendable

/-- `OneEntry`, of keys as Python and TypeScript list them. -/
def OneListed (keys : List ListedKey) (address : String) : Prop :=
  FirstIsLast (·.at address) ListedKey.spendable keys

/-- What `resolve_auth_address` makes of the key it has found. -/
def resolvedTo (address authAddr : String) : Option ListedKey → Except SdkError ListedAuthAddress
  | some key => .ok { address := address, authAddress := signingAddress address authAddr
                      isRekeyed := signingAddress address authAddr ≠ address, keyInfo := key }
  | none =>
    if signingAddress address authAddr = address then
      .error { kind := .keyNotFound, text := s!"{address} is not available for signing" }
    else .error { kind := .keyNotFound
                  text := s!"account is rekeyed to {authAddr} but that address is not signable" }

theorem resolvedTo_injective (address authAddr : String) : Function.Injective (resolvedTo address authAddr) := by
  refine injective_of_value ListedAuthAddress.keyInfo (fun _ => ⟨_, rfl, rfl⟩) fun resolved h => ?_
  by_cases hself : signingAddress address authAddr = address
  · simp only [resolvedTo, if_pos hself, reduceCtorEq] at h
  · simp only [resolvedTo, if_neg hself, reduceCtorEq] at h

section Script

variable {r : KeyReader}

/-- `resolve_auth_address`, with the authorizing address the account lookup
came back with. -/
def resolveAuthAddress (s : KeyInventory r.Revision) (address : String) (lookup : Except String String)
    (status reply : Reply Json) : KeyInventory r.Revision × Except SdkError ListedAuthAddress :=
  match lookup with
  | .error why => (s, .error { text := "failed to query account info: " ++ why })
  | .ok authAddr =>
    let (s', keys) := listKeysIfKeysetChanged s status reply
    (s', keys.bind fun keys => resolvedTo address authAddr
      (findSpendableKey keys (signingAddress address authAddr)))

/-- The revision an unlocked signer reports. -/
def Reports (r : KeyReader) (status : Reply Json) (revision : r.Revision) : Prop :=
  (decodeReply r.statusEndpoint status >>= r.readStatus) = .ok (false, revision)

/-! ### The cache keeps the last entry -/

theorem mem_keys_putKey {key k : CacheKey} {value : ListedKey} : ∀ {d : List (CacheKey × ListedKey)},
    k ∈ (putKey key value d).map Prod.fst → k = key ∨ k ∈ d.map Prod.fst
  | [], h => by simpa [putKey] using h
  | (k', v) :: d, h => by
    rw [putKey] at h
    split at h
    · exact Or.inr h
    · rw [List.map_cons, List.mem_cons] at h
      rcases h with h | h
      · exact Or.inr (List.mem_cons.mpr (Or.inl h))
      · exact (mem_keys_putKey h).imp_right (List.mem_cons_of_mem _)

theorem nodup_putKey {key : CacheKey} {value : ListedKey} : ∀ {d : List (CacheKey × ListedKey)},
    (d.map Prod.fst).Nodup → ((putKey key value d).map Prod.fst).Nodup
  | [], _ => List.nodup_singleton _
  | (k, v) :: d, h => by
    rw [putKey]
    split
    · exact h
    · rename_i hne
      rw [List.map_cons, List.nodup_cons] at h ⊢
      refine ⟨fun hmem => ?_, nodup_putKey h.2⟩
      rcases mem_keys_putKey hmem with heq | hmem
      · exact hne heq
      · exact h.1 hmem

theorem mem_putKey {key : CacheKey} {value : ListedKey} {e : CacheKey × ListedKey} :
    ∀ {d : List (CacheKey × ListedKey)}, (d.map Prod.fst).Nodup →
      (e ∈ putKey key value d ↔ e = (key, value) ∨ e.1 ≠ key ∧ e ∈ d)
  | [], _ => by simp [putKey]
  | (k, v) :: d, hn => by
    rw [List.map_cons, List.nodup_cons] at hn
    rw [putKey]
    by_cases hk : k = key
    · subst hk
      rw [if_pos rfl, List.mem_cons, List.mem_cons]
      have hne : e ∈ d → e.1 ≠ k := fun he heq => hn.1 (List.mem_map.mpr ⟨e, he, heq⟩)
      constructor
      · rintro (h | h)
        · exact Or.inl h
        · exact Or.inr ⟨hne h, Or.inr h⟩
      · rintro (h | ⟨hne, rfl | h⟩)
        · exact Or.inl h
        · exact absurd rfl hne
        · exact Or.inr h
    · rw [if_neg hk, List.mem_cons, List.mem_cons, mem_putKey hn.2]
      constructor
      · rintro (rfl | rfl | ⟨hne, h⟩)
        · exact Or.inr ⟨hk, Or.inl rfl⟩
        · exact Or.inl rfl
        · exact Or.inr ⟨hne, Or.inr h⟩
      · rintro (rfl | ⟨hne, rfl | h⟩)
        · exact Or.inr (Or.inl rfl)
        · exact Or.inl rfl
        · exact Or.inr (Or.inr ⟨hne, h⟩)

theorem ofListed_append_singleton (listed : List (CacheKey × ListedKey)) (e : CacheKey × ListedKey) :
    ofListed (listed ++ [e]) = putKey e.1 e.2 (ofListed listed) := by
  rw [ofListed, List.foldl_append]
  rfl

theorem nodup_ofListed (listed : List (CacheKey × ListedKey)) : ((ofListed listed).map Prod.fst).Nodup := by
  induction listed using List.reverseRecOn with
  | nil => exact List.nodup_nil
  | append_singleton listed e ih =>
    rw [ofListed_append_singleton]
    exact nodup_putKey ih

/-- The cache has the last entry of each key. -/
theorem mem_ofListed {listed : List (CacheKey × ListedKey)} {e : CacheKey × ListedKey} :
    e ∈ ofListed listed ↔ lastAt (fun x => decide (x.1 = e.1)) listed = some e := by
  induction listed using List.reverseRecOn with
  | nil => simp [ofListed, lastAt]
  | append_singleton listed x ih =>
    rw [ofListed_append_singleton, mem_putKey (nodup_ofListed listed), ih, lastAt_append_singleton]
    by_cases hx : x.1 = e.1
    · rw [if_pos (by simpa using hx)]
      constructor
      · rintro (rfl | ⟨hne, -⟩)
        · rfl
        · exact absurd hx.symm hne
      · intro h
        exact Or.inl (Option.some.inj h).symm
    · rw [if_neg (by simpa using hx)]
      constructor
      · rintro (rfl | ⟨-, h⟩)
        · exact absurd rfl hx
        · exact h
      · intro h
        exact Or.inr ⟨fun h => hx h.symm, h⟩

theorem ListedKey.at_iff {k : ListedKey} {address : String} :
    k.at address = true ↔ k.address = some (.str address) := by
  unfold ListedKey.at
  split
  · rename_i text htext
    rw [htext, decide_eq_true_eq, Option.some.injEq, Json.str.injEq]
  · rename_i hno
    constructor
    · intro h
      cases h
    · intro h
      exact absurd h (hno address)

/-- Entries stand under the text of their address, and no others under a text. -/
def Keyed (listed : List (CacheKey × ListedKey)) : Prop :=
  ∀ e ∈ listed, ∀ address, e.1 = .text address ↔ e.2.at address = true

theorem keepsLast_ofListed {listed : List (CacheKey × ListedKey)} (hkeyed : Keyed listed) (address : String) :
    KeepsLast (·.at address) (listed.map Prod.snd) ((ofListed listed).map Prod.snd) := by
  -- the entries at the address are those under its text
  have hsame : ∀ e ∈ listed, decide (e.1 = .text address) = e.2.at address := by
    intro e he
    rw [Bool.eq_iff_iff, decide_eq_true_eq]
    exact hkeyed e he address
  have hlast : lastAt (·.at address) (listed.map Prod.snd) =
      (lastAt (fun e => decide (e.1 = CacheKey.text address)) listed).map Prod.snd := by
    unfold lastAt
    rw [List.filter_map, List.getLast?_map]
    congr 2
    exact List.filter_congr fun e he => (hsame e he).symm
  have hmem : ∀ e, e ∈ ofListed listed → e ∈ listed := fun e he => (lastAt_some (mem_ofListed.mp he)).1
  intro k hk
  rw [hlast, List.mem_map, Option.map_eq_some_iff]
  constructor
  · rintro ⟨e, he, rfl⟩
    have hkey : e.1 = .text address := (hkeyed e (hmem e he) address).mpr hk
    refine ⟨e, ?_, rfl⟩
    rw [← hkey]
    exact mem_ofListed.mp he
  · rintro ⟨e, he, rfl⟩
    refine ⟨e, mem_ofListed.mpr ?_, rfl⟩
    rw [of_decide_eq_true (lastAt_some he).2]
    exact he

/-- A text is the key of the address it is, and of nothing else. -/
def KeyReader.KeysTexts (r : KeyReader) : Prop :=
  ∀ position value key, r.cacheKey position value = .ok key →
    ∀ address, key = .text address ↔ value = some (.str address)

theorem keyed_readAll (hkey : r.KeysTexts) {data : Json} {listed : List (CacheKey × ListedKey)}
    (h : r.readAll data = .ok listed) : Keyed listed := by
  obtain ⟨entries, -, hlisted⟩ := bind_eq_ok.mp h
  obtain ⟨hlen, hall⟩ := Checks.mapEach_ok.mp hlisted
  intro e he address
  obtain ⟨i, hi, rfl⟩ := List.getElem_of_mem he
  have hentry := hall i _ _ (List.getElem?_eq_getElem (hlen ▸ hi)) (List.getElem?_eq_getElem hi)
  obtain ⟨value, -, hentry⟩ := bind_eq_ok.mp hentry
  obtain ⟨key, hcache, hentry⟩ := bind_eq_ok.mp hentry
  rw [← Except.ok.inj hentry, ListedKey.at_iff]
  exact hkey _ _ _ hcache address

/-! ### Fresh and cached -/

variable {s : KeyInventory r.Revision} {status reply status' reply' : Reply Json} {revision revision' : r.Revision}
  {body : Json} {listed : List (CacheKey × ListedKey)}

theorem listKeysIfKeysetChanged_fresh (hstatus : Reports r status revision) (hfresh : s.current revision = false)
    (hbody : reply.okBody = some body) (hread : r.readAll body = .ok listed) :
    listKeysIfKeysetChanged s status reply =
      ({ keys := ofListed listed, revision := some revision }, .ok (listed.map Prod.snd)) := by
  obtain ⟨entries, hentries, hlisted⟩ := bind_eq_ok.mp hread
  have hrefill : refill (r := r) body = ({ keys := ofListed listed }, .ok (listed.map Prod.snd)) := by
    rw [refill, hentries]
    simp only [fill_ok hlisted]
    rfl
  rw [listKeysIfKeysetChanged, hstatus]
  simp only [Bool.false_eq_true, if_false, hfresh]
  rw [fetchKeys, decodeReply_ok.mpr hbody]
  simp only [hrefill]
  rfl

theorem listKeysIfKeysetChanged_cached (hstatus : Reports r status revision) (hcached : s.current revision = true) :
    listKeysIfKeysetChanged s status reply = (s, .ok (s.keys.map Prod.snd)) := by
  rw [listKeysIfKeysetChanged, hstatus]
  simp only [Bool.false_eq_true, if_false, hcached, if_true]

/-- A call answered from the cache ends like the one that filled it exactly
where one entry counts. -/
theorem resolveAuthAddress_iff (hkey : r.KeysTexts) {address : String} {lookup : Except String String}
    (hstatus : Reports r status revision) (hfresh : s.current revision = false)
    (hbody : reply.okBody = some body) (hread : r.readAll body = .ok listed)
    (hstatus' : Reports r status' revision')
    (hcached : (resolveAuthAddress s address lookup status reply).1.current revision' = true) :
    (resolveAuthAddress s address lookup status reply).2 =
        (resolveAuthAddress (resolveAuthAddress s address lookup status reply).1 address lookup status' reply').2 ↔
      ∀ authAddr, lookup = .ok authAddr → OneListed (listed.map Prod.snd) (signingAddress address authAddr) := by
  cases lookup with
  | error why => exact ⟨fun _ _ h => (nomatch h), fun _ => rfl⟩
  | ok authAddr =>
    have hfirst : resolveAuthAddress s address (.ok authAddr) status reply =
        ({ keys := ofListed listed, revision := some revision }, resolvedTo address authAddr
          (findSpendableKey (listed.map Prod.snd) (signingAddress address authAddr))) := by
      rw [resolveAuthAddress, listKeysIfKeysetChanged_fresh hstatus hfresh hbody hread]
      rfl
    rw [hfirst] at hcached ⊢
    have hsecond : (resolveAuthAddress (r := r) { keys := ofListed listed, revision := some revision } address
        (.ok authAddr) status' reply').2 = resolvedTo address authAddr
          (findSpendableKey ((ofListed listed).map Prod.snd) (signingAddress address authAddr)) := by
      rw [resolveAuthAddress, listKeysIfKeysetChanged_cached hstatus' hcached]
      rfl
    have hkept : findSpendableKey ((ofListed listed).map Prod.snd) (signingAddress address authAddr) =
        (lastAt (·.at (signingAddress address authAddr)) (listed.map Prod.snd)).filter ListedKey.spendable :=
      (keepsLast_ofListed (keyed_readAll hkey hread) _).find?_eq ListedKey.spendable
    rw [hsecond, (resolvedTo_injective address authAddr).eq_iff, hkept]
    refine find?_eq_lastAt_iff.trans ⟨fun h authAddr' heq => ?_, fun h => h authAddr rfl⟩
    cases heq
    exact h

end Script

theorem ScriptSdk.keysTexts (env : Env) (conv : Conversions) (sdk : ScriptSdk) :
    (sdk.keyReader env conv).KeysTexts := by
  intro position value key h address
  cases sdk with
  | python =>
    cases value with
    | none => cases h; simp
    | some v => cases v <;> cases h <;> simp
  | typescript =>
    cases value with
    | none => cases h; simp
    | some v => cases v <;> cases h <;> simp

/-- **The cache answers like `/keys` where one entry counts.** A call answered
from the cache, at the revision of the call that filled it, ends as that call
did exactly where none of the entries with the signing address is spendable, or
the last of them is the first spendable one. -/
theorem resolve_cached_iff (env : Env) (conv : Conversions) (address : String) (lookup : Except String String) :
    (∀ (c : Cache) (t t' : Trace inventory) (revision revision' : ℕ) (keys cached : List KeyInfo)
        (r r' : Except SdkError Go.ResolvedAuthAddress),
      Runs (Go.resolveAuthAddress env address lookup) t r → Go.FromKeys t revision keys →
      Runs (Go.resolveAuthAddress env address lookup) t' r' → Go.FromCache t' revision' cached →
      (c.after t).Reads t' →
      (r = r' ↔ ∀ authAddr, lookup = .ok authAddr → OneEntry keys (signingAddress address authAddr))) ∧
    ∀ (sdk : ScriptSdk) (s : KeyInventory (sdk.keyReader env conv).Revision)
        (status reply status' reply' : Reply Json) (revision revision' : (sdk.keyReader env conv).Revision)
        (body : Json) (listed : List (CacheKey × ListedKey)),
      Reports (sdk.keyReader env conv) status revision → s.current revision = false →
      reply.okBody = some body → (sdk.keyReader env conv).readAll body = .ok listed →
      Reports (sdk.keyReader env conv) status' revision' →
      (resolveAuthAddress s address lookup status reply).1.current revision' = true →
      ((resolveAuthAddress s address lookup status reply).2 =
          (resolveAuthAddress (resolveAuthAddress s address lookup status reply).1 address lookup status' reply').2 ↔
        ∀ authAddr, lookup = .ok authAddr → OneListed (listed.map Prod.snd) (signingAddress address authAddr)) :=
  ⟨fun _ _ _ _ _ _ _ _ _ hrun hfresh hrun' hcached hreads => Go.resolve_iff hrun hfresh hrun' hcached hreads,
    fun sdk _ _ _ _ _ _ _ _ _ hstatus hfresh hbody hread hstatus' hcached =>
      resolveAuthAddress_iff (sdk.keysTexts env conv) hstatus hfresh hbody hread hstatus' hcached⟩

namespace Demo

def freshTrace (keys : List KeyInfo) : Trace inventory :=
  [⟨.status, statusAt 1⟩, ⟨.received, ()⟩, ⟨.cachedKeysForRevision 1, none⟩,
    ⟨.keys, .http 200 "OK" "" none (some { count := keys.length, keys := keys })⟩, ⟨.received, ()⟩,
    ⟨.storeKeys keys, ()⟩, ⟨.cacheKeysRevision 1, ()⟩]

def cachedTrace (keys : List KeyInfo) : Trace inventory :=
  [⟨.status, statusAt 1⟩, ⟨.received, ()⟩, ⟨.cachedKeysForRevision 1, some keys⟩]

theorem freshTrace_fromKeys (keys : List KeyInfo) : Go.FromKeys (freshTrace keys) 1 keys :=
  ⟨_, _, _, rfl, rfl, rfl, ⟨_, _, rfl, rfl, rfl⟩, rfl⟩

theorem cachedTrace_fromCache (keys : List KeyInfo) : Go.FromCache (cachedTrace keys) 1 keys :=
  ⟨_, _, rfl, rfl, rfl, rfl⟩

theorem cachedTrace_reads {keys cached : List KeyInfo} (h : cached.Perm (KeyMap.ofKeys keys).values) :
    (({} : Cache).after (freshTrace keys)).Reads (cachedTrace cached) := by
  rw [(freshTrace_fromKeys keys).after]
  refine ⟨rfl, rfl, ?_, trivial⟩
  exact decide_eq_true h

/-- Two entries of one address; the second is no spending account. -/
def shadowedKeys : List KeyInfo := [{ address := "A" }, { address := "A", isSpendingAccount := some false }]

def shadowingEntry : Json :=
  .obj [("address", .str "A"), ("key_type", .str "ed25519"), ("is_spending_account", .bool false)]

/-- Numbers that are their own doubles. -/
def smallConversions : Conversions where
  intText _ := none
  number
    | .int n => some (some n)
    | _ => none
  text _ := none

def statusReply : Reply Json := .http 200 "OK" "" none (some (.obj [("keyset_revision", .int 1)]))

/-- Two calls in a row for account A: the second is served from the cache of
the first. -/
noncomputable def twice (sdk : ScriptSdk) (entries : List Json) :
    Except SdkError ListedAuthAddress × Except SdkError ListedAuthAddress :=
  let first := resolveAuthAddress (r := sdk.keyReader env smallConversions) {} "A" (.ok "") statusReply
    (keysReply entries)
  (first.2, (resolveAuthAddress first.1 "A" (.ok "") statusReply (.unreachable "")).2)

theorem shadowed_twice (sdk : ScriptSdk) : (twice sdk [entryA, shadowingEntry]).1.isOk = true ∧
    (twice sdk [entryA, shadowingEntry]).2.isOk = false := by
  cases sdk with
  | python => decide +kernel
  | typescript => decide +kernel

/-- A key that `/keys` has is not found in the cache of the same answer. -/
theorem resolve_cached_shadowed :
    (∃ t t' r r', Runs (Go.resolveAuthAddress env "A" (.ok "")) t r ∧ Go.FromKeys t 1 shadowedKeys ∧
      Runs (Go.resolveAuthAddress env "A" (.ok "")) t' r' ∧ (∃ cached, Go.FromCache t' 1 cached) ∧
      (({} : Cache).after t).Reads t' ∧ r ≠ r') ∧
    (twice .python [entryA, shadowingEntry]).1 ≠ (twice .python [entryA, shadowingEntry]).2 ∧
    (twice .typescript [entryA, shadowingEntry]).1 ≠ (twice .typescript [entryA, shadowingEntry]).2 := by
  have hscript : ∀ sdk, (twice sdk [entryA, shadowingEntry]).1 ≠ (twice sdk [entryA, shadowingEntry]).2 := by
    intro sdk h
    have hok := shadowed_twice sdk
    rw [h] at hok
    exact absurd (hok.1.symm.trans hok.2) (by decide)
  refine ⟨?_, hscript .python, hscript .typescript⟩
  have hperm : ([{ address := "A", isSpendingAccount := some false }] : List KeyInfo).Perm
      (KeyMap.ofKeys shadowedKeys).values := by
    rfl
  refine ⟨_, _, _, _, Go.runs_resolveAuthAddress (freshTrace_fromKeys shadowedKeys).runs, freshTrace_fromKeys _,
    Go.runs_resolveAuthAddress (cachedTrace_fromCache _).runs, ⟨_, cachedTrace_fromCache _⟩,
    cachedTrace_reads hperm, ?_⟩
  intro h
  exact absurd (Go.resolvedTo_injective _ _ h) (by decide)

/-- With one entry the two calls end alike. -/
theorem resolve_cached_single :
    (∃ t t' r, Runs (Go.resolveAuthAddress env "A" (.ok "")) t r ∧ Go.FromKeys t 1 [spendingKey] ∧
      Runs (Go.resolveAuthAddress env "A" (.ok "")) t' r ∧ Go.FromCache t' 1 [spendingKey]) ∧
    (twice .python [entryA]).1 = (twice .python [entryA]).2 := by
  constructor
  · have hreads : (({} : Cache).after (freshTrace [spendingKey])).Reads (cachedTrace [spendingKey]) :=
      cachedTrace_reads (by rfl)
    have hrun : Runs (Go.resolveAuthAddress env "A" (.ok "")) _ _ :=
      Go.runs_resolveAuthAddress (freshTrace_fromKeys [spendingKey]).runs
    have hrun' : Runs (Go.resolveAuthAddress env "A" (.ok "")) _ _ :=
      Go.runs_resolveAuthAddress (cachedTrace_fromCache [spendingKey]).runs
    have hsame := ((resolve_cached_iff env smallConversions "A" (.ok "")).1 _ _ _ _ _ _ _ _ _ hrun
      (freshTrace_fromKeys _) hrun' (cachedTrace_fromCache _) hreads).mpr fun authAddr hauth => by
        cases hauth
        exact Or.inr ⟨spendingKey, rfl, rfl⟩
    rw [← hsame] at hrun'
    exact ⟨_, _, _, hrun, freshTrace_fromKeys _, hrun', cachedTrace_fromCache _⟩
  · refine ((resolve_cached_iff env smallConversions "A" (.ok "")).2 .python {} statusReply (keysReply [entryA])
      statusReply (.unreachable "") (.int 1) (.int 1) _ _ rfl rfl rfl rfl rfl ?_).mpr fun authAddr hauth => ?_
    · decide +kernel
    · cases hauth
      exact Or.inr ⟨_, rfl, rfl⟩

end Demo

end AplaneSdk
