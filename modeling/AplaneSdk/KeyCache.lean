/-
# The key cache of the Go client

The calls that read or fill the key cache, cut where another goroutine can come
between: a request is served, its response is received, and each critical
section of `keyMu` is one step. A cached map and the revision it belongs to are
written in two sections, and `PrepareRekey` reads the cache in a section of its
own, after the inventory it resolved the sender against.

The server is a key set with a revision that grows with every change;
generating or deleting a key is a change like any other, so the answers of
those calls leave it alone.

Key definitions: `KeyMap`, `CacheOp`, `listKeysIfKeysetChanged`, `getKeyInfo`,
`prepareRekey`, `Call`, `Server`, `cacheMachine`, `callPool`.
Key theorems: `KeyMap.values_ofKeys_perm`, `runs_listKeysIfKeysetChanged_ok`,
`Server.held_unique`, `cacheStep_of_answer`.
-/
import Mathlib.Data.List.AList
import AplaneSdk.Http
import AplaneSdk.Lib.Threads

namespace AplaneSdk

open Interaction Interaction.Prog

/-! ### Keys by address -/

/-- A map from addresses to keys. -/
structure KeyMap where
  map : AList fun _ : String => KeyInfo
  addressed : ∀ e ∈ map.entries, e.1 = e.2.address

namespace KeyMap

def empty : KeyMap := ⟨∅, by simp⟩

/-- `cache[k.Address] = k`. -/
def insert (m : KeyMap) (k : KeyInfo) : KeyMap where
  map := m.map.insert k.address k
  addressed := by
    intro e he
    rw [AList.entries_insert, List.mem_cons] at he
    rcases he with rfl | he
    · rfl
    · exact m.addressed e ((List.kerase_sublist _ _).subset he)

/-- The map of a `/keys` body: the last key of each address. -/
def ofKeys (keys : List KeyInfo) : KeyMap := keys.foldl insert empty

def get? (m : KeyMap) (address : String) : Option KeyInfo := m.map.lookup address

def values (m : KeyMap) : List KeyInfo := m.map.entries.map Sigma.snd

theorem mem_values {m : KeyMap} {k : KeyInfo} : k ∈ m.values ↔ m.get? k.address = some k := by
  rw [get?, ← Option.mem_def, AList.mem_lookup_iff, values, List.mem_map]
  constructor
  · rintro ⟨e, he, rfl⟩
    have := m.addressed e he
    rw [← this]
    exact he
  · intro h
    exact ⟨_, h, rfl⟩

theorem values_insert {m : KeyMap} {k : KeyInfo} (h : m.get? k.address = none) :
    (m.insert k).values = k :: m.values := by
  have hnot : k.address ∉ m.map := AList.lookup_eq_none.mp h
  rw [values, insert, AList.entries_insert_of_notMem hnot]
  rfl

theorem get?_insert_ne {m : KeyMap} {k : KeyInfo} {address : String} (h : address ≠ k.address) :
    (m.insert k).get? address = m.get? address := AList.lookup_insert_ne h

theorem values_foldl_perm : ∀ {keys : List KeyInfo} {m : KeyMap}, (keys.map (·.address)).Nodup →
    (∀ k ∈ keys, m.get? k.address = none) → (keys.foldl insert m).values.Perm (m.values ++ keys)
  | [], m, _, _ => by simp
  | k :: keys, m, hnodup, hfree => by
    rw [List.map_cons, List.nodup_cons] at hnodup
    have hk := hfree k (List.mem_cons_self ..)
    have hrest : ∀ k' ∈ keys, (m.insert k).get? k'.address = none := by
      intro k' hk'
      rw [get?_insert_ne]
      · exact hfree k' (List.mem_cons_of_mem _ hk')
      · intro he
        exact hnodup.1 (he ▸ List.mem_map_of_mem hk')
    have ih := values_foldl_perm hnodup.2 hrest
    rw [values_insert hk] at ih
    exact ih.trans List.perm_middle.symm

/-- The map of keys with distinct addresses holds them all. -/
theorem values_ofKeys_perm {keys : List KeyInfo} (h : (keys.map (·.address)).Nodup) :
    (ofKeys keys).values.Perm keys :=
  values_foldl_perm h fun _ _ => AList.lookup_empty _

end KeyMap

/-! ### Questions and answers -/

structure StatusResponse where
  signerLocked : Bool
  keysetRevision : ℕ

structure KeysResponse where
  count : ℤ
  keys : List KeyInfo

structure SuggestedParams where
  fee : ℕ
  flatFee : Bool
  rest : Bytes
  minFee : ℕ := 0

structure AssetHolding where
  assetId : ℕ
  amount : ℕ
  deleted : Bool := false
  deriving DecidableEq

/-- An account as algod reports it. What it has created or opted into beside
assets is kept by the ids. -/
structure Account where
  address : String
  authAddr : String
  amount : ℕ := 0
  minBalance : ℕ := 0
  assets : List AssetHolding := []
  status : String := ""
  totalAssetsOptedIn : ℕ := 0
  createdAssets : List ℕ := []
  totalCreatedAssets : ℕ := 0
  appsLocalState : List ℕ := []
  totalAppsOptedIn : ℕ := 0
  createdApps : List ℕ := []
  totalCreatedApps : ℕ := 0
  deriving DecidableEq

/-- A request served, a response received, or a critical section of `keyMu`. -/
inductive CacheOp
  | status
  | keys
  | generate (keyType : String) (parameters : List (String × String))
  | delete (address : String)
  | suggestedParams
  | accountInformation (address : String)
  | received
  | cachedKeys
  | cachedKeysForRevision (revision : ℕ)
  | keyAt (address : String)
  | storeKeys (keys : List KeyInfo)
  | cacheKeysRevision (revision : ℕ)
  | clear
  deriving DecidableEq

@[reducible] def CacheOp.Ans : CacheOp → Type
  | status => Reply StatusResponse
  | keys => Reply KeysResponse
  | generate .. => Reply String
  | delete _ => Reply Unit
  | suggestedParams => Except String SuggestedParams
  | accountInformation _ => Except String Account
  | cachedKeys => Option (List KeyInfo)
  | cachedKeysForRevision _ => Option (List KeyInfo)
  | keyAt _ => Option KeyInfo
  | received | storeKeys _ | cacheKeysRevision _ | clear => Unit

abbrev inventory : Iface := ⟨CacheOp, CacheOp.Ans⟩

abbrev CacheFlow := Prog inventory SdkError

namespace Go

variable (env : Env)

/-- A request and the response to it. -/
def fetch (o : CacheOp) : CacheFlow (CacheOp.Ans o) := do
  let reply ← query (I := inventory) o
  query (I := inventory) .received
  pure reply

def statusEndpoint : Endpoint where
  unreachable why := { text := "failed to get signer status: " ++ why }
  refused status statusText text envelope :=
    if status = 401 then errAuthentication
    else if status = 503 then errSignerUnavailable
    else signerHttpError "signer error" status statusText text envelope
  undecodable text := { text := "failed to decode response: " ++ env.jsonError text }

/-- `GetStatusWithContext`. -/
def getStatus : CacheFlow StatusResponse := do
  let reply ← fetch .status
  liftM (decodeReply (statusEndpoint env) reply)

def keysEndpoint : Endpoint where
  unreachable why := { text := "failed to get keys: " ++ why }
  refused status statusText text envelope :=
    if status = 401 then errAuthentication
    else signerHttpError "signer error" status statusText text envelope
  undecodable text := { text := "failed to decode response: " ++ env.jsonError text }

/-- A 403 with the code `locked`, which `GetKeysResponseWithContext` reports as
a result. -/
def saysLocked {α : Type} : Reply α → Bool
  | .unreachable _ => false
  | .http status statusText text envelope _ =>
    status == 403 && (readErrorParts statusText text envelope).1 == errCodeLocked

structure KeysResult where
  count : ℤ := 0
  keys : List KeyInfo := []
  locked : Bool := false

/-- `GetKeysResponseWithContext`. -/
def getKeysResponse : CacheFlow KeysResult := do
  let reply ← fetch .keys
  if saysLocked reply then
    pure { locked := true }
  else
    let body ← liftM (decodeReply (keysEndpoint env) reply)
    query (I := inventory) (.storeKeys body.keys)
    pure { count := body.count, keys := body.keys }

/-- The error `ListKeys` and `ListKeysIfKeysetChanged` make of one of
`GetKeysResponseWithContext`. -/
def listKeysError (e : SdkError) : SdkError :=
  if e = errSignerLocked ∨ e = errAuthentication then e else e.wrap "failed to list keys: "

def errKeyNotFound : SdkError where
  kind := .keyNotFound
  text := "key not found in signer"

/-- `fmt.Errorf("%w: …", ErrKeyNotFound, …)`. -/
def keyNotFoundError (detail : String) : SdkError :=
  { errKeyNotFound with text := errKeyNotFound.text ++ ": " ++ detail }

/-- The part `ListKeys` and `ListKeysIfKeysetChanged` share. -/
def fetchKeys : CacheFlow (List KeyInfo) := do
  let result ← (getKeysResponse env).mapError listKeysError
  if result.locked then
    throw errSignerLocked
  pure result.keys

/-- `ListKeys`. -/
def listKeys (refresh : Bool) : CacheFlow (List KeyInfo) := do
  if refresh then
    fetchKeys env
  else
    let cached ← query (I := inventory) .cachedKeys
    match cached with
    | some keys => pure keys
    | none => fetchKeys env

/-- `GetKeyInfo`. -/
def getKeyInfo (address : String) : CacheFlow KeyInfo := do
  let cached ← query (I := inventory) (.keyAt address)
  match cached with
  | some k => pure k
  | none =>
    let result ← getKeysResponse env
    if result.locked then
      throw errSignerLocked
    let stored ← query (I := inventory) (.keyAt address)
    match stored with
    | some k => pure k
    | none => throw errKeyNotFound

/-- `ListKeysIfKeysetChangedWithContext`. -/
def listKeysIfKeysetChanged : CacheFlow (List KeyInfo) := do
  let status ← getStatus env
  if status.signerLocked then
    throw errSignerLocked
  let cached ← query (I := inventory) (.cachedKeysForRevision status.keysetRevision)
  match cached with
  | some keys => pure keys
  | none =>
    let keys ← fetchKeys env
    query (I := inventory) (.cacheKeysRevision status.keysetRevision)
    pure keys

/-- A locked 403 of the mutating calls. -/
def lockedForbiddenError (status : ℕ) (statusText text : String) (envelope : Option ErrorResponse) :
    SdkError :=
  let apiErr := signerHttpError "signer error" status statusText text envelope
  if apiErr.code = errCodeLocked then errSignerLocked else apiErr

def generateEndpoint : Endpoint where
  unreachable why := { text := "failed to generate key: " ++ why }
  refused status statusText text envelope :=
    if status = 401 then errAuthentication
    else if status = 403 then lockedForbiddenError status statusText text envelope
    else signerHttpError "key generation failed" status statusText text envelope
  undecodable text := { text := "failed to decode response: " ++ env.jsonError text }

/-- `GenerateKey`, which returns the new address. -/
def generateKey (keyType : String) (parameters : List (String × String)) : CacheFlow String := do
  let reply ← fetch (.generate keyType parameters)
  let address ← liftM (decodeReply (generateEndpoint env) reply)
  query (I := inventory) .clear
  pure address

def errKeyDeletion : SdkError := { text := "key deletion failed" }

/-- `DeleteKey` looks at the status alone. -/
def checkDeleted : Reply Unit → Except SdkError Unit
  | .unreachable why => .error { text := "failed to delete key: " ++ why }
  | .http status statusText text envelope _ =>
    if status = 401 then .error errAuthentication
    else if status = 403 then .error (lockedForbiddenError status statusText text envelope)
    else if status = 404 then .error errKeyDeletion
    else if status ≠ 200 then
      .error (signerHttpError "key deletion failed" status statusText text envelope)
    else .ok ()

/-- `DeleteKey`. -/
def deleteKey (address : String) : CacheFlow Unit := do
  let reply ← fetch (.delete address)
  liftM (checkDeleted reply)
  query (I := inventory) .clear

/-- `findSpendableKey`. -/
def findSpendableKey (keys : List KeyInfo) (address : String) : Option KeyInfo :=
  keys.find? fun k => k.address = address && k.isSpendingAccount != some false

structure ResolvedAuthAddress where
  address : String
  authAddress : String
  isRekeyed : Bool
  keyInfo : KeyInfo

/-- `ResolveAuthAddress`, with the answer of the account lookup. -/
def resolveAuthAddress (address : String) (lookup : Except String String) :
    CacheFlow ResolvedAuthAddress := do
  let authAddr ← liftM (match lookup with
    | .ok a => .ok a
    | .error why => .error { text := "failed to query account info: " ++ why } : Except SdkError String)
  let signingAddr := if authAddr ≠ "" ∧ authAddr ≠ address then authAddr else address
  let keys ← listKeysIfKeysetChanged env
  match findSpendableKey keys signingAddr with
  | some key =>
    pure { address := address, authAddress := signingAddr, isRekeyed := signingAddr ≠ address, keyInfo := key }
  | none =>
    if signingAddr = address then
      throw (keyNotFoundError s!"{address} is not available for signing")
    else
      throw (keyNotFoundError s!"account is rekeyed to {authAddr} but that address is not signable")

/-! ### `PrepareRekey` -/

structure RekeyPrepParams where
  sender : String
  rekeyTo : String
  note : Bytes := []
  fee : ℕ := 0
  useFlatFee : Bool := false
  deriving DecidableEq

/-- The Algorand SDK's part of `PrepareRekey`. -/
structure RekeySdk where
  makePaymentTxn : String → Bytes → SuggestedParams → Except String Txn
  rekey : Txn → String → Except String Txn

/-- `applyPrepFee`. -/
def applyPrepFee (suggested : SuggestedParams) (fee : ℕ) (useFlatFee : Bool) : SuggestedParams :=
  if ¬ useFlatFee ∧ fee = 0 then suggested else { suggested with fee := fee, flatFee := true }

/-- `rekeyChecks`; the check it reports is not read again. -/
def rekeyChecks (target : Account) (rekeyTo : String) : Except SdkError Unit :=
  failIf (target.authAddr ≠ "" ∧ target.authAddr ≠ rekeyTo)
    { text := "rekey target is itself rekeyed to " ++ target.authAddr }

/-- The flows whose address can authorize another account. -/
def knownRekeyFlow (flow : String) : Bool :=
  flow == "" || flow == signingFlowBounded1 || flow == signingFlowCosigner1 ||
    flow == signingFlowBoundedCosigner1

/-- `rekeyTargetFlowCheck`. -/
def rekeyTargetFlowCheck (rekeyTo flow : String) : Except SdkError Unit :=
  if knownRekeyFlow flow then .ok ()
  else if flow = signingFlowRotating1 then
    .error { text :=
      s!"cannot rekey to {rekeyTo}: it is a rotating account, whose address authorizes only itself" }
  else
    .error { text := s!"cannot rekey to {rekeyTo}: it uses signing flow {env.quote flow}, " ++
      "which this SDK cannot use as another account's authorizer" }

/-- An error of algod or the Algorand SDK, with the step in front. -/
def orFail {α : Type} (label : String) : Except String α → Except SdkError α
  | .ok a => .ok a
  | .error why => .error { text := label ++ why }

theorem orFail_ok {α : Type} {label : String} {x : Except String α} {a : α} :
    orFail label x = .ok a ↔ x = .ok a := by
  cases x <;> simp [orFail]

/-- The account of the target: algod's, unless it is the sender itself. -/
def rekeyTargetAccount (params : RekeyPrepParams) : CacheFlow Account :=
  if params.rekeyTo ≠ params.sender then do
    let target ← fetch (.accountInformation params.rekeyTo)
    liftM (orFail "failed to get rekey target account info: " target)
  else pure { address := params.rekeyTo, authAddr := "" }

/-- The transaction `PrepareRekey` builds before it asks the signer. -/
def buildRekey (sdk : RekeySdk) (params : RekeyPrepParams) : CacheFlow (Txn × Account) := do
  liftM (failIf (params.sender = "") { text := "sender is required" })
  liftM (failIf (params.rekeyTo = "") { text := "rekey_to is required" })
  let suggested ← fetch .suggestedParams
  let suggested ← liftM (orFail "failed to get suggested params: " suggested)
  let sender ← fetch (.accountInformation params.sender)
  let sender ← liftM (orFail "failed to get sender account info: " sender)
  let target ← rekeyTargetAccount params
  liftM (rekeyChecks target params.rekeyTo)
  let txn ← liftM (orFail "failed to create rekey transaction: "
    (sdk.makePaymentTxn params.sender params.note (applyPrepFee suggested params.fee params.useFlatFee)))
  let txn ← liftM (orFail "failed to set rekey target: " (sdk.rekey txn params.rekeyTo))
  pure (txn, sender)

/-- The check of the target, which reads the cache once more. -/
def checkRekeyTarget (params : RekeyPrepParams) : CacheFlow Unit := do
  if params.rekeyTo ≠ params.sender then
    let held ← query (I := inventory) (.keyAt params.rekeyTo)
    match held with
    | some target => liftM (rekeyTargetFlowCheck env params.rekeyTo target.signingFlow)
    | none => pure ()

/-- `PrepareRekey`. -/
def prepareRekey (sdk : RekeySdk) (params : RekeyPrepParams) : CacheFlow PreparedTransaction := do
  let (txn, sender) ← buildRekey sdk params
  let resolved ← resolveAuthAddress env params.sender (.ok sender.authAddr)
  checkRekeyTarget env params
  pure { transaction := some txn, authAddress := resolved.authAddress, signerKey := some resolved.keyInfo }

/-! ### What a successful call leaves behind -/

section Runs

variable {env} {t : Trace inventory}

theorem runs_fetch {o : CacheOp} {r : Except SdkError (CacheOp.Ans o)} :
    Runs (fetch o) t r ↔ ∃ a, t = [⟨o, a⟩, ⟨.received, ()⟩] ∧ r = .ok a := by
  constructor
  · rintro ⟨a, t₁, rfl, ⟨⟨⟩, t₂, rfl, rfl, rfl⟩⟩
    exact ⟨a, rfl, rfl⟩
  · rintro ⟨a, rfl, rfl⟩
    exact ⟨a, _, rfl, (), _, rfl, rfl, rfl⟩

theorem obeys_fetch_bind {S α : Type} {m : Monitor inventory S} {v : S} {o : CacheOp}
    {f : CacheOp.Ans o → CacheFlow α} (h : ∀ a, m.allows v ⟨o, a⟩ ∧ m.allows (m.next v ⟨o, a⟩) ⟨.received, ()⟩ ∧
      Obeys m (m.after v [⟨o, a⟩, ⟨.received, ()⟩]) (f a)) : Obeys m v (fetch o >>= f) := by
  intro a
  exact ⟨(h a).1, fun _ => (h a).2⟩

/-- A fetch that is read: the trace, and what the reading made of the reply. -/
theorem runs_fetch_lift_ok {α : Type} {o : CacheOp} {read : CacheOp.Ans o → Except SdkError α} {a : α} :
    Runs (do let reply ← fetch o; liftM (read reply)) t (.ok a) ↔
      ∃ reply, t = [⟨o, reply⟩, ⟨.received, ()⟩] ∧ read reply = .ok a := by
  rw [runs_bind_ok]
  constructor
  · rintro ⟨reply, t₁, t₂, rfl, hf, rfl, hr⟩
    obtain ⟨reply', rfl, he⟩ := runs_fetch.mp hf
    cases he
    exact ⟨reply, by simp, hr.symm⟩
  · rintro ⟨reply, rfl, hr⟩
    exact ⟨reply, _, [], by simp, runs_fetch.mpr ⟨reply, rfl, rfl⟩, rfl, hr.symm⟩

theorem runs_getStatus_ok {st : StatusResponse} (h : Runs (getStatus env) t (.ok st)) :
    ∃ reply, t = [⟨.status, reply⟩, ⟨.received, ()⟩] ∧ Reply.okBody reply = some st := by
  obtain ⟨reply, ht, hr⟩ := runs_fetch_lift_ok.mp h
  exact ⟨reply, ht, decodeReply_ok.mp hr⟩

/-- The keys of a body, fetched and stored. -/
def Fetched (t : Trace inventory) (keys : List KeyInfo) : Prop :=
  ∃ (reply : Reply KeysResponse) (body : KeysResponse), reply.okBody = some body ∧ keys = body.keys ∧
    t = [⟨.keys, reply⟩, ⟨.received, ()⟩, ⟨.storeKeys keys, ()⟩]

theorem runs_getKeysResponse_ok {result : KeysResult} (h : Runs (getKeysResponse env) t (.ok result)) :
    result.locked = true ∨ result.locked = false ∧ Fetched t result.keys := by
  obtain ⟨reply, t₁, t₂, rfl, hf, hrest⟩ := runs_bind_ok.mp h
  obtain ⟨reply', rfl, he⟩ := runs_fetch.mp hf
  cases he
  split at hrest
  · cases hrest.2
    exact Or.inl rfl
  · obtain ⟨body, hbody, hstore⟩ := runs_lift_bind_ok.mp hrest
    obtain ⟨⟨⟩, t₃, rfl, rfl, hr⟩ := hstore
    cases hr
    exact Or.inr ⟨rfl, reply, body, decodeReply_ok.mp hbody, rfl, by simp⟩

theorem runs_fetchKeys_ok {keys : List KeyInfo} (h : Runs (fetchKeys env) t (.ok keys)) : Fetched t keys := by
  obtain ⟨result, t₁, t₂, rfl, hg, h⟩ := runs_bind_ok.mp h
  rcases runs_getKeysResponse_ok (runs_mapError_ok.mp hg) with hl | ⟨hl, hfetched⟩
  · rw [hl] at h
    cases h.2
  · rw [hl] at h
    obtain ⟨rfl, hr⟩ := h
    cases hr
    rw [List.append_nil]
    exact hfetched

/-- The two ways to an inventory: the cache, where the revision of `/status`
matches, or `/keys`, whose body is stored and then labelled. -/
theorem runs_listKeysIfKeysetChanged_ok {keys : List KeyInfo}
    (h : Runs (listKeysIfKeysetChanged env) t (.ok keys)) :
    ∃ (reply : Reply StatusResponse) (st : StatusResponse), reply.okBody = some st ∧
      (t = [⟨.status, reply⟩, ⟨.received, ()⟩, ⟨.cachedKeysForRevision st.keysetRevision, some keys⟩] ∨
        ∃ t', Fetched t' keys ∧ t = [⟨.status, reply⟩, ⟨.received, ()⟩,
          ⟨.cachedKeysForRevision st.keysetRevision, none⟩] ++ t' ++
            [⟨.cacheKeysRevision st.keysetRevision, ()⟩]) := by
  obtain ⟨st, t₁, t₂, rfl, hst, hrest⟩ := runs_bind_ok.mp h
  obtain ⟨reply, rfl, hbody⟩ := runs_getStatus_ok hst
  refine ⟨reply, st, hbody, ?_⟩
  cases hl : st.signerLocked with
  | true =>
    rw [hl] at hrest
    cases hrest.2
  | false =>
    rw [hl] at hrest
    obtain ⟨cached, t₃, rfl, hcached⟩ := hrest
    cases cached with
    | some cached =>
      obtain ⟨rfl, hr⟩ := hcached
      cases hr
      exact Or.inl rfl
    | none =>
      have hfetch : Runs (do
          let keys ← fetchKeys env
          query (I := inventory) (.cacheKeysRevision st.keysetRevision)
          pure keys) t₃ (.ok keys) := hcached
      obtain ⟨keys', t₄, t₅, rfl, hk, hlabel⟩ := runs_bind_ok.mp hfetch
      obtain ⟨⟨⟩, t₆, rfl, rfl, hr⟩ := hlabel
      cases hr
      exact Or.inr ⟨t₄, runs_fetchKeys_ok hk, by simp⟩

end Runs

end Go

/-! ### Calls in one pool -/

/-- The calls that share a cache; `resolve` is what the other `Prepare` calls
do with it. -/
inductive Call
  | listKeys (refresh : Bool)
  | getKeyInfo (address : String)
  | listKeysIfKeysetChanged
  | generateKey (keyType : String) (parameters : List (String × String))
  | deleteKey (address : String)
  | resolve (address : String) (lookup : Except String String)
  | prepareRekey (params : Go.RekeyPrepParams)

inductive Outcome
  | keys (keys : List KeyInfo)
  | key (key : KeyInfo)
  | generated (address : String)
  | deleted
  | resolved (address : Go.ResolvedAuthAddress)
  | prepared (slot : PreparedTransaction)

def Call.flow (env : Env) (sdk : Go.RekeySdk) : Call → CacheFlow Outcome
  | listKeys refresh => do
    let keys ← Go.listKeys env refresh
    pure (.keys keys)
  | getKeyInfo address => do
    let key ← Go.getKeyInfo env address
    pure (.key key)
  | listKeysIfKeysetChanged => do
    let keys ← Go.listKeysIfKeysetChanged env
    pure (.keys keys)
  | generateKey keyType parameters => do
    let address ← Go.generateKey env keyType parameters
    pure (.generated address)
  | deleteKey address => do
    Go.deleteKey address
    pure .deleted
  | resolve address lookup => do
    let resolved ← Go.resolveAuthAddress env address lookup
    pure (.resolved resolved)
  | prepareRekey params => do
    let slot ← Go.prepareRekey env sdk params
    pure (.prepared slot)

/-! ### What the calls share -/

/-- The keys of a signer, one for each address. -/
structure KeySet where
  keys : List KeyInfo
  nodup : (keys.map (·.address)).Nodup

/-- A signer: its key set, and the ones it held at earlier revisions. -/
structure Server where
  revision : ℕ
  keySet : KeySet
  past : List (ℕ × KeySet) := []
  sorted : (revision :: past.map Prod.fst).Pairwise (· > ·)

/-- A signer whose keys have not changed yet. -/
def Server.fresh (revision : ℕ) (ks : KeySet) : Server := ⟨revision, ks, [], List.pairwise_singleton _ _⟩

/-- The signer held the key set `ks` at revision `r`. -/
def Server.Held (s : Server) (r : ℕ) (ks : KeySet) : Prop := (r, ks) ∈ (s.revision, s.keySet) :: s.past

theorem Server.held_now (s : Server) : s.Held s.revision s.keySet := List.mem_cons_self ..

/-- A revision has one key set. -/
theorem Server.held_unique {s : Server} {r : ℕ} {ks ks' : KeySet} (h : s.Held r ks) (h' : s.Held r ks') :
    ks = ks' := by
  have hnodup : (((s.revision, s.keySet) :: s.past).map Prod.fst).Nodup := by
    rw [List.map_cons]
    exact s.sorted.imp fun hgt => (Nat.ne_of_lt hgt).symm
  have hinj := List.inj_on_of_nodup_map hnodup h h' rfl
  exact congrArg Prod.snd hinj

theorem Server.sorted_change {s : Server} {r : ℕ} (h : s.revision < r) :
    (r :: ((s.revision, s.keySet) :: s.past).map Prod.fst).Pairwise (· > ·) := by
  rw [List.map_cons, List.pairwise_cons]
  refine ⟨fun x hx => ?_, s.sorted⟩
  rcases List.mem_cons.mp hx with rfl | hx
  · exact h
  · exact lt_trans ((List.pairwise_cons.mp s.sorted).1 x hx) h

/-- A change of the key set moves to a larger revision. -/
def Server.change (s : Server) (r : ℕ) (ks : KeySet) : Option Server :=
  if h : s.revision < r then some ⟨r, ks, (s.revision, s.keySet) :: s.past, Server.sorted_change h⟩ else none

theorem Server.held_change {s s' : Server} {r r' : ℕ} {ks ks' : KeySet} (h : s.change r ks = some s')
    (hheld : s.Held r' ks') : s'.Held r' ks' := by
  unfold Server.change at h
  split at h
  · cases h
    exact List.mem_cons_of_mem _ hheld
  · cases h

/-- The fields of a `SignerClient` behind `keyMu`. -/
structure Cache where
  keys : Option KeyMap := none
  revision : ℕ := 0
  known : Bool := false

/-- The map `cachedKeysForRevision` finds. -/
def Cache.hit (c : Cache) (revision : ℕ) : Option KeyMap :=
  if c.known = true ∧ c.revision = revision then c.keys else none

structure CacheState where
  server : Server
  cache : Cache := {}

/-- A listing of a map, in the order in which Go ranges over it. -/
def lists (m : Option KeyMap) (answer : Option (List KeyInfo)) : Bool :=
  match m, answer with
  | none, none => true
  | some m, some keys => decide (keys.Perm m.values)
  | _, _ => false

/-- A request may fail in any way. An honest signer tells its own revision and
key set; another one tells anything, an address listed twice included. -/
def cacheMachine (honest : Bool) : Machine inventory (ℕ × KeySet) CacheState where
  answer s
    | .status, reply => if reply.okBody.all (fun st => !honest || st.keysetRevision = s.server.revision)
        then some s else none
    | .keys, reply => if reply.okBody.all (fun b => !honest || decide (b.keys.Perm s.server.keySet.keys))
        then some s else none
    | .generate .., _ | .delete _, _ | .suggestedParams, _ | .accountInformation _, _ | .received, _ => some s
    | .cachedKeys, a => if lists s.cache.keys a then some s else none
    | .cachedKeysForRevision r, a => if lists (s.cache.hit r) a then some s else none
    | .keyAt address, a => if a = s.cache.keys.bind (·.get? address) then some s else none
    | .storeKeys keys, _ => some { s with cache := { keys := some (KeyMap.ofKeys keys) } }
    | .cacheKeysRevision r, _ => some { s with cache := { s.cache with revision := r, known := true } }
    | .clear, _ => some { s with cache := {} }
  drift s d := (s.server.change d.1 d.2).map fun server => { s with server := server }

/-- The steps that neither look at the revision, the key at an address nor the
signer's own state, and write nothing. -/
def CacheOp.quiet : CacheOp → Bool
  | generate .. | delete _ | suggestedParams | accountInformation _ | received | cachedKeys => true
  | _ => false

/-- Before it resolves the sender, `PrepareRekey` takes quiet steps. -/
theorem obeys_buildRekey {S : Type} {m : Monitor inventory S}
    (hm : ∀ v {e}, CacheOp.quiet e.op = true → m.allows v e) {v : S} (sdk : Go.RekeySdk)
    (params : Go.RekeyPrepParams) : Obeys m v (Go.buildRekey sdk params) := by
  refine obeys_lift_bind fun _ _ => obeys_lift_bind fun _ _ => ?_
  refine Go.obeys_fetch_bind fun _ => ⟨hm _ rfl, hm _ rfl, obeys_lift_bind fun _ _ => ?_⟩
  refine Go.obeys_fetch_bind fun _ => ⟨hm _ rfl, hm _ rfl, obeys_lift_bind fun _ _ => ?_⟩
  refine obeys_bind ?_ fun _ target _ => ?_
  · unfold Go.rekeyTargetAccount
    split
    · exact Go.obeys_fetch_bind fun _ => ⟨hm _ rfl, hm _ rfl, obeys_done _⟩
    · exact obeys_done _
  · exact obeys_lift_bind fun _ _ => obeys_lift_bind fun _ _ => obeys_lift_bind fun _ _ => obeys_done _

/-- What a step of a call does to the shared state. -/
inductive CacheStep (honest : Bool) (s : CacheState) : Event inventory → CacheState → Prop
  | status (reply : Reply StatusResponse) : CacheStep honest s ⟨.status, reply⟩ s
  | keys (reply : Reply KeysResponse)
      (h : honest = true → ∀ b, reply.okBody = some b → b.keys.Perm s.server.keySet.keys) :
      CacheStep honest s ⟨.keys, reply⟩ s
  | hit (r : ℕ) (a : Option (List KeyInfo)) (h : lists (s.cache.hit r) a = true) :
      CacheStep honest s ⟨.cachedKeysForRevision r, a⟩ s
  | keyAt (address : String) : CacheStep honest s ⟨.keyAt address, s.cache.keys.bind (·.get? address)⟩ s
  | store (keys : List KeyInfo) :
      CacheStep honest s ⟨.storeKeys keys, ()⟩ { s with cache := { keys := some (KeyMap.ofKeys keys) } }
  | label (r : ℕ) :
      CacheStep honest s ⟨.cacheKeysRevision r, ()⟩ { s with cache := { s.cache with revision := r, known := true } }
  | clear : CacheStep honest s ⟨.clear, ()⟩ { s with cache := {} }
  | quiet (e : Event inventory) (h : CacheOp.quiet e.op = true) : CacheStep honest s e s

/-- The calls leave the signer alone. -/
theorem CacheStep.server {honest : Bool} {s s' : CacheState} {e : Event inventory} (h : CacheStep honest s e s') :
    s'.server = s.server := by
  cases h <;> rfl

theorem cacheStep_of_answer {honest : Bool} {s s' : CacheState} {e : Event inventory}
    (h : (cacheMachine honest).answer s e.op e.ans = some s') : CacheStep honest s e s' := by
  obtain ⟨o, a⟩ := e
  cases o with
  | status =>
    simp only [cacheMachine, Option.ite_none_right_eq_some, Option.some.injEq] at h
    obtain ⟨-, rfl⟩ := h
    exact .status a
  | keys =>
    simp only [cacheMachine, Option.ite_none_right_eq_some, Option.some.injEq] at h
    obtain ⟨hperm, rfl⟩ := h
    refine .keys a fun hhonest b hb => ?_
    rw [hb, hhonest] at hperm
    simpa using hperm
  | cachedKeysForRevision r =>
    simp only [cacheMachine, Option.ite_none_right_eq_some, Option.some.injEq] at h
    obtain ⟨hlists, rfl⟩ := h
    exact .hit r a hlists
  | keyAt address =>
    simp only [cacheMachine, Option.ite_none_right_eq_some, Option.some.injEq] at h
    obtain ⟨rfl, rfl⟩ := h
    exact .keyAt address
  | storeKeys keys =>
    cases h
    exact .store keys
  | cacheKeysRevision r =>
    cases h
    exact .label r
  | clear =>
    cases h
    exact .clear
  | cachedKeys =>
    simp only [cacheMachine, Option.ite_none_right_eq_some, Option.some.injEq] at h
    obtain ⟨-, rfl⟩ := h
    exact .quiet _ rfl
  | generate keyType parameters | delete address | suggestedParams | accountInformation address | received =>
    cases h
    exact .quiet _ rfl

abbrev CachePool := Pool inventory SdkError Outcome CacheState

abbrev CacheMove := Move inventory (ℕ × KeySet)

/-- Calls on a new client. -/
def callPool (env : Env) (sdk : Go.RekeySdk) (server : Server) (calls : List Call) : CachePool where
  shared := { server := server }
  threads := calls.map (Call.flow env sdk)

end AplaneSdk
