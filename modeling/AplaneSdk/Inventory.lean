/-
# The key cache of the Python and TypeScript clients

`list_keys` empties the cache and then fills it entry by entry, while it reads
entries that may be anything. An exception at a later entry leaves the entries
before it in the cache, and a later `list_keys()` serves them. The other calls
only empty the cache or read it, so where every body that is read is read to
its end, or fails before anything is stored, a cache that is not empty always
holds one complete response.

Key definitions: `KeyReader`, `fill`, `listKeys`, `InventoryCall`, `bodyRead`,
`AllOrNothing`, `clean`.
Key theorems: `fill_ok`, `refill_clean`, `refill_unclean`, `AllOrNothing.call`,
`inventory_allOrNothing`.
-/
import AplaneSdk.Listing

namespace AplaneSdk

/-! ### The client -/

/-- What the two clients do differently. -/
structure KeyReader where
  Revision : Type
  /-- The exception of a body that is no JSON. -/
  undecodable : SdkError
  entries : Json → Except SdkError (List Json)
  parseKey : Json → Except SdkError ListedKey
  /-- The key an address is stored under, by the position of its entry. -/
  cacheKey : ℕ → Option Json → Except SdkError CacheKey
  readStatus : Json → Except SdkError (Bool × Revision)
  /-- The stored revision is the reported one. -/
  sameRevision : Revision → Revision → Bool
  checkGenerated : Json → Except SdkError Unit
  readGenerated : Json → Except SdkError GeneratedKey

def Python.keyReader (env : Env) (conv : Conversions) : KeyReader where
  Revision := Json
  undecodable := { kind := .value, text := "" }
  entries := Python.entries
  parseKey := Python.parseKey conv
  cacheKey := Python.cacheKey
  readStatus := Python.readStatus
  sameRevision stored reported := match stored with
    | .null => false
    | stored => Python.equal stored reported
  checkGenerated := Python.checkGenerated env
  readGenerated := Python.readGenerated

/-- `NaN` equals no number. -/
def TypeScript.keyReader (env : Env) (conv : Conversions) : KeyReader where
  Revision := Option ℚ
  undecodable := languageError
  entries := TypeScript.entries
  parseKey := TypeScript.parseKey
  cacheKey := TypeScript.cacheKey conv
  readStatus := TypeScript.readStatus conv
  sameRevision stored reported := match stored with
    | none => false
    | some q => reported == some q
  checkGenerated := TypeScript.checkGenerated env
  readGenerated := TypeScript.readGenerated conv

/-- `_key_cache` and `_key_cache_revision`; the entries stand in the order in
which they came. -/
structure KeyInventory (ρ : Type) where
  keys : List (CacheKey × ListedKey) := []
  revision : Option ρ := none

/-- `cache[key] = value`. -/
def putKey (key : CacheKey) (value : ListedKey) : List (CacheKey × ListedKey) → List (CacheKey × ListedKey)
  | [] => [(key, value)]
  | (k, v) :: rest => if k = key then (k, value) :: rest else (k, v) :: putKey key value rest

/-- The cache of complete entries: the last one of each address. -/
def ofListed (listed : List (CacheKey × ListedKey)) : List (CacheKey × ListedKey) :=
  listed.foldl (fun d e => putKey e.1 e.2 d) []

section Client

variable (r : KeyReader)

/-- One entry, with the key it is stored under. -/
def KeyReader.readEntry (position : ℕ) (entry : Json) : Except SdkError (CacheKey × ListedKey) := do
  let value ← r.parseKey entry
  let key ← r.cacheKey position value.address
  pure (key, value)

/-- The entries of a body, all of them or none. -/
def KeyReader.readAll (data : Json) : Except SdkError (List (CacheKey × ListedKey)) := do
  let entries ← r.entries data
  Checks.mapEach r.readEntry 0 entries

/-- The loop of `list_keys`: it stores each entry as soon as it is read, and
what it has stored stays when a later entry raises. -/
def fill (position : ℕ) (d : List (CacheKey × ListedKey)) :
    List Json → List (CacheKey × ListedKey) × Except SdkError (List ListedKey)
  | [] => (d, .ok [])
  | entry :: rest => match r.readEntry position entry with
    | .error e => (d, .error e)
    | .ok (key, value) =>
      let (d', result) := fill (position + 1) (putKey key value d) rest
      (d', result.map (value :: ·))

def KeyReader.keysEndpoint : Endpoint where
  unreachable := connectError
  refused status _ text envelope :=
    if status = 401 then authenticationError
    else signerHttpError s!"Failed to list keys: HTTP {status}" text envelope
  undecodable _ := r.undecodable

def KeyReader.statusEndpoint : Endpoint where
  unreachable := connectError
  refused status _ text envelope :=
    if status = 401 then authenticationError
    else if status = 503 then
      { kind := .signerUnavailable, text := (errorParts "Signer unavailable" text envelope).2 }
    else signerHttpError s!"Failed to get signer status: HTTP {status}" text envelope
  undecodable _ := r.undecodable

def forbiddenLockedError (text : String) (envelope : Option ErrorResponse) : SdkError :=
  let parts := errorParts "Forbidden" text envelope
  if parts.1 = errCodeLocked then
    { kind := .signerUnavailable, text := "Signer is locked", code := parts.1 }
  else { text := parts.2, code := parts.1 }

def KeyReader.generateEndpoint : Endpoint where
  unreachable := connectError
  refused status _ text envelope :=
    if status = 401 then authenticationError
    else if status = 403 then forbiddenLockedError text envelope
    else if status = 400 then signerHttpError "Bad request" text envelope
    else signerHttpError s!"Key generation failed: HTTP {status}" text envelope
  undecodable _ := r.undecodable

variable {r} (s : KeyInventory r.Revision)

/-- The cache and its revision, filled from a body. -/
def refill (data : Json) : KeyInventory r.Revision × Except SdkError (List ListedKey) :=
  match r.entries data with
  | .error e => ({}, .error e)
  | .ok entries =>
    let (keys, result) := fill r 0 [] entries
    ({ keys := keys }, result)

/-- `list_keys` past the cache. -/
def fetchKeys (reply : Reply Json) : KeyInventory r.Revision × Except SdkError (List ListedKey) :=
  match decodeReply r.keysEndpoint reply with
  | .error e => (s, .error e)
  | .ok data => refill data

/-- `list_keys`. -/
def listKeys (refresh : Bool) (reply : Reply Json) :
    KeyInventory r.Revision × Except SdkError (List ListedKey) :=
  if refresh = false ∧ s.keys ≠ [] then (s, .ok (s.keys.map Prod.snd)) else fetchKeys s reply

/-- The cache answers for this revision. -/
def KeyInventory.current (revision : r.Revision) : Bool :=
  !s.keys.isEmpty && s.revision.any fun stored => r.sameRevision stored revision

/-- The revision is stored when the keys have come. -/
def withRevision (revision : r.Revision) :
    KeyInventory r.Revision × Except SdkError (List ListedKey) →
      KeyInventory r.Revision × Except SdkError (List ListedKey)
  | (s, .error e) => (s, .error e)
  | (s, .ok keys) => ({ s with revision := some revision }, .ok keys)

/-- `list_keys_if_keyset_changed`. -/
def listKeysIfKeysetChanged (status reply : Reply Json) :
    KeyInventory r.Revision × Except SdkError (List ListedKey) :=
  match decodeReply r.statusEndpoint status >>= r.readStatus with
  | .error e => (s, .error e)
  | .ok (locked, revision) =>
    if locked then (s, .error { kind := .signerUnavailable, text := "signer is locked" })
    else if s.current revision then (s, .ok (s.keys.map Prod.snd))
    else withRevision revision (fetchKeys s reply)

/-- The cache is asked when the keys have come. -/
def thenLookUp (address : String) :
    KeyInventory r.Revision × Except SdkError (List ListedKey) →
      KeyInventory r.Revision × Except SdkError (Option ListedKey)
  | (s, .error e) => (s, .error e)
  | (s, .ok _) => (s, .ok (s.keys.lookup (.text address)))

/-- `get_key_info`. -/
def getKeyInfo (address : String) (reply : Reply Json) :
    KeyInventory r.Revision × Except SdkError (Option ListedKey) :=
  if s.keys.any (·.1 == .text address) then (s, .ok (s.keys.lookup (.text address)))
  else thenLookUp address (fetchKeys s reply)

/-- `generate_key`, after its request. -/
def generateKey (reply : Reply Json) : KeyInventory r.Revision × Except SdkError GeneratedKey :=
  match (do
    let data ← decodeReply r.generateEndpoint reply
    r.checkGenerated data
    pure data) with
  | .error e => (s, .error e)
  | .ok data => ({}, r.readGenerated data)

/-- What `delete_key` makes of the reply; a body that is no JSON counts as
empty. -/
def checkDeleted (r : KeyReader) (address : String) : Reply Json → Except SdkError Unit
  | .unreachable why => .error (connectError why)
  | .http status _ text envelope body =>
    if status = 401 then .error authenticationError
    else if status = 403 then .error (forbiddenLockedError text envelope)
    else if status = 404 then
      .error { text := (errorParts s!"Key not found: {address}" text envelope).2 }
    else if status ≠ 200 then
      .error (signerHttpError s!"Key deletion failed: HTTP {status}" text envelope)
    else r.checkGenerated (body.getD (.obj []))

/-- `delete_key`, after its request. -/
def deleteKey (address : String) (reply : Reply Json) : KeyInventory r.Revision × Except SdkError Unit :=
  match checkDeleted r address reply with
  | .error e => (s, .error e)
  | .ok _ => ({}, .ok ())

end Client

/-! ### Histories of calls -/

/-- A call, with the replies it gets where it asks. -/
inductive InventoryCall
  | listKeys (refresh : Bool) (keys : Reply Json)
  | listKeysIfKeysetChanged (status keys : Reply Json)
  | getKeyInfo (address : String) (keys : Reply Json)
  | generateKey (reply : Reply Json)
  | deleteKey (address : String) (reply : Reply Json)

/-- The body of the `/keys` reply. -/
def InventoryCall.keysBody : InventoryCall → Option Json
  | listKeys _ keys => keys.okBody
  | listKeysIfKeysetChanged _ keys => keys.okBody
  | getKeyInfo _ keys => keys.okBody
  | generateKey _ => none
  | deleteKey _ _ => none

section History

variable {r : KeyReader}

/-- The cache after a call, whether it raised or not. -/
def afterCall (s : KeyInventory r.Revision) : InventoryCall → KeyInventory r.Revision
  | .listKeys refresh keys => (listKeys s refresh keys).1
  | .listKeysIfKeysetChanged status keys => (listKeysIfKeysetChanged s status keys).1
  | .getKeyInfo address keys => (getKeyInfo s address keys).1
  | .generateKey reply => (generateKey s reply).1
  | .deleteKey address reply => (deleteKey s address reply).1

variable (r) in
/-- The cache of a new client after some calls. -/
def afterCalls (calls : List InventoryCall) : KeyInventory r.Revision := calls.foldl afterCall {}

/-- The body a call reads, where it comes to that. -/
def bodyRead (s : KeyInventory r.Revision) : InventoryCall → Option Json
  | .listKeys refresh keys => if refresh = false ∧ s.keys ≠ [] then none else keys.okBody
  | .listKeysIfKeysetChanged status keys =>
    match decodeReply r.statusEndpoint status >>= r.readStatus with
    | .error _ => none
    | .ok (locked, revision) => if locked || s.current revision then none else keys.okBody
  | .getKeyInfo address keys => if s.keys.any (·.1 == .text address) then none else keys.okBody
  | .generateKey _ => none
  | .deleteKey _ _ => none

variable (r) in
/-- A body that can be read to its end, or of which no entry can be stored. -/
def clean (body : Json) : Bool :=
  match r.entries body with
  | .error _ => true
  | .ok [] => true
  | .ok (entry :: _) => !(r.readEntry 0 entry).isOk || (r.readAll body).isOk

/-- The keys are those of one complete response of these calls. -/
def AllOrNothing (r : KeyReader) (calls : List InventoryCall) (keys : List (CacheKey × ListedKey)) : Prop :=
  keys ≠ [] → ∃ call ∈ calls, ∃ body listed, call.keysBody = some body ∧ r.readAll body = .ok listed ∧
    keys = ofListed listed

theorem fill_ok : ∀ {entries : List Json} {position : ℕ} {d listed : List (CacheKey × ListedKey)},
    Checks.mapEach r.readEntry position entries = .ok listed →
      fill r position d entries = (listed.foldl (fun d e => putKey e.1 e.2 d) d, .ok (listed.map Prod.snd))
  | [], position, d, listed, h => by
    cases h
    rfl
  | entry :: rest, position, d, listed, h => by
    obtain ⟨e, es, he, hes, rfl⟩ := Checks.mapEach_cons.mp h
    rw [fill, he]
    simp only [fill_ok hes]
    rfl

theorem refill_ok {body : Json} {listed : List (CacheKey × ListedKey)} (h : r.readAll body = .ok listed) :
    (refill (r := r) body).1.keys = ofListed listed := by
  obtain ⟨entries, hentries, hlisted⟩ := bind_eq_ok.mp h
  rw [refill, hentries]
  simp only [fill_ok hlisted]
  rfl

/-- A clean body leaves the cache empty or with all of its keys. -/
theorem refill_clean {body : Json} (h : clean r body = true) : (refill (r := r) body).1.keys = [] ∨
    ∃ listed, r.readAll body = .ok listed ∧ (refill (r := r) body).1.keys = ofListed listed := by
  cases hread : r.readAll body with
  | ok listed => exact Or.inr ⟨listed, rfl, refill_ok hread⟩
  | error e =>
    refine Or.inl ?_
    rw [clean, hread] at h
    rw [refill]
    cases hentries : r.entries body with
    | error e => rfl
    | ok entries =>
      rw [hentries] at h
      cases entries with
      | nil => rfl
      | cons entry rest =>
        cases hentry : r.readEntry 0 entry with
        | error e => simp [fill, hentry]
        | ok value => simp [hentry, Except.isOk, Except.toBool] at h

theorem fetchKeys_read {s : KeyInventory r.Revision} {reply : Reply Json} {body : Json}
    (h : reply.okBody = some body) : (fetchKeys s reply).1 = (refill body).1 := by
  rw [fetchKeys, decodeReply_ok.mpr h]

theorem fetchKeys_unread {s : KeyInventory r.Revision} {reply : Reply Json} (h : reply.okBody = none) :
    (fetchKeys s reply).1 = s := by
  rw [fetchKeys]
  cases hdecode : decodeReply r.keysEndpoint reply with
  | error e => rfl
  | ok data =>
    rw [decodeReply_ok, h] at hdecode
    cases hdecode

theorem withRevision_keys (revision : r.Revision)
    (x : KeyInventory r.Revision × Except SdkError (List ListedKey)) :
    (withRevision revision x).1.keys = x.1.keys := by
  obtain ⟨s, e | keys⟩ := x <;> rfl

theorem thenLookUp_fst (address : String) (x : KeyInventory r.Revision × Except SdkError (List ListedKey)) :
    (thenLookUp address x).1 = x.1 := by
  obtain ⟨s, e | keys⟩ := x <;> rfl

/-- A call that reads a body has it in the cache, as far as it came. -/
theorem afterCall_read {s : KeyInventory r.Revision} {call : InventoryCall} {body : Json}
    (h : bodyRead s call = some body) :
    call.keysBody = some body ∧ (afterCall s call).keys = (refill (r := r) body).1.keys := by
  cases call with
  | listKeys refresh keys =>
    rw [bodyRead] at h
    rw [afterCall, listKeys]
    split at h
    · cases h
    · rw [if_neg (by assumption), fetchKeys_read h]
      exact ⟨h, rfl⟩
  | listKeysIfKeysetChanged status keys =>
    rw [bodyRead] at h
    rw [afterCall, listKeysIfKeysetChanged]
    cases hst : decodeReply r.statusEndpoint status >>= r.readStatus with
    | error e =>
      rw [hst] at h
      cases h
    | ok st =>
      obtain ⟨locked, revision⟩ := st
      simp only [hst, Option.ite_none_left_eq_some, Bool.or_eq_true, not_or, Bool.not_eq_true] at h
      obtain ⟨⟨rfl, hcurrent⟩, hbody⟩ := h
      simp only [hcurrent, Bool.false_eq_true, if_false, withRevision_keys, fetchKeys_read hbody]
      exact ⟨hbody, trivial⟩
  | getKeyInfo address keys =>
    rw [bodyRead] at h
    rw [afterCall, getKeyInfo]
    split at h
    · cases h
    · rw [if_neg (by assumption), thenLookUp_fst, fetchKeys_read h]
      exact ⟨h, rfl⟩
  | generateKey reply => cases h
  | deleteKey address reply => cases h

/-- Any other call leaves the keys or empties the cache. -/
theorem afterCall_unread {s : KeyInventory r.Revision} {call : InventoryCall} (h : bodyRead s call = none) :
    (afterCall s call).keys = s.keys ∨ (afterCall s call).keys = [] := by
  cases call with
  | listKeys refresh keys =>
    rw [bodyRead] at h
    rw [afterCall, listKeys]
    split at h
    · rw [if_pos (by assumption)]
      exact Or.inl rfl
    · rw [if_neg (by assumption), fetchKeys_unread h]
      exact Or.inl rfl
  | listKeysIfKeysetChanged status keys =>
    rw [bodyRead] at h
    rw [afterCall, listKeysIfKeysetChanged]
    cases hst : decodeReply r.statusEndpoint status >>= r.readStatus with
    | error e => exact Or.inl rfl
    | ok st =>
      obtain ⟨locked, revision⟩ := st
      rw [hst] at h
      refine Or.inl ?_
      cases locked with
      | true => rfl
      | false =>
        cases hcurrent : s.current revision with
        | true => simp [hcurrent]
        | false =>
          simp only [hcurrent, Bool.or_self, Bool.false_eq_true, if_false] at h
          simp [hcurrent, withRevision_keys, fetchKeys_unread h]
  | getKeyInfo address keys =>
    rw [bodyRead] at h
    rw [afterCall, getKeyInfo]
    split at h
    · rw [if_pos (by assumption)]
      exact Or.inl rfl
    · rw [if_neg (by assumption), thenLookUp_fst, fetchKeys_unread h]
      exact Or.inl rfl
  | generateKey reply =>
    rw [afterCall, generateKey]
    split
    · exact Or.inl rfl
    · exact Or.inr rfl
  | deleteKey address reply =>
    rw [afterCall, deleteKey]
    split
    · exact Or.inl rfl
    · exact Or.inr rfl

/-- One call keeps the invariant where the body it reads is clean. -/
theorem AllOrNothing.call {calls : List InventoryCall} {s : KeyInventory r.Revision}
    (h : AllOrNothing r calls s.keys) (call : InventoryCall)
    (hclean : ∀ body, bodyRead s call = some body → clean r body = true) :
    AllOrNothing r (calls ++ [call]) (afterCall s call).keys := by
  intro hne
  cases hread : bodyRead s call with
  | none =>
    rcases afterCall_unread hread with hkeys | hkeys
    · rw [hkeys] at hne ⊢
      obtain ⟨earlier, hmem, hrest⟩ := h hne
      exact ⟨earlier, List.mem_append_left _ hmem, hrest⟩
    · exact absurd hkeys hne
  | some body =>
    obtain ⟨hbody, hkeys⟩ := afterCall_read hread
    rcases refill_clean (hclean body hread) with hnil | ⟨listed, hlisted, hall⟩
    · exact absurd (hkeys.trans hnil) hne
    · exact ⟨call, List.mem_append_right _ (List.mem_singleton_self call), body, listed, hbody, hlisted,
        hkeys.trans hall⟩

theorem putKey_ne_nil (key : CacheKey) (value : ListedKey) (d : List (CacheKey × ListedKey)) :
    putKey key value d ≠ [] := by
  cases d with
  | nil => simp [putKey]
  | cons e d =>
    rw [putKey]
    split <;> simp

/-- What was stored stays. -/
theorem fill_ne_nil : ∀ {entries : List Json} {position : ℕ} {d : List (CacheKey × ListedKey)}, d ≠ [] →
    (fill r position d entries).1 ≠ []
  | [], _, _, h => h
  | entry :: rest, position, d, h => by
    rw [fill]
    cases r.readEntry position entry with
    | error e => exact h
    | ok e => exact fill_ne_nil (putKey_ne_nil e.1 e.2 d)

/-- A body that is not clean is not readable to its end, and leaves keys behind. -/
theorem refill_unclean {body : Json} (h : clean r body = false) :
    (refill (r := r) body).1.keys ≠ [] ∧ ∀ listed, r.readAll body ≠ .ok listed := by
  rw [clean] at h
  cases hentries : r.entries body with
  | error e => simp [hentries] at h
  | ok entries =>
    cases entries with
    | nil => simp [hentries] at h
    | cons entry rest =>
      simp only [hentries, Bool.or_eq_false_iff] at h
      obtain ⟨hentry, hall⟩ := h
      constructor
      · rw [refill, hentries]
        cases hfirst : r.readEntry 0 entry with
        | error e => simp [hfirst, Except.isOk, Except.toBool] at hentry
        | ok e =>
          simp only [fill, hfirst]
          exact fill_ne_nil (putKey_ne_nil e.1 e.2 [])
      · intro listed hlisted
        rw [hlisted] at hall
        cases hall

end History

/-- The SDKs of the scripting languages. -/
inductive ScriptSdk
  | python
  | typescript

def ScriptSdk.keyReader (env : Env) (conv : Conversions) : ScriptSdk → KeyReader
  | python => Python.keyReader env conv
  | typescript => TypeScript.keyReader env conv

/-- **The cache is one complete response or empty.** Over every history of calls
in which every body that is read is clean, after every call; and a call that
reads a body that is not clean leaves keys of a response that was not read to
its end. -/
theorem inventory_allOrNothing (env : Env) (conv : Conversions) (sdk : ScriptSdk) (calls : List InventoryCall) :
    ((∀ pre call, pre ++ [call] <+: calls → ∀ body,
        bodyRead (afterCalls (sdk.keyReader env conv) pre) call = some body →
          clean (sdk.keyReader env conv) body = true) →
      ∀ pre, pre <+: calls →
        AllOrNothing (sdk.keyReader env conv) pre (afterCalls (sdk.keyReader env conv) pre).keys) ∧
    ∀ pre call, pre ++ [call] <+: calls → ∀ body,
      bodyRead (afterCalls (sdk.keyReader env conv) pre) call = some body →
        clean (sdk.keyReader env conv) body = false →
          (afterCalls (sdk.keyReader env conv) (pre ++ [call])).keys ≠ [] ∧
            ∀ listed, (sdk.keyReader env conv).readAll body ≠ .ok listed := by
  refine ⟨fun h pre => ?_, fun pre call _ body hread hunclean => ?_⟩
  · induction pre using List.reverseRecOn with
    | nil =>
      intro _ hne
      exact absurd rfl hne
    | append_singleton pre call ih =>
      intro hpre
      have hkeep := (ih ((List.prefix_append pre [call]).trans hpre)).call call (h pre call hpre)
      rw [afterCalls, List.foldl_append]
      exact hkeep
  · obtain ⟨hleft, hpartial⟩ := refill_unclean hunclean
    refine ⟨?_, hpartial⟩
    rw [afterCalls, List.foldl_append]
    have hkeys := (afterCall_read hread).2
    exact hkeys ▸ hleft

namespace Demo

def noConversions : Conversions where
  intText _ := none
  number _ := none
  text _ := none

def entryA : Json := .obj [("address", .str "A"), ("key_type", .str "ed25519")]

def entryB : Json := .obj [("address", .str "B"), ("key_type", .str "ed25519")]

/-- An entry whose argument list holds no arguments. -/
def brokenEntry : Json := .obj [("address", .str "B"), ("key_type", .str "generic"), ("signing_args", .arr [.null])]

def keysReply (entries : List Json) : Reply Json := .http 200 "OK" "" none (some (.obj [("keys", .arr entries)]))

def wholeCall : InventoryCall := .listKeys true (keysReply [entryA, entryB])

theorem inventory_allOrNothing_whole : ∀ sdk : ScriptSdk,
    AllOrNothing (sdk.keyReader env noConversions) [wholeCall]
      (afterCalls (sdk.keyReader env noConversions) [wholeCall]).keys := by
  intro sdk
  refine (inventory_allOrNothing env noConversions sdk [wholeCall]).1 (fun pre call hpre body hread => ?_) _
    (List.prefix_refl _)
  obtain ⟨rfl, rfl⟩ : pre = [] ∧ call = wholeCall := by
    cases pre with
    | nil => exact ⟨rfl, (List.cons_prefix_cons.mp hpre).1⟩
    | cons c pre => simpa using hpre.length_le
  cases Option.some.inj hread
  cases sdk with
  | python => decide +kernel
  | typescript => decide +kernel

/-- A refresh that raises at the second entry, then a read of the cache. -/
def brokenCalls : List InventoryCall :=
  [.listKeys true (keysReply [entryA, brokenEntry]), .listKeys false (.unreachable "")]

/-- The cache is left with the first entry of two. -/
theorem not_allOrNothing_broken (sdk : ScriptSdk) : ¬ AllOrNothing (sdk.keyReader env noConversions) brokenCalls
    (afterCalls (sdk.keyReader env noConversions) brokenCalls).keys := by
  intro hall
  have hkeys : (afterCalls (sdk.keyReader env noConversions) brokenCalls).keys.map Prod.fst = [.text "A"] := by
    cases sdk with
    | python => decide +kernel
    | typescript => decide +kernel
  have hunread : ((sdk.keyReader env noConversions).readAll (.obj [("keys", .arr [entryA, brokenEntry])])).isOk =
      false := by
    cases sdk with
    | python => decide +kernel
    | typescript => decide +kernel
  have hne : (afterCalls (sdk.keyReader env noConversions) brokenCalls).keys ≠ [] := by
    intro hnil
    rw [hnil] at hkeys
    cases hkeys
  obtain ⟨call, hmem, body, listed, hbody, hlisted, -⟩ := hall hne
  rcases List.mem_cons.mp hmem with rfl | hmem
  · cases Option.some.inj hbody
    rw [hlisted] at hunread
    cases hunread
  · rw [List.mem_singleton.mp hmem] at hbody
    cases hbody

/-- The cache of either SDK ends up partly filled. -/
theorem inventory_partial :
    (¬ ∀ calls : List InventoryCall, AllOrNothing (ScriptSdk.python.keyReader env noConversions) calls
      (afterCalls (ScriptSdk.python.keyReader env noConversions) calls).keys) ∧
    ¬ ∀ calls : List InventoryCall, AllOrNothing (ScriptSdk.typescript.keyReader env noConversions) calls
      (afterCalls (ScriptSdk.typescript.keyReader env noConversions) calls).keys :=
  ⟨fun h => not_allOrNothing_broken .python (h brokenCalls),
    fun h => not_allOrNothing_broken .typescript (h brokenCalls)⟩

end Demo

end AplaneSdk
