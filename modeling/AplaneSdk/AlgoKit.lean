/-
# The AlgoKit adapters

`ApsignerAccount` of Python and `ApsignerAlgoKitAccount` of TypeScript hand
AlgoKit the signatures of `/sign`. AlgoKit has grouped the transactions
already, so a report that the signer re-grouped them makes the signatures
useless, and the adapters mean to refuse it. The body of the answer is JSON
here, since the client passes the report on as it came: Python asks the report
for the names of the wire, TypeScript for camelCase names the wire does not
have.

Key definitions: `Adapter`, `signRequests`, `Adapter.sign`, `keepsGroup`,
`Overlooked`, `Signable`.
Key theorems: `Adapter.sign_ok`, `regrouped_ok`, `algokit_regrouping`.
-/
import Mathlib.Algebra.Order.Ring.Unbundled.Rat
import AplaneSdk.Calls

namespace AplaneSdk

open Checks

/-- An exception of the language itself, whose text is not modelled. -/
def languageError : SdkError := { kind := .type, text := "" }

/-- An account as AlgoKit sees it, for transactions of type `τ`. The encoder
and the sender are AlgoKit's. -/
structure ApsignerAccount (τ : Type) where
  authAddress : String
  lsigArgs : Option (List (String × Bytes)) := none
  encodeTransaction : τ → Except SdkError Bytes
  txnSender : τ → Except SdkError String

/-- What the two adapters and their clients do differently. -/
structure Adapter where
  endpoint : Endpoint
  validate : GroupSignRequest → Except SdkError Unit
  /-- Whether an empty list or mapping counts as true. -/
  emptyIsTrue : Bool
  /-- Whether members of the body can be asked for at all. -/
  hasMembers : Json → Bool
  /-- The entries of `signed`. Whatever else it is, some exception follows. -/
  signedItems : Option Json → Except SdkError (List Json)
  unhexItem : Json → Except SdkError Bytes
  /-- The test of the mutation report. -/
  regrouped : Option Json → Except SdkError Bool
  lsigArgs : Option (List (String × Bytes)) → Option (List (String × String))
  /-- Whether a second call is refused while one is in flight. -/
  oneAtATime : Bool

/-! ### The client -/

/-- A non-empty `error` member, as the text of an exception. -/
def bodyError (env : Env) (emptyIsTrue : Bool) (data : Json) : Option String :=
  match data.get? "error" with
  | none => none
  | some v =>
    if v.truthy emptyIsTrue then some (match v with
      | .str s => s
      | v => env.showJson v)
    else none

/-- What `sign_requests` and `signRequests` return. -/
structure SignResult where
  signed : List Json
  mutations : Option Json

/-- `sign_requests` and `signRequests` on the JSON of the answer. -/
def signRequests (env : Env) (a : Adapter) (req : GroupSignRequest) (reply : Reply Json) :
    Except SdkError SignResult := do
  a.validate req
  let data ← decodeReply a.endpoint reply
  failIf (a.hasMembers data = false) languageError
  checkSome (fun text => signerError text) (bodyError env a.emptyIsTrue data)
  let signed ← a.signedItems (data.get? "signed")
  validateGroupSignResponse "Server" (fun v => !v.truthy a.emptyIsTrue) SignRequest.isForeign req.requests
    signed
  pure { signed := signed, mutations := data.get? "mutations" }

/-! ### The adapter -/

/-- The entry of one index at `/sign`. -/
def signEntryAt {τ : Type} (a : Adapter) (account : ApsignerAccount τ) (group : List (Option τ)) (index : ℤ) :
    Except SdkError SignRequest := do
  failIf (index < 0 ∨ group.length ≤ index)
    { text := s!"index {index} out of range for {group.length} transactions" }
  match group[index.toNat]?.join with
  | none => signerError s!"transaction is required at index {index}"
  | some txn => do
    let bytes ← account.encodeTransaction txn
    let sender ← account.txnSender txn
    pure
      { authAddress := account.authAddress
        txnSender := sender
        txnBytesHex := hexEncode bytes
        lsigArgs := a.lsigArgs account.lsigArgs }

def regroupedText : String :=
  "apsigner re-grouped these transactions (added LogicSig-budget dummy transactions or recomputed the " ++
    "group ID); AlgoKit assigns its own group ID and cannot use a re-grouped result. Sign large-LogicSig " ++
    "groups through the aplane SDK's group/guarded flow instead."

/-- `ApsignerAccount._sign` and `ApsignerAlgoKitAccount.sign`, with the request
id already chosen. -/
def Adapter.sign {τ : Type} (env : Env) (a : Adapter) (account : ApsignerAccount τ) (inFlight : Bool)
    (requestId : String) (group : List (Option τ)) (indexes : List ℤ) (reply : Reply Json) :
    Except SdkError (List Bytes) :=
  if indexes = [] then .ok []
  else do
    failIf (a.oneAtATime = true ∧ inFlight = true)
      { kind := .type, text := "ApsignerAccount already has an in-flight signing request" }
    let requests ← mapEach (fun _ => signEntryAt a account group) 0 indexes
    let result ← signRequests env a { requestId := requestId, requests := requests } reply
    let regrouped ← a.regrouped result.mutations
    failIf (regrouped = true) { text := regroupedText }
    failIf (result.signed.length ≠ indexes.length)
      { text := s!"apsigner returned {result.signed.length} signed transaction(s), " ++
          s!"but AlgoKit requested {indexes.length}" }
    mapEach (fun _ => a.unhexItem) 0 result.signed

namespace Python

/-- A list, or a text by its characters; a missing member is an empty list. -/
def signedItems : Option Json → Except SdkError (List Json)
  | none => .ok []
  | some (.arr xs) => .ok xs
  | some (.str s) => .ok (s.toList.map fun c => .str c.toString)
  | some _ => .error languageError

def unhexItem : Json → Except SdkError Bytes
  | .str s => match fromHex s with
    | some bytes => .ok bytes
    | none => .error { kind := .value, text := "" }
  | _ => .error languageError

/-- `(v or 0) > 0`. -/
def positive (v : Option Json) : Except SdkError Bool :=
  match v with
  | none => .ok false
  | some v =>
    if v.truthy false = false then .ok false
    else match v with
      | .bool b => .ok b
      | .int n => .ok (0 < n)
      | .float q => .ok (0 < q)
      | _ => .error languageError

/-- `mutations.get("group_id_changed") or (mutations.get("dummies_added") or 0) > 0`. -/
def regrouped (mutations : Option Json) : Except SdkError Bool :=
  match mutations with
  | none => .ok false
  | some m =>
    if m.truthy false = false then .ok false
    else match m with
      | .obj _ =>
        if (m.get? "group_id_changed").any (·.truthy false) = true then .ok true
        else positive (m.get? "dummies_added")
      | _ => .error languageError

def adapter (env : Env) : Adapter where
  endpoint := signEndpoint
  validate := validateGroupSignRequest env
  emptyIsTrue := false
  hasMembers
    | .obj _ => true
    | _ => false
  signedItems := signedItems
  unhexItem := unhexItem
  regrouped := regrouped
  lsigArgs
    | some (arg :: args) => some ((arg :: args).map fun p => (p.1, hexEncode p.2))
    | _ => none
  oneAtATime := true

end Python

namespace TypeScript

/-- `data.signed ?? []`; only an array has the `map` of the adapter. -/
def signedItems (signed : Option Json) : Except SdkError (List Json) :=
  match coalesce signed none with
  | none => .ok []
  | some (.arr xs) => .ok xs
  | some _ => .error languageError

/-- `hexToBytes`; an empty array passes its tests. -/
def unhexItem : Json → Except SdkError Bytes
  | .str s => match hexDecode s with
    | some bytes => .ok bytes
    | none =>
      if utf16Length s % 2 ≠ 0 then signerError "hex string must have even length"
      else signerError "invalid hex string"
  | .arr [] => .ok []
  | _ => .error languageError

/-- `(v ?? 0) > 0`. -/
def positive (env : Env) (v : Option Json) : Except SdkError Bool :=
  match v with
  | none => .ok false
  | some .null => .ok false
  | some (.bool b) => .ok b
  | some (.int n) => .ok (0 < n)
  | some (.float q) => .ok (0 < q)
  | some v => match env.coercedPositive v with
    | some b => .ok b
    | none => .error languageError

/-- `mutations && (mutations.groupIdChanged || (mutations.dummiesAdded ?? 0) > 0)`. -/
def regrouped (env : Env) (mutations : Option Json) : Except SdkError Bool :=
  match mutations with
  | none => .ok false
  | some m =>
    if m.truthy true = false then .ok false
    else if (m.get? "groupIdChanged").any (·.truthy true) = true then .ok true
    else positive env (m.get? "dummiesAdded")

def adapter (env : Env) : Adapter where
  endpoint := signEndpoint
  validate := validateGroupSignRequest env
  emptyIsTrue := true
  hasMembers
    | .null => false
    | _ => true
  signedItems := signedItems
  unhexItem := unhexItem
  regrouped := regrouped env
  lsigArgs args := args.map (·.map fun p => (p.1, hexEncode p.2))
  oneAtATime := false

end TypeScript

/-- The SDKs that have an AlgoKit adapter. -/
inductive AlgoKitSdk
  | python
  | typescript
  deriving DecidableEq

def AlgoKitSdk.adapter (env : Env) : AlgoKitSdk → Adapter
  | python => Python.adapter env
  | typescript => TypeScript.adapter env

def AlgoKitSdk.language : AlgoKitSdk → Language
  | python => .python
  | typescript => .typescript

/-! ### Well-typed bodies -/

/-- A text, empty where it is missing. -/
def textOf : Option Json → Option String
  | none => some ""
  | some (.str s) => some s
  | some _ => none

def texts : List Json → Option (List String)
  | [] => some []
  | .str s :: xs => (texts xs).map (s :: ·)
  | _ :: _ => none

/-- A list of texts, empty where it is missing. -/
def textsOf : Option Json → Option (List String)
  | none => some []
  | some (.arr xs) => texts xs
  | some _ => none

/-- A body with the types the wire promises. -/
def GroupSignResponse.ofJson? : Json → Option GroupSignResponse
  | .obj members =>
    (textsOf ((Json.obj members).get? "signed")).bind fun signed =>
      (textOf ((Json.obj members).get? "error")).map fun error =>
        { signed := signed, error := error, mutations := (Json.obj members).get? "mutations" }
  | _ => none

theorem texts_some : ∀ {xs : List Json} {ss : List String}, texts xs = some ss → xs = ss.map .str
  | [], ss, h => by
    cases h
    rfl
  | x :: xs, ss, h => by
    cases x with
    | str s =>
      obtain ⟨ss', hss, rfl⟩ := Option.map_eq_some_iff.mp h
      rw [texts_some hss, List.map_cons]
    | _ => cases h

section Client

variable {env : Env} {a : Adapter} {req : GroupSignRequest} {reply : Reply Json} {data : Json} {r : SignResult}

/-- A body whose signatures the client passes on. -/
structure SignedBody (env : Env) (a : Adapter) (req : GroupSignRequest) (data : Json) (signed : List Json) :
    Prop where
  hasMembers : a.hasMembers data = true
  error : bodyError env a.emptyIsTrue data = none
  items : a.signedItems (data.get? "signed") = .ok signed
  slots : SignedOk (fun v => !v.truthy a.emptyIsTrue) req.requests signed

theorem signRequests_ok : signRequests env a req reply = .ok r ↔ a.validate req = .ok () ∧ ∃ data,
    reply.okBody = some data ∧ SignedBody env a req data r.signed ∧ r.mutations = data.get? "mutations" := by
  have herror : ∀ e : Option String, (∀ text, e = some text → False) ↔ e = none := by
    intro e
    cases e <;> simp
  simp only [signRequests, seq_eq_ok, bind_eq_ok (α := Json), bind_eq_ok (α := List Json), decodeReply_ok,
    failIf_ok, Bool.not_eq_false, checkSome_ok, signerError, reduceCtorEq, herror,
    validateGroupSignResponse_ok fun _ _ => rfl, pure_eq_ok]
  refine and_congr_right fun _ => exists_congr fun data => and_congr_right fun _ => ?_
  constructor
  · rintro ⟨hmem, herr, signed, hitems, hslots, rfl⟩
    exact ⟨⟨hmem, herr, hitems, hslots⟩, rfl⟩
  · rintro ⟨⟨hmem, herr, hitems, hslots⟩, hm⟩
    exact ⟨hmem, herr, r.signed, hitems, hslots, by rw [← hm]⟩

theorem signedOk_str {requests : List SignRequest} {signed : List String} {emptyIsTrue : Bool} :
    SignedOk (fun v => !Json.truthy emptyIsTrue v) requests (signed.map .str) ↔
      SignedOk noText requests signed := by
  have hempty : (fun s : String => !Json.truthy emptyIsTrue (.str s)) = noText := by
    funext s
    simp [Json.truthy, noText, bne]
  simp only [SignedOk, List.length_map, List.getElem?_map, Option.all_map, ← List.map_drop,
    List.forall_mem_map, ← hempty]

theorem ofJson?_some {resp : GroupSignResponse} (h : GroupSignResponse.ofJson? data = some resp) :
    (∃ members, data = .obj members) ∧
      (data.get? "error" = none ∧ resp.error = "" ∨ data.get? "error" = some (.str resp.error)) ∧
      (data.get? "signed" = none ∧ resp.signed = [] ∨
        data.get? "signed" = some (.arr (resp.signed.map .str))) := by
  cases data with
  | obj members =>
    obtain ⟨signed, hsigned, h⟩ := Option.bind_eq_some_iff.mp h
    obtain ⟨error, herror, rfl⟩ := Option.map_eq_some_iff.mp h
    refine ⟨⟨members, rfl⟩, ?_, ?_⟩
    · unfold textOf at herror
      split at herror <;> cases herror
      · exact Or.inl ⟨‹_›, rfl⟩
      · exact Or.inr ‹_›
    · unfold textsOf at hsigned
      split at hsigned
      · cases hsigned
        exact Or.inl ⟨‹_›, rfl⟩
      · rw [← texts_some hsigned]
        exact Or.inr ‹_›
      · cases hsigned
  | _ => cases h

theorem bodyError_typed {emptyIsTrue : Bool} {error : String}
    (h : data.get? "error" = none ∧ error = "" ∨ data.get? "error" = some (.str error)) :
    bodyError env emptyIsTrue data = none ↔ error = "" := by
  unfold bodyError
  rcases h with ⟨h, rfl⟩ | h <;> simp [h, Json.truthy]

theorem signedItems_typed {sdk : AlgoKitSdk} {signed : List String}
    (h : data.get? "signed" = none ∧ signed = [] ∨ data.get? "signed" = some (.arr (signed.map .str))) :
    (sdk.adapter env).signedItems (data.get? "signed") = .ok (signed.map .str) := by
  rcases h with ⟨h, rfl⟩ | h <;> rw [h] <;> cases sdk <;> rfl

/-- On a body of the promised types the clients do as in the choreographies. -/
theorem signRequests_typed {sdk : AlgoKitSdk} {resp : GroupSignResponse} {reply' : Reply GroupSignResponse}
    (hdata : GroupSignResponse.ofJson? data = some resp) (hreply : reply.okBody = some data)
    (hreply' : reply'.okBody = some resp) :
    (∃ r, signRequests env (sdk.adapter env) req reply = .ok r) ↔
      (sdk.language.calls env).validateGroupSignRequest req = .ok () ∧
        (sdk.language.calls env).acceptSign req reply' = .ok resp := by
  obtain ⟨⟨members, hmembers⟩, herror, hsigned⟩ := ofJson?_some hdata
  have hmem : (sdk.adapter env).hasMembers data = true := by
    rw [hmembers]
    cases sdk <;> rfl
  have hitems : (sdk.adapter env).signedItems (data.get? "signed") = .ok (resp.signed.map .str) :=
    signedItems_typed hsigned
  have hvalid : (sdk.language.calls env).validateGroupSignRequest req = .ok () ↔
      (sdk.adapter env).validate req = .ok () := by cases sdk <;> rfl
  have hacc : (sdk.language.calls env).acceptSign req reply' = .ok resp ↔
      resp.error = "" ∧ SignedOk noText req.requests resp.signed := by
    cases sdk with
    | python => exact Python.acceptSign_ok.trans (by rw [hreply']; simp)
    | typescript => exact TypeScript.acceptSign_ok.trans (by rw [hreply']; simp)
  rw [hvalid, hacc]
  constructor
  · rintro ⟨r, hr⟩
    obtain ⟨hreq, data', hdata', hbody, -⟩ := signRequests_ok.mp hr
    obtain rfl := Option.some.inj (hdata'.symm.trans hreply)
    have hr := Except.ok.inj (hbody.items.symm.trans hitems)
    exact ⟨hreq, (bodyError_typed herror).mp hbody.error, signedOk_str.mp (hr ▸ hbody.slots)⟩
  · rintro ⟨hreq, herr, hslots⟩
    exact ⟨⟨resp.signed.map .str, data.get? "mutations"⟩, signRequests_ok.mpr ⟨hreq, data, hreply,
      ⟨hmem, (bodyError_typed herror).mpr herr, hitems, signedOk_str.mpr hslots⟩, rfl⟩⟩

end Client

/-! ### What the adapters return -/

section Sign

variable {τ : Type} {env : Env} {a : Adapter} {account : ApsignerAccount τ} {inFlight : Bool}
  {requestId : String} {group : List (Option τ)} {indexes : List ℤ} {reply : Reply Json} {data : Json}
  {sigs : List Bytes}

/-- All but the mutation report is in order, and the signatures are `sigs`. -/
structure Signable (env : Env) (a : Adapter) (account : ApsignerAccount τ) (inFlight : Bool)
    (requestId : String) (group : List (Option τ)) (indexes : List ℤ) (data : Json) (sigs : List Bytes) :
    Prop where
  asked : indexes ≠ []
  free : ¬ (a.oneAtATime = true ∧ inFlight = true)
  answered : ∃ requests items, mapEach (fun _ => signEntryAt a account group) 0 indexes = .ok requests ∧
    a.validate { requestId := requestId, requests := requests } = .ok () ∧
    SignedBody env a { requestId := requestId, requests := requests } data items ∧
    items.length = indexes.length ∧ mapEach (fun _ => a.unhexItem) 0 items = .ok sigs

theorem Adapter.sign_ok : a.sign env account inFlight requestId group indexes reply = .ok sigs ↔
    indexes = [] ∧ sigs = [] ∨ ∃ data, reply.okBody = some data ∧
      Signable env a account inFlight requestId group indexes data sigs ∧
        a.regrouped (data.get? "mutations") = .ok false := by
  unfold Adapter.sign
  split
  · rename_i hnil
    subst hnil
    constructor
    · intro h
      cases h
      exact Or.inl ⟨rfl, rfl⟩
    · rintro (⟨-, rfl⟩ | ⟨_, -, h, -⟩)
      · rfl
      · exact absurd rfl h.asked
  · rename_i hne
    simp only [seq_eq_ok, bind_eq_ok (α := List SignRequest), bind_eq_ok (α := SignResult),
      bind_eq_ok (α := Bool), failIf_ok, signRequests_ok, not_not, Bool.not_eq_true]
    constructor
    · rintro ⟨hfree, requests, hrequests, r, ⟨hvalid, data, hdata, hbody, hm⟩, _, hre, rfl, hlen, hsigs⟩
      rw [hm] at hre
      exact Or.inr ⟨data, hdata, ⟨hne, hfree, requests, r.signed, hrequests, hvalid, hbody, hlen, hsigs⟩, hre⟩
    · rintro (⟨h, -⟩ | ⟨data, hdata, ⟨-, hfree, requests, items, hrequests, hvalid, hbody, hlen, hsigs⟩, hre⟩)
      · exact absurd h hne
      · exact ⟨hfree, requests, hrequests, ⟨items, data.get? "mutations"⟩, ⟨hvalid, data, hdata, hbody, rfl⟩,
          false, hre, rfl, hlen, hsigs⟩

/-- One signature for each index, in order: the bytes of the answer's entry. -/
def OnePerIndex (a : Adapter) (indexes : List ℤ) (reply : Reply Json) (sigs : List Bytes) : Prop :=
  sigs.length = indexes.length ∧ ∀ (k : ℕ) sig, sigs[k]? = some sig → ∃ data items item,
    reply.okBody = some data ∧ a.signedItems (data.get? "signed") = .ok items ∧
      items[k]? = some item ∧ a.unhexItem item = .ok sig

theorem Signable.onePerIndex (hdata : reply.okBody = some data)
    (h : Signable env a account inFlight requestId group indexes data sigs) :
    OnePerIndex a indexes reply sigs := by
  obtain ⟨requests, items, -, -, hbody, hlen, hsigs⟩ := h.answered
  obtain ⟨hsame, hall⟩ := mapEach_ok.mp hsigs
  refine ⟨hsame.symm.trans hlen, fun k sig hk => ?_⟩
  obtain ⟨hk', -⟩ := List.getElem?_eq_some_iff.mp hk
  have hitem := List.getElem?_eq_getElem (hsame ▸ hk')
  exact ⟨data, items, _, hdata, hbody.items, hitem, hall k _ _ hitem hk⟩

end Sign

/-! ### Re-grouping -/

/-- `false`, or not there. -/
def saysFalse : Option Json → Bool
  | none => true
  | some .null => true
  | some (.bool b) => !b
  | some _ => false

/-- Zero, or not there. -/
def saysZero : Option Json → Bool
  | none => true
  | some .null => true
  | some (.int n) => n == 0
  | some (.float q) => q == 0
  | some _ => false

/-- The wire report is absent, or says that the group is the one that was sent. -/
def keepsGroup (report : Option Json) : Bool :=
  saysFalse (report.bind (·.get? "group_id_changed")) && saysZero (report.bind (·.get? "dummies_added"))

/-- A number below zero. -/
def Json.negative : Json → Bool
  | .int n => n < 0
  | .float q => q < 0
  | _ => false

/-- A member that is absent or counts as false. -/
def isOff (emptyIsTrue : Bool) (v : Option Json) : Bool := v.all fun v => !v.truthy emptyIsTrue

/-- What the test of an adapter does not see: Python takes every false value
for `false` and `0`, and a negative number of dummies for none; TypeScript
reads names that the wire does not use. -/
def Unseen (env : Env) : AlgoKitSdk → Option Json → Prop
  | .python, report => isOff false (report.bind (·.get? "group_id_changed")) = true ∧
      (isOff false (report.bind (·.get? "dummies_added")) = true ∨
        (report.bind (·.get? "dummies_added")).any Json.negative = true)
  | .typescript, report => isOff true (report.bind (·.get? "groupIdChanged")) = true ∧
      TypeScript.positive env (report.bind (·.get? "dummiesAdded")) = .ok false

/-- Reports that an adapter lets pass though they do not keep the group. -/
def Overlooked (env : Env) (sdk : AlgoKitSdk) (report : Option Json) : Prop :=
  keepsGroup report = false ∧ Unseen env sdk report

/-- Only an object can say that the group changed. -/
theorem obj_of_keepsGroup : ∀ {report : Option Json}, keepsGroup report = false →
    ∃ members, members ≠ [] ∧ report = some (.obj members)
  | some (.obj []), h => by cases h
  | some (.obj (m :: members)), _ => ⟨m :: members, List.cons_ne_nil _ _, rfl⟩

theorem isOff_eq (emptyIsTrue : Bool) (v : Option Json) :
    isOff emptyIsTrue v = true ↔ v.any (·.truthy emptyIsTrue) ≠ true := by
  cases v <;> simp [isOff]

theorem Python.positive_false {v : Option Json} :
    Python.positive v = .ok false ↔ isOff false v = true ∨ v.any Json.negative = true := by
  rcases v with _ | v
  · simp [Python.positive, isOff]
  · cases v with
    | null => simp [Python.positive, isOff, Json.truthy]
    | bool b => cases b <;> simp [Python.positive, isOff, Json.truthy, Json.negative]
    | int n =>
      by_cases hn : n = 0
      · simp [Python.positive, isOff, Json.truthy, hn]
      · simp [Python.positive, isOff, Json.truthy, Json.negative, hn]
        omega
    | float q =>
      by_cases hq : q = 0
      · simp [Python.positive, isOff, Json.truthy, hq]
      · have hneg : ¬ 0 < q ↔ q < 0 := ⟨fun h => lt_of_le_of_ne (not_lt.mp h) hq, fun h => not_lt.mpr h.le⟩
        simp [Python.positive, isOff, Json.truthy, Json.negative, hq, hneg]
    | str s => by_cases hs : s = "" <;> simp [Python.positive, isOff, Json.truthy, Json.negative, hs]
    | arr xs => cases xs <;> simp [Python.positive, isOff, Json.truthy, Json.negative]
    | obj members => cases members <;> simp [Python.positive, isOff, Json.truthy, Json.negative]

/-- The reports the adapters let pass though they should not. -/
theorem regrouped_false_iff {env : Env} {sdk : AlgoKitSdk} {report : Option Json}
    (h : keepsGroup report = false) :
    (sdk.adapter env).regrouped report = .ok false ↔ Overlooked env sdk report := by
  obtain ⟨members, hne, rfl⟩ := obj_of_keepsGroup h
  have htrue : ∀ emptyIsTrue, Json.truthy emptyIsTrue (.obj members) = true := by
    simp [Json.truthy, hne]
  rw [Overlooked, and_iff_right h]
  cases sdk with
  | python =>
    change Python.regrouped (some (.obj members)) = .ok false ↔ _
    simp only [Python.regrouped, htrue, Bool.true_eq_false, if_false, Unseen, Option.bind_some,
      ← Python.positive_false]
    rw [isOff_eq]
    split <;> simp [*]
  | typescript =>
    change TypeScript.regrouped env (some (.obj members)) = .ok false ↔ _
    simp only [TypeScript.regrouped, htrue, Bool.true_eq_false, if_false, Unseen, Option.bind_some, isOff_eq]
    split <;> simp [*]

/-- An adapter returns one signature for each index, in order; and it returns
none of a re-grouped group exactly where the answer is not one it overlooks. -/
theorem algokit_regrouping {τ : Type} (env : Env) (sdk : AlgoKitSdk) (account : ApsignerAccount τ)
    (inFlight : Bool) (requestId : String) (group : List (Option τ)) (indexes : List ℤ)
    (reply : Reply Json) :
    (∀ sigs, (sdk.adapter env).sign env account inFlight requestId group indexes reply = .ok sigs →
      OnePerIndex (sdk.adapter env) indexes reply sigs ∧
        (indexes ≠ [] → ∀ data, reply.okBody = some data → keepsGroup (data.get? "mutations") = true)) ↔
    ∀ data sigs, reply.okBody = some data →
      Signable env (sdk.adapter env) account inFlight requestId group indexes data sigs →
        ¬ Overlooked env sdk (data.get? "mutations") := by
  constructor
  · intro h data sigs hdata hsignable hover
    have hsign := Adapter.sign_ok.mpr (Or.inr ⟨data, hdata, hsignable, (regrouped_false_iff hover.1).mpr hover⟩)
    have hkeeps := (h sigs hsign).2 hsignable.asked data hdata
    rw [hover.1] at hkeeps
    cases hkeeps
  · intro h sigs hsign
    rcases Adapter.sign_ok.mp hsign with ⟨hnil, rfl⟩ | ⟨data, hdata, hsignable, hre⟩
    · refine ⟨⟨by rw [hnil]; rfl, fun k sig hk => ?_⟩, fun hne => absurd hnil hne⟩
      rw [List.getElem?_nil] at hk
      cases hk
    · refine ⟨hsignable.onePerIndex hdata, fun _ data' hdata' => ?_⟩
      obtain rfl := Option.some.inj (hdata'.symm.trans hdata)
      by_contra hkeeps
      rw [Bool.not_eq_true] at hkeeps
      exact h _ sigs hdata hsignable ((regrouped_false_iff hkeeps).mp hre)

namespace Demo

/-- An account whose transactions encode to `TX`, `1`. -/
def account : ApsignerAccount Unit where
  authAddress := "AUTHADDR"
  encodeTransaction _ := .ok [0x54, 0x58, 1]
  txnSender _ := .ok "1"

/-- The body of `/sign`, one signed transaction with a mutation report. -/
def signBody (report : List (String × Json)) : Json :=
  .obj [("signed", .arr [.str "aabb"]), ("mutations", .obj report)]

noncomputable def algokitSign (sdk : AlgoKitSdk) (report : List (String × Json)) :
    Except SdkError (List Bytes) :=
  (sdk.adapter Demo.env).sign Demo.env account false "sdk-algokit-test" [some ()] [0]
    (.http 200 "OK" "" none (some (signBody report)))

/-- TypeScript returns signatures of a re-grouped group, Python of one that
claims to have lost a dummy. -/
theorem algokit_returns_regrouped :
    algokitSign .typescript [("group_id_changed", .bool true), ("dummies_added", .int 2)] =
      .ok [[0xaa, 0xbb]] ∧
    keepsGroup (some (.obj [("group_id_changed", .bool true), ("dummies_added", .int 2)])) = false ∧
    algokitSign .python [("dummies_added", .int (-1))] = .ok [[0xaa, 0xbb]] ∧
    keepsGroup (some (.obj [("dummies_added", .int (-1))])) = false := by
  decide +kernel

end Demo

end AplaneSdk
