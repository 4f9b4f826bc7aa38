/-
# Request ids, group bytes and sign entries

The checks every signing call starts with, in the three SDKs. The sign-entry
rules are one family: the same tests in the same order, with the error class
and the resource test of the language.

Key definitions: `validateSignRequestId`, `validateComponentGroupBytes`,
`signRequestMode`, `validateSignEntries`, `validateGroupSignResponse`,
`acceptSign`, `acceptPlan` of each SDK.
Key theorems: `validRequestId_newSignRequestId`, `Go.validateSignRequestId_ok`,
`TypeScript.validateSignRequestId_ok`, `validateGroupSignResponse_ok`.
-/
import AplaneSdk.Http
import AplaneSdk.Lib.Checks
import AplaneSdk.Mutations

namespace AplaneSdk

open Checks

/-! ### Request ids -/

/-- The id the SDK generates from 16 random bytes. -/
def newSignRequestId (random : Bytes) : String := "sdk-" ++ hexEncode random

def isIdChar (c : Char) : Bool := c.isAlphanum || "-_.:".toList.contains c

/-- The ids all three SDKs mean to accept. -/
def ValidRequestId (id : String) : Prop :=
  id.length ≤ maxSignRequestIdLength ∧ ∀ c ∈ id.toList, isIdChar c = true

instance (id : String) : Decidable (ValidRequestId id) :=
  decidable_of_iff (id.length ≤ maxSignRequestIdLength ∧ id.toList.all isIdChar = true)
    (and_congr_right fun _ => List.all_eq_true)

theorem validRequestId_empty : ValidRequestId "" := by
  constructor
  · exact Nat.zero_le _
  · intro c hc
    simp at hc

/-- The first character a test refuses. -/
def firstBad (ok : Char → Bool) (id : String) : Option Char := id.toList.find? fun c => !ok c

/-- The common shape of the three id checks: length, then characters. -/
def checkRequestId (err : String → SdkError) (length : String → ℕ) (ok : Char → Bool)
    (shown : Char → String) (id : String) : Except SdkError Unit := do
  if id = "" then return
  failIf (maxSignRequestIdLength < length id) (err "request_id is too long")
  match firstBad ok id with
  | some c => .error (err s!"request_id contains invalid character {shown c}")
  | none => .ok ()

/-- A required id must not be empty. -/
def requireId (err : String → SdkError) (id : String) : Except SdkError Unit :=
  failIf (id = "") (err "request_id is required")

namespace Go

/-- `len(id)`: the bytes of the UTF-8 text. -/
def byteLength (s : String) : ℕ := (s.toList.map Char.utf8Size).sum

def err (text : String) : SdkError := { text := text }

/-- Go walks over bytes; a byte of a character outside ASCII is never allowed. -/
def validateSignRequestId (env : Env) : String → Except SdkError Unit :=
  checkRequestId err byteLength isIdChar fun c =>
    env.quote (String.singleton (Char.ofNat ((String.utf8EncodeChar c).headD 0).toNat))

end Go

namespace Python

def err (text : String) : SdkError := { kind := .value, text := text }

def validateSignRequestId (env : Env) : String → Except SdkError Unit :=
  checkRequestId err String.length (fun c => env.isAlnum c || "-_.:".toList.contains c) fun c =>
    env.quote (String.singleton c)

end Python

namespace TypeScript

def err (text : String) : SdkError := { text := text }

/-- `length` of a string: UTF-16 code units. -/
def utf16Length (s : String) : ℕ := (s.toList.map fun c => if c.toNat < 0x10000 then 1 else 2).sum

def validateSignRequestId (env : Env) : String → Except SdkError Unit :=
  checkRequestId err utf16Length isIdChar fun c => env.quote (String.singleton c)

end TypeScript

theorem checkRequestId_ok {err : String → SdkError} {length : String → ℕ} {ok : Char → Bool}
    {shown : Char → String} {id : String} {u : Unit} :
    checkRequestId err length ok shown id = .ok u ↔
      id = "" ∨ length id ≤ maxSignRequestIdLength ∧ ∀ c ∈ id.toList, ok c = true := by
  unfold checkRequestId
  by_cases h : id = ""
  · simp [h]
  · have hbad : firstBad ok id = none ↔ ∀ c ∈ id.toList, ok c = true := by
      simp [firstBad]
    rw [← hbad]
    cases hb : firstBad ok id <;> simp [h]

theorem toNat_lt_of_isIdChar {c : Char} (h : isIdChar c = true) : c.toNat < 128 := by
  unfold isIdChar at h
  delta Char.isAlphanum Char.isAlpha Char.isUpper Char.isLower Char.isDigit at h
  simp only [Bool.or_eq_true, Bool.and_eq_true, decide_eq_true_eq, List.contains_eq_mem,
    UInt32.le_iff_toNat_le] at h
  rcases h with ((⟨-, h⟩ | ⟨-, h⟩) | ⟨-, h⟩) | h
  · exact lt_of_le_of_lt h (by decide)
  · exact lt_of_le_of_lt h (by decide)
  · exact lt_of_le_of_lt h (by decide)
  · have hall : "-_.:".toList.all (·.toNat < 128) = true := by decide +kernel
    exact of_decide_eq_true (List.all_eq_true.mp hall c h)

theorem sum_map_eq_length {f : Char → ℕ} : ∀ {cs : List Char},
    (∀ c ∈ cs, f c = 1) → (cs.map f).sum = cs.length
  | [], _ => rfl
  | c :: cs, h => by
    rw [List.map_cons, List.sum_cons, h c (List.mem_cons_self ..),
      sum_map_eq_length fun d hd => h d (List.mem_cons_of_mem _ hd), List.length_cons]
    omega

theorem byteLength_eq {id : String} (h : ∀ c ∈ id.toList, isIdChar c = true) :
    Go.byteLength id = id.length := by
  rw [Go.byteLength, sum_map_eq_length, String.length_toList]
  intro c hc
  have := toNat_lt_of_isIdChar (h c hc)
  rw [Char.utf8Size, if_pos]
  rw [UInt32.le_iff_toNat_le]
  exact Nat.lt_succ_iff.mp this

theorem utf16Length_eq {id : String} (h : ∀ c ∈ id.toList, isIdChar c = true) :
    TypeScript.utf16Length id = id.length := by
  rw [TypeScript.utf16Length, sum_map_eq_length, String.length_toList]
  intro c hc
  have := toNat_lt_of_isIdChar (h c hc)
  rw [if_pos (by omega)]

theorem Go.validateSignRequestId_ok {env : Env} {id : String} {u : Unit} :
    Go.validateSignRequestId env id = .ok u ↔ ValidRequestId id := by
  rw [Go.validateSignRequestId, checkRequestId_ok]
  constructor
  · rintro (rfl | ⟨h1, h2⟩)
    · exact validRequestId_empty
    · exact ⟨byteLength_eq h2 ▸ h1, h2⟩
  · rintro ⟨h1, h2⟩
    exact Or.inr ⟨(byteLength_eq h2).symm ▸ h1, h2⟩

theorem TypeScript.validateSignRequestId_ok {env : Env} {id : String} {u : Unit} :
    TypeScript.validateSignRequestId env id = .ok u ↔ ValidRequestId id := by
  rw [TypeScript.validateSignRequestId, checkRequestId_ok]
  constructor
  · rintro (rfl | ⟨h1, h2⟩)
    · exact validRequestId_empty
    · exact ⟨utf16Length_eq h2 ▸ h1, h2⟩
  · rintro ⟨h1, h2⟩
    exact Or.inr ⟨(utf16Length_eq h2).symm ▸ h1, h2⟩

theorem isIdChar_hexDigit : ∀ n : Fin 16, isIdChar (hexDigit n) = true := by decide

theorem length_hexChars : ∀ bs : Bytes, (hexChars bs).length = 2 * bs.length
  | [] => rfl
  | b :: bs => by
    have := length_hexChars bs
    rw [hexChars] at this ⊢
    simp only [List.flatMap_cons, hexByte, List.length_append, this, List.length_cons,
      List.length_nil]
    omega

/-- A generated id is valid. -/
theorem validRequestId_newSignRequestId {random : Bytes} (h : random.length = 16) :
    ValidRequestId (newSignRequestId random) := by
  have hlist : (newSignRequestId random).toList = "sdk-".toList ++ hexChars random := by
    simp [newSignRequestId, hexEncode]
  constructor
  · rw [← String.length_toList, hlist, List.length_append, length_hexChars, h]
    decide
  · intro c hc
    rw [hlist, List.mem_append] at hc
    rcases hc with hc | hc
    · have hall : "sdk-".toList.all isIdChar = true := by decide +kernel
      exact List.all_eq_true.mp hall c hc
    · obtain ⟨b, -, hb⟩ := List.mem_flatMap.mp hc
      have := b.toNat_lt
      simp only [hexByte, List.mem_cons, List.not_mem_nil, or_false] at hb
      rcases hb with rfl | rfl
      · exact isIdChar_hexDigit ⟨b.toNat / 16, by omega⟩
      · exact isIdChar_hexDigit ⟨b.toNat % 16, by omega⟩

theorem newSignRequestId_ne_empty (random : Bytes) : newSignRequestId random ≠ "" := by
  intro h
  have := congrArg String.toList h
  rw [newSignRequestId, String.toList_append] at this
  simp at this

/-! ### Group bytes and resources -/

/-- `validateComponentGroupBytes`: one to sixteen non-empty entries. -/
def validateComponentGroupBytes (err : String → SdkError) (items : List String) :
    Except SdkError Unit := do
  failIf (items = []) (err "group_bytes_hex is empty")
  failIf (maxComponentGroupSize < items.length)
    (err s!"group_bytes_hex length {items.length} exceeds max {maxComponentGroupSize}")
  forEach (fun i item => failIf (item = "") (err s!"group_bytes_hex {i} is empty")) 0 items

/-- What `validateComponentGroupBytes` decides. -/
def GroupBytesOk (items : List String) : Prop :=
  items ≠ [] ∧ items.length ≤ maxComponentGroupSize ∧ ∀ item ∈ items, item ≠ ""

theorem validateComponentGroupBytes_ok {err : String → SdkError} {items : List String} {u : Unit} :
    validateComponentGroupBytes err items = .ok u ↔ GroupBytesOk items := by
  simp only [validateComponentGroupBytes, seq_eq_ok, failIf_ok, forEach_ok, GroupBytesOk, not_lt,
    forall_getElem? (P := fun item : String => ¬ item = ""), ne_eq]

/-- The bounds all three SDKs put on a resource declaration. -/
def LogicSigResourceUsage.inBounds (r : LogicSigResourceUsage) : Prop :=
  (0 < r.programBytes ∧ r.programBytes ≤ 16000) ∧ 0 < r.maxOpcodeCost ∧ r.maxOpcodeCost ≤ 320000

instance (r : LogicSigResourceUsage) : Decidable r.inBounds := by
  unfold LogicSigResourceUsage.inBounds
  infer_instance

/-- `LogicSigResourceUsage.validate` of Go. -/
def Go.validateResources (r : LogicSigResourceUsage) : Except SdkError Unit := do
  failIf (r.programBytes = 0 ∨ 16000 < r.programBytes)
    (Go.err "program_bytes must be between 1 and 16000")
  failIf (r.maxOpcodeCost = 0 ∨ 320000 < r.maxOpcodeCost)
    (Go.err "max_opcode_cost must be between 1 and 320000")

/-- `_validate_lsig_resources` and `validateLogicSigResources`. -/
def validateLsigResources (err : String → SdkError) (label : String) (r : LogicSigResourceUsage) :
    Except SdkError Unit :=
  failIf (¬ r.inBounds) (err s!"{label} LogicSig resources are invalid")

/-- `_require_lsig_resources` and `requireLogicSigResources`. -/
def requireLsigResources (err : String → SdkError) (label : String) :
    Option LogicSigResourceUsage → Except SdkError LogicSigResourceUsage
  | none => .error (err s!"{label} LogicSig resources are unavailable")
  | some r => do
    validateLsigResources err label r
    pure r

theorem Go.validateResources_ok {r : LogicSigResourceUsage} {u : Unit} :
    Go.validateResources r = .ok u ↔ r.inBounds := by
  simp only [Go.validateResources, seq_eq_ok, failIf_ok, LogicSigResourceUsage.inBounds]
  omega

theorem validateLsigResources_ok {err : String → SdkError} {label : String}
    {r : LogicSigResourceUsage} {u : Unit} :
    validateLsigResources err label r = .ok u ↔ r.inBounds := by
  simp [validateLsigResources]

theorem requireLsigResources_ok {err : String → SdkError} {label : String}
    {o : Option LogicSigResourceUsage} {r : LogicSigResourceUsage} :
    requireLsigResources err label o = .ok r ↔ o = some r ∧ r.inBounds := by
  cases o with
  | none => simp [requireLsigResources]
  | some r' =>
    simp only [requireLsigResources, bind_eq_ok, validateLsigResources_ok, pure_eq_ok,
      Option.some.injEq]
    constructor
    · rintro ⟨-, h, rfl⟩
      exact ⟨rfl, h⟩
    · rintro ⟨rfl, h⟩
      exact ⟨(), h, rfl⟩

/-! ### Sign entries -/

inductive RequestMode
  | sign
  | passthrough
  | foreign
  deriving DecidableEq

/-- `SignRequest.Mode`, `_sign_request_mode`, `signRequestMode`. -/
def signRequestMode (err : String → SdkError) (r : SignRequest) : Except SdkError RequestMode :=
  if r.signedTxnHex ≠ "" ∧ (r.txnBytesHex ≠ "" ∨ r.authAddress ≠ "") then
    .error (err ("cannot specify both sign fields (auth_address/txn_bytes_hex) " ++
      "and passthrough field (signed_txn_hex)"))
  else if r.signedTxnHex ≠ "" then .ok .passthrough
  else if r.txnBytesHex ≠ "" ∧ r.authAddress ≠ "" then .ok .sign
  else if r.txnBytesHex ≠ "" then .ok .foreign
  else if r.authAddress ≠ "" then .error (err "txn_bytes_hex is required for sign mode")
  else .error (err ("must specify either sign fields (auth_address + txn_bytes_hex), " ++
    "foreign fields (txn_bytes_hex), or passthrough field (signed_txn_hex)"))

/-- One entry: its mode, then where `pq_scheme` and `lsig_resources` may stand. -/
def validateSignEntry (err : String → SdkError) (quote : String → String)
    (checkResources : LogicSigResourceUsage → Except SdkError Unit) (r : SignRequest) :
    Except SdkError RequestMode := do
  let mode ← signRequestMode err r
  failIf (r.pqScheme ≠ "" ∧ mode ≠ .foreign)
    (err "pq_scheme is allowed only for foreign transactions")
  failIf (r.pqScheme ≠ "" ∧ r.pqScheme ≠ pqSchemeFalcon1024)
    (err s!"unsupported pq_scheme {quote r.pqScheme}")
  failIf (r.lsigResources.isSome ∧ mode ≠ .foreign ∧ mode ≠ .passthrough)
    (err "lsig_resources is allowed only for foreign or passthrough transactions")
  failIf (r.pqScheme ≠ "" ∧ r.lsigResources.isSome)
    (err "foreign transaction cannot specify both pq_scheme and lsig_resources")
  checkSome checkResources r.lsigResources
  pure mode

/-- What a mode lets an entry declare. -/
def EntryOk (r : SignRequest) (mode : RequestMode) : Prop :=
  (r.pqScheme ≠ "" → mode = .foreign) ∧ (r.pqScheme ≠ "" → r.pqScheme = pqSchemeFalcon1024) ∧
    (r.lsigResources.isSome → mode = .foreign ∨ mode = .passthrough) ∧
    (r.pqScheme ≠ "" → r.lsigResources = none) ∧ ∀ x, r.lsigResources = some x → x.inBounds

theorem validateSignEntry_ok {err : String → SdkError} {quote : String → String}
    {checkResources : LogicSigResourceUsage → Except SdkError Unit}
    (hres : ∀ x, checkResources x = .ok () ↔ x.inBounds) {r : SignRequest} {mode : RequestMode} :
    validateSignEntry err quote checkResources r = .ok mode ↔
      signRequestMode err r = .ok mode ∧ EntryOk r mode := by
  simp only [validateSignEntry, EntryOk, bind_eq_ok (α := RequestMode), seq_eq_ok, failIf_ok,
    checkSome_ok, hres, pure_eq_ok]
  constructor
  · rintro ⟨m, hm, h1, h2, h3, h4, h5, rfl⟩
    refine ⟨hm, by tauto, by tauto, by tauto, fun h => ?_, h5⟩
    cases hx : r.lsigResources with
    | none => rfl
    | some x => exact absurd ⟨h, by rw [hx]; rfl⟩ h4
  · rintro ⟨hm, h1, h2, h3, h4, h5⟩
    refine ⟨mode, hm, by tauto, by tauto, by tauto, ?_, h5, rfl⟩
    rintro ⟨h, h'⟩
    rw [h4 h] at h'
    cases h'

/-- The modes of the entries, with the position in front of a complaint. -/
def signEntryModes (validate : SignRequest → Except SdkError RequestMode) :
    List SignRequest → Except SdkError (List RequestMode) :=
  mapEach (fun k r => mapErr (SdkError.wrap s!"transaction {k + 1}: ") (validate r)) 0

/-- `GroupSignRequest.Validate`, `_validate_sign_entries`, `validateSignRequests`. -/
def validateSignEntries (err : String → SdkError) (emptyText : String)
    (validate : SignRequest → Except SdkError RequestMode) (requests : List SignRequest) :
    Except SdkError Unit := do
  failIf (requests = []) (err emptyText)
  let modes ← signEntryModes validate requests
  failIf (.passthrough ∈ modes ∧ .foreign ∈ modes)
    (err "cannot mix passthrough and foreign transactions in one request")
  failIf (.sign ∉ modes ∧ .foreign ∈ modes)
    (err ("no signable transactions: all entries are foreign. " ++
      "Build and submit this group locally instead of using apsigner"))

/-- A slot `/sign` returns empty by design. -/
def SignRequest.isForeign (r : SignRequest) : Bool :=
  r.txnBytesHex != "" && r.authAddress == "" && r.signedTxnHex == ""

/-- The test of an entry of `signed` that is a text. -/
def noText (s : String) : Bool := s == ""

/-- `validateGroupSignResponse`: no slot but those `skip` names is missing or
`empty`; `server` is what the language calls the signer. -/
def validateGroupSignResponse {α : Type} (server : String) (empty : α → Bool) (skip : SignRequest → Bool)
    (requests : List SignRequest) (signed : List α) : Except SdkError Unit := do
  failIf (signed.length < requests.length)
    { text := s!"{server} returned {signed.length} signed transaction(s), want at least {requests.length}" }
  forEach (fun i r => failIf (skip r = false ∧ signed[i]?.all empty = true)
    { text := s!"{server} returned no signature for position {i + 1}" }) 0 requests
  forEach (fun i s => failIf (empty s = true)
    { text := s!"{server} returned empty dummy transaction at position {i + 1}" })
    requests.length (signed.drop requests.length)

/-- Entries `/sign` takes: each with its mode, none signed by nobody, and no
mixture of passthrough and foreign. -/
def EntriesOk (requests : List SignRequest) : Prop :=
  requests ≠ [] ∧ ∃ modes, List.Forall₂
      (fun r mode => signRequestMode (fun text => { text := text }) r = .ok mode ∧ EntryOk r mode)
      requests modes ∧
    ¬ (.passthrough ∈ modes ∧ .foreign ∈ modes) ∧ ¬ (.sign ∉ modes ∧ .foreign ∈ modes)

/-- Every slot but the foreign ones is signed, and nothing behind them is empty. -/
def SignedOk {α : Type} (empty : α → Bool) (requests : List SignRequest) (signed : List α) : Prop :=
  requests.length ≤ signed.length ∧
    (∀ (j : ℕ) r, requests[j]? = some r → r.isForeign = false → signed[j]?.all empty = false) ∧
    ∀ s ∈ signed.drop requests.length, empty s = false

/-- The mode does not depend on the language. -/
theorem signRequestMode_ok_iff {err err' : String → SdkError} {r : SignRequest} {mode : RequestMode} :
    signRequestMode err r = .ok mode ↔ signRequestMode err' r = .ok mode := by
  unfold signRequestMode
  split_ifs <;> simp

theorem foreign_iff {err : String → SdkError} {r : SignRequest} {mode : RequestMode}
    (h : signRequestMode err r = .ok mode) : mode = .foreign ↔ r.isForeign = true := by
  unfold signRequestMode at h
  simp only [SignRequest.isForeign, Bool.and_eq_true, bne_iff_ne, beq_iff_eq]
  split_ifs at h <;> cases h <;> simp_all

theorem validateSignEntries_ok {err : String → SdkError} {emptyText : String} {quote : String → String}
    {checkResources : LogicSigResourceUsage → Except SdkError Unit}
    (hres : ∀ x, checkResources x = .ok () ↔ x.inBounds) {requests : List SignRequest} {u : Unit} :
    validateSignEntries err emptyText (validateSignEntry err quote checkResources) requests = .ok u ↔
      EntriesOk requests := by
  have hmodes : ∀ modes, signEntryModes (validateSignEntry err quote checkResources) requests = .ok modes ↔
      List.Forall₂ (fun r mode => signRequestMode (fun text => { text := text }) r = .ok mode ∧
        EntryOk r mode) requests modes := by
    intro modes
    rw [signEntryModes, mapEach_ok, List.forall₂_iff_get]
    refine and_congr_right fun hlen => ?_
    simp only [mapErr_ok, validateSignEntry_ok hres, List.get_eq_getElem]
    constructor
    · intro h i h₁ h₂
      obtain ⟨hm, he⟩ := h i _ _ (List.getElem?_eq_getElem h₁) (List.getElem?_eq_getElem h₂)
      exact ⟨signRequestMode_ok_iff.mp hm, he⟩
    · intro h j x y hx hy
      obtain ⟨h₁, rfl⟩ := List.getElem?_eq_some_iff.mp hx
      obtain ⟨h₂, rfl⟩ := List.getElem?_eq_some_iff.mp hy
      obtain ⟨hm, he⟩ := h j h₁ h₂
      exact ⟨signRequestMode_ok_iff.mp hm, he⟩
  simp only [validateSignEntries, EntriesOk, seq_eq_ok, bind_eq_ok (α := List RequestMode), failIf_ok,
    hmodes, ne_eq]

theorem EntriesOk.mode {requests : List SignRequest} (h : EntriesOk requests) {r : SignRequest}
    (hr : r ∈ requests) : ∃ mode, signRequestMode (fun text => { text := text }) r = .ok mode := by
  obtain ⟨-, modes, hmodes, -⟩ := h
  obtain ⟨hlen, hall⟩ := List.forall₂_iff_get.mp hmodes
  obtain ⟨i, hi, rfl⟩ := List.getElem_of_mem hr
  exact ⟨_, (hall i hi (hlen ▸ hi)).1⟩

theorem validateGroupSignResponse_ok {α : Type} {server : String} {empty : α → Bool}
    {skip : SignRequest → Bool} {requests : List SignRequest} {signed : List α} {u : Unit}
    (hskip : ∀ r ∈ requests, skip r = r.isForeign) :
    validateGroupSignResponse server empty skip requests signed = .ok u ↔
      SignedOk empty requests signed := by
  simp only [validateGroupSignResponse, SignedOk, seq_eq_ok, failIf_ok, not_lt, forEach_ok, Nat.zero_add,
    Bool.not_eq_true, forall_getElem? (P := fun s => empty s = false), not_and]
  refine and_congr_right fun _ => and_congr_left fun _ => forall₃_congr fun j r hr => ?_
  rw [hskip r (List.mem_of_getElem? hr)]

namespace Go

def validateSignRequest (env : Env) : SignRequest → Except SdkError RequestMode :=
  validateSignEntry err env.quote fun r =>
    mapErr (SdkError.wrap "invalid lsig_resources: ") (validateResources r)

theorem validateSignRequest_ok {env : Env} {r : SignRequest} {mode : RequestMode} :
    validateSignRequest env r = .ok mode ↔ signRequestMode err r = .ok mode ∧ EntryOk r mode :=
  validateSignEntry_ok fun _ => by rw [mapErr_ok, validateResources_ok]

/-- `GroupSignRequest.Validate`. -/
def validateGroupSignRequest (env : Env) (r : GroupSignRequest) : Except SdkError Unit := do
  validateSignRequestId env r.requestId
  validateSignEntries err "requests array is empty" (validateSignRequest env) r.requests

/-- `validateRequests`, which `PlanRequestsWithContext` calls. -/
def validateRequests (env : Env) (requests : List SignRequest) : Except SdkError Unit :=
  mapErr (SdkError.wrap "invalid sign request: ") (validateGroupSignRequest env { requests := requests })

/-- Go skips a slot in foreign mode, or without a mode. -/
def skipsSlot (r : SignRequest) : Bool :=
  match signRequestMode err r with
  | .ok mode => mode = .foreign
  | .error _ => true

/-- The reply of `/sign` in `SignGroupWithContext`. A report that does not
decode makes the whole body undecodable. -/
def acceptSign (env : Env) (req : GroupSignRequest) (reply : Reply GroupSignResponse) :
    Except SdkError GroupSignResponse := do
  let resp ← decodeReply (signEndpoint env) reply
  failIf (decodeMutations resp.mutations = none) (err ("failed to decode response: " ++ env.jsonError ""))
  failIf (resp.error ≠ "") (err ("group signing failed: " ++ resp.error))
  validateGroupSignResponse "signer" noText skipsSlot req.requests resp.signed
  pure resp

theorem skipsSlot_eq {r : SignRequest} {mode : RequestMode} (h : signRequestMode err r = .ok mode) :
    skipsSlot r = r.isForeign := by
  rw [Bool.eq_iff_iff, ← foreign_iff h, skipsSlot, h, decide_eq_true_eq]

theorem acceptSign_ok {env : Env} {req : GroupSignRequest} {reply : Reply GroupSignResponse}
    {resp : GroupSignResponse} (hreq : EntriesOk req.requests) :
    acceptSign env req reply = .ok resp ↔ reply.okBody = some resp ∧ decodeMutations resp.mutations ≠ none ∧
      resp.error = "" ∧ SignedOk noText req.requests resp.signed := by
  have hskip : ∀ r ∈ req.requests, skipsSlot r = r.isForeign := by
    intro r hr
    obtain ⟨mode, hmode⟩ := hreq.mode hr
    exact skipsSlot_eq (signRequestMode_ok_iff.mp hmode)
  simp only [acceptSign, bind_eq_ok (α := GroupSignResponse), seq_eq_ok, decodeReply_ok, failIf_ok,
    validateGroupSignResponse_ok hskip, pure_eq_ok, not_not, ne_eq]
  constructor
  · rintro ⟨_, h1, h2, h3, h4, rfl⟩
    exact ⟨h1, h2, h3, h4⟩
  · rintro ⟨h1, h2, h3, h4⟩
    exact ⟨resp, h1, h2, h3, h4, rfl⟩

def acceptPlan (env : Env) (reply : Reply PlanGroupResponse) : Except SdkError PlanGroupResponse := do
  let resp ← decodeReply (planEndpoint env) reply
  failIf (decodeMutations resp.mutations = none) (err ("failed to decode response: " ++ env.jsonError ""))
  failIf (resp.error ≠ "") (err ("plan failed: " ++ resp.error))
  pure resp

end Go

namespace Python

def validateSignEntriesOf (env : Env) : List SignRequest → Except SdkError Unit :=
  validateSignEntries err "sign_entries must not be empty"
    (validateSignEntry err env.quote (validateLsigResources err "lsig_resources"))

/-- The checks `sign_requests` makes of its arguments. -/
def validateGroupSignRequest (env : Env) (r : GroupSignRequest) : Except SdkError Unit := do
  requireId err r.requestId
  validateSignRequestId env r.requestId
  validateSignEntriesOf env r.requests

def acceptSign (req : GroupSignRequest) (reply : Reply GroupSignResponse) :
    Except SdkError GroupSignResponse := do
  let resp ← decodeReply signEndpoint reply
  failIf (resp.error ≠ "") { text := resp.error }
  validateGroupSignResponse "Server" noText SignRequest.isForeign req.requests resp.signed
  pure resp

theorem acceptSign_ok {req : GroupSignRequest} {reply : Reply GroupSignResponse} {resp : GroupSignResponse} :
    acceptSign req reply = .ok resp ↔ reply.okBody = some resp ∧ resp.error = "" ∧
      SignedOk noText req.requests resp.signed := by
  simp only [acceptSign, bind_eq_ok (α := GroupSignResponse), seq_eq_ok, decodeReply_ok, failIf_ok, not_not,
    pure_eq_ok, validateGroupSignResponse_ok fun _ _ => rfl]
  constructor
  · rintro ⟨_, hbody, herror, hsigned, rfl⟩
    exact ⟨hbody, herror, hsigned⟩
  · rintro ⟨hbody, herror, hsigned⟩
    exact ⟨resp, hbody, herror, hsigned, rfl⟩

def acceptPlan (reply : Reply PlanGroupResponse) : Except SdkError PlanGroupResponse := do
  let resp ← decodeReply planRequestsEndpoint reply
  failIf (resp.error ≠ "") { text := resp.error }
  pure resp

end Python

namespace TypeScript

/-- `validateSignRequests`. -/
def validateSignRequests (env : Env) : List SignRequest → Except SdkError Unit :=
  validateSignEntries err "requests must not be empty"
    (validateSignEntry err env.quote (validateLsigResources err "lsig_resources"))

/-- The checks `signRequests` makes of its arguments. -/
def validateGroupSignRequest (env : Env) (r : GroupSignRequest) : Except SdkError Unit := do
  requireId err r.requestId
  validateSignRequestId env r.requestId
  validateSignRequests env r.requests

def acceptSign (req : GroupSignRequest) (reply : Reply GroupSignResponse) :
    Except SdkError GroupSignResponse := do
  let resp ← decodeReply signEndpoint reply
  failIf (resp.error ≠ "") { text := resp.error }
  validateGroupSignResponse "Server" noText SignRequest.isForeign req.requests resp.signed
  pure resp

theorem acceptSign_ok {req : GroupSignRequest} {reply : Reply GroupSignResponse} {resp : GroupSignResponse} :
    acceptSign req reply = .ok resp ↔ reply.okBody = some resp ∧ resp.error = "" ∧
      SignedOk noText req.requests resp.signed := by
  simp only [acceptSign, bind_eq_ok (α := GroupSignResponse), seq_eq_ok, decodeReply_ok, failIf_ok, not_not,
    pure_eq_ok, validateGroupSignResponse_ok fun _ _ => rfl]
  constructor
  · rintro ⟨_, hbody, herror, hsigned, rfl⟩
    exact ⟨hbody, herror, hsigned⟩
  · rintro ⟨hbody, herror, hsigned⟩
    exact ⟨resp, hbody, herror, hsigned, rfl⟩

def acceptPlan (reply : Reply PlanGroupResponse) : Except SdkError PlanGroupResponse := do
  let resp ← decodeReply planRequestsEndpoint reply
  failIf (resp.error ≠ "") { text := resp.error }
  pure resp

end TypeScript

end AplaneSdk
