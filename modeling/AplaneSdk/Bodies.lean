/-
# The bodies of the signing endpoints, as they parsed

Go decodes an answer into a type and refuses a body of another. Python and
TypeScript go on with the JSON value that parsed, and test it where they use
it: for truth, for equality with a text, or not at all. Here are the answers
of `/sign/component`, `/sign` and `/sign/assemble` as these two take them.

What the languages make of a value of an odd type, such as a `length` that is
no number, is a parameter, `Coercions`; nothing is assumed of it.

Key definitions: `Coercions`, `Script`, `RawComponent`,
`RawAssemblyRequest`, `Script.acceptComponents`, `Script.acceptAssembly`,
`Python.script`, `TypeScript.script`.
Key theorems: `Script.acceptComponents_ok`, `Python.lawful_script`,
`TypeScript.lawful_script`, `Python.readsTexts`, `TypeScript.readsTexts`.
-/
import AplaneSdk.Dialects
import AplaneSdk.Listing

namespace AplaneSdk

open Checks

/-- What JavaScript and Python make of a value where they expect another. -/
structure Coercions where
  /-- `v.length < n` and `n < v.length` where `length` is a member the body gave;
  `none` where the comparison raises. -/
  lengthBelow : Option Json → ℕ → Option Bool
  lengthAbove : ℕ → Option Json → Option Bool
  /-- `String(v)` and `str(v)`, for no text. -/
  toText : Json → Option String
  /-- `dict(v)` and `{ ...v }`, for no mapping. -/
  toMapping : Json → Option Json

/-- Whether a member is this text. -/
def isText (v : Option Json) (s : String) : Bool :=
  match v with
  | some (.str t) => t == s
  | _ => false

/-! ### Components -/

/-- A component with what it is found by. -/
structure RawComponent where
  targetIndex : ℤ
  kind : ComponentTargetKind
  body : Json

structure RawComponentResponse where
  requestId : String
  components : List RawComponent

def RawComponentResponse.kinds (r : RawComponentResponse) : KindMap :=
  r.components.map fun c => (c.targetIndex, c.kind)

/-- A kind that is no text is none of those known. -/
def componentKind : Option Json → ComponentTargetKind
  | some (.str name) =>
    if name = "user" then .user
    else if name = "cosigner" then .cosigner
    else if name = "bounded-base" then .boundedBase
    else .other name
  | _ => .other ""

/-! ### Assembly requests -/

/-- An assembly target with the material as the answers had it. -/
structure RawAssemblyTarget where
  targetIndex : ℤ
  kind : AssemblyTargetKind
  authAddress : String
  userSignature : Json := .str ""
  userSourceRequestId : String := ""
  baseSignatures : List Json := []
  boundedRuntimeArgs : Option Json := none
  assemblyReceipt : Json := .str ""
  baseSourceRequestId : String := ""
  cosignerSignature : Json
  cosignerSourceRequestId : String
  guardedRuntimeArgs : List String := []

structure RawPassthroughItem where
  targetIndex : ℤ
  signedTxnHex : Json

structure RawAssemblyRequest where
  requestId : String := ""
  groupBytesHex : List String
  targets : List RawAssemblyTarget
  passthrough : List RawPassthroughItem

/-- A text that is empty where the value counts as false. -/
def Json.face (emptyIsTrue : Bool) : Json → String
  | .str s => s
  | v => if v.truthy emptyIsTrue = true then "…" else ""

/-- The request as the validators see it: they ask of the material only whether
it is there. The runtime arguments are looked at in guarded targets, which
have none of the bounded kind. -/
def RawAssemblyRequest.outline (emptyIsTrue : Bool) (r : RawAssemblyRequest) : AssemblyRequest where
  requestId := r.requestId
  groupBytesHex := r.groupBytesHex
  targets := r.targets.map fun t =>
    { targetIndex := t.targetIndex
      kind := t.kind
      authAddress := t.authAddress
      userSignature := t.userSignature.face emptyIsTrue
      userSourceRequestId := t.userSourceRequestId
      baseSignatures := t.baseSignatures.map (Json.face emptyIsTrue)
      assemblyReceipt := t.assemblyReceipt.face emptyIsTrue
      baseSourceRequestId := t.baseSourceRequestId
      cosignerSignature := t.cosignerSignature.face emptyIsTrue
      cosignerSourceRequestId := t.cosignerSourceRequestId
      guardedRuntimeArgs := t.guardedRuntimeArgs }
  passthrough := r.passthrough.map fun item =>
    { targetIndex := item.targetIndex, signedTxnHex := item.signedTxnHex.face emptyIsTrue }

/-! ### What the two languages do -/

/-- An SDK that uses bodies as they parsed. -/
structure Script where
  env : Env
  dialect : Dialect
  emptyIsTrue : Bool
  /-- Whether members of a value can be asked for at all. -/
  hasMembers : Json → Bool
  componentEndpoint : Endpoint
  assembleEndpoint : Endpoint
  err : String → SdkError
  /-- What becomes of an exception in the validation of a response. -/
  invalid : String → SdkError → SdkError
  /-- The index a component may name. -/
  index : Json → Option ℤ
  /-- Whether `base_signatures` counts as given. -/
  hasItems : Option Json → Bool
  /-- The id of a component response, before it is compared with the request's. -/
  checkComponentId : Option Json → Except SdkError Unit
  /-- The components that are walked over. -/
  componentItems : Option Json → Except SdkError (List Json)
  sameKinds : KindMap → KindMap → Bool
  acceptSign : GroupSignRequest → Reply Json → Except SdkError Json
  /-- `signed[i]` of an accepted body. -/
  slot : Json → ℕ → Option Json
  /-- The text a signed transaction is read as, where it is read at all. -/
  signedText : Json → Option String
  /-- The id of an assembly response. -/
  checkAssemblyId : Option Json → Except SdkError Unit
  /-- The slots of `signed_group` that are walked over. -/
  groupItems : Option Json → Except SdkError (List Json)
  comparesAssemblyId : Bool
  /-- A value as it is sent on. -/
  forwarded : Json → Json
  baseSignatures : Json → Except SdkError (List Json)
  mapping : Json → Except SdkError Json

section Accept

variable (s : Script)

/-- An index that is none is `-1` here, which is refused alike. -/
def Script.component (body : Json) : RawComponent where
  targetIndex := ((body.get? "target_index").bind s.index).getD (-1)
  kind := componentKind (body.get? "kind")
  body := body

/-- Whether a member of a component is missing or false. -/
def Script.lacks (c : RawComponent) (name : String) : Bool := isOff s.emptyIsTrue (c.body.get? name)

/-- The material checks of one component. -/
def Script.checkMaterial (k : ℕ) (c : RawComponent) : Except SdkError Unit :=
  match c.kind with
  | .user | .cosigner =>
    failIf (s.lacks c "signature" = true ∨ s.lacks c "signature_scheme" = true ∨
        s.hasItems (c.body.get? "base_signatures") = true ∨ s.lacks c "assembly_receipt" = false)
      (s.err s!"component {k + 1} has invalid signature material")
  | .boundedBase =>
    failIf (s.lacks c "auth_address" = true ∨ s.hasItems (c.body.get? "base_signatures") = false ∨
        s.lacks c "assembly_receipt" = true ∨ s.lacks c "signature_scheme" = true ∨
        s.lacks c "signature" = false)
      (s.err s!"component {k + 1} has invalid bounded-base material")
  | .other _ => .error (s.err s!"component {k + 1} has unsupported kind")

/-- The component walk of `_validate_component_response` and its sibling. -/
def Script.checkComponents (n : ℕ) (components : List RawComponent) : Except SdkError (List ℤ) :=
  claimAll (·.targetIndex) (fun k claimed c => do
    failIf (s.hasMembers c.body = false) languageError
    failIf (c.targetIndex < 0 ∨ c.targetIndex ∈ claimed)
      (s.err s!"component {k + 1} has invalid or duplicate target_index")
    failIf ((n : ℤ) ≤ c.targetIndex) (s.err s!"component {k + 1} target_index is outside the frozen group")
    s.checkMaterial k c) 0 [] components

/-- `_validate_component_response`, `validateComponentResponse`. -/
def Script.validateComponentResponse (req : ComponentRequest) (data : Json) :
    Except SdkError (List RawComponent) := do
  s.checkComponentId (data.get? "request_id")
  let bodies ← s.componentItems (data.get? "components")
  let components := bodies.map s.component
  let _ ← s.checkComponents req.groupBytesHex.length components
  pure components

/-- A body with members and without an error. -/
def Script.body (endpoint : Endpoint) (reply : Reply Json) : Except SdkError Json := do
  let data ← decodeReply endpoint reply
  failIf (s.hasMembers data = false) languageError
  checkSome (fun text => signerError text) (bodyError s.env s.emptyIsTrue data)
  pure data

/-- The reply of `/sign/component` in `request_components` and `requestComponents`. -/
def Script.acceptComponents (req : ComponentRequest) (reply : Reply Json) :
    Except SdkError RawComponentResponse := do
  let data ← s.body s.componentEndpoint reply
  let components ← mapErr (s.invalid "invalid component response: ") (s.validateComponentResponse req data)
  failIf (isText (data.get? "request_id") req.requestId = false)
    { text := "component response request_id does not match request" }
  let resp : RawComponentResponse := { requestId := req.requestId, components := components }
  failIf (s.sameKinds resp.kinds req.kinds = false) { text := mismatchText }
  pure resp

/-- `_validate_assembly_response`, `validateAssemblyResponse`. -/
def Script.validateAssemblyResponse (data : Json) : Except SdkError Unit := do
  failIf (isOff s.emptyIsTrue (data.get? "request_id") = true) (s.err "request_id is required")
  s.checkAssemblyId (data.get? "request_id")
  let items ← s.groupItems (data.get? "signed_group")
  forEach (fun i item => failIf (item.truthy s.emptyIsTrue = false)
    (s.err s!"signed_group {i} is empty")) 0 items

/-- The reply of `/sign/assemble` in `request_assemble` and `requestAssemble`. -/
def Script.acceptAssembly (req : RawAssemblyRequest) (reply : Reply Json) : Except SdkError Json := do
  let data ← s.body s.assembleEndpoint reply
  mapErr (s.invalid "invalid assembly response: ") (s.validateAssemblyResponse data)
  failIf (s.comparesAssemblyId = true ∧ isText (data.get? "request_id") req.requestId = false)
    { text := "assembly response request_id does not match request" }
  pure data

/-- The test that a signed transaction is one of the canonical bytes. -/
def Script.matchesCanonical (label : String) (i : ℕ) (signed : Json) (canonicalHex : String) :
    Except SdkError Unit :=
  match s.signedText signed with
  | none => .error languageError
  | some text => s.dialect.matchesCanonical label i text canonicalHex

end Accept

namespace Python

/-- `isinstance(v, int)`, which a bool is. -/
def index : Json → Option ℤ
  | .int n => some n
  | .bool b => some (if b then 1 else 0)
  | _ => none

/-- Only a `ValueError` is caught. -/
def invalid (label : String) (e : SdkError) : SdkError :=
  if e.kind = .value then { text := label ++ e.text } else e

/-- `_validate_sign_request_id(str(v))`. -/
def checkId (env : Env) (conv : Coercions) : Option Json → Except SdkError Unit
  | none => .ok ()
  | some (.str id) => validateSignRequestId env id
  | some v => match conv.toText v with
    | some text => validateSignRequestId env text
    | none => .error languageError

/-- No component comes from anything but a list. -/
def componentItems (components : Option Json) : Except SdkError (List Json) := do
  failIf (isOff false components = true) (err "request_id and components are required")
  match components with
  | some (.arr xs) => .ok xs
  | _ => .error languageError

/-- The `/sign` reply in `sign_requests`. -/
def acceptSignBody (env : Env) (req : GroupSignRequest) (reply : Reply Json) : Except SdkError Json := do
  let data ← decodeReply signEndpoint reply
  failIf ((adapter env).hasMembers data = false) languageError
  checkSome (fun text => signerError text) (bodyError env false data)
  let signed ← signedItems (data.get? "signed")
  validateGroupSignResponse "Server" (fun v => !v.truthy false) SignRequest.isForeign req.requests signed
  pure data

def slot (data : Json) (i : ℕ) : Option Json :=
  match signedItems (data.get? "signed") with
  | .ok items => items[i]?
  | .error _ => none

def groupItems (group : Option Json) : Except SdkError (List Json) := do
  failIf (isOff false group = true) (err "signed_group is empty")
  items (group.getD .null)

mutual

/-- `_compact_payload`: members that are `None` are dropped. -/
def compact : Json → Json
  | .arr xs => .arr (compactItems xs)
  | .obj members =>
    let kept := compactMembers members
    .obj (kept.filter fun p => match (Json.obj kept).get? p.1 with
      | some .null => false
      | _ => true)
  | v => v

def compactItems : List Json → List Json
  | [] => []
  | x :: xs => compact x :: compactItems xs

def compactMembers : List (String × Json) → List (String × Json)
  | [] => []
  | (name, v) :: members => (name, compact v) :: compactMembers members

end

def script (env : Env) (conv : Coercions) : Script where
  env := env
  dialect := dialect env
  emptyIsTrue := false
  hasMembers := (adapter env).hasMembers
  componentEndpoint := componentEndpoint
  assembleEndpoint := assembleEndpoint
  err := err
  invalid := invalid
  index := index
  hasItems v := !isOff false v
  checkComponentId id := do
    checkId env conv id
    failIf (isOff false id = true) (err "request_id and components are required")
  componentItems := componentItems
  sameKinds actual expected := decide (sameKinds actual expected)
  acceptSign := acceptSignBody env
  slot := slot
  signedText
    | .str s => some s
    | _ => none
  checkAssemblyId := checkId env conv
  groupItems := groupItems
  comparesAssemblyId := true
  forwarded := compact
  baseSignatures := items
  mapping
    | .obj members => .ok (.obj members)
    | v => match conv.toMapping v with
      | some mapping => .ok mapping
      | none => .error languageError

end Python

namespace TypeScript

/-- The text of one UTF-16 code unit; half a pair is no character. -/
def unitText (unit : ℕ) : String :=
  String.singleton (if unit.isValidChar then Char.ofNat unit else Char.ofNat 0xFFFD)

/-- `v[i]` for a value of a body. -/
def element : Json → ℕ → Option Json
  | .arr xs, i => xs[i]?
  | .str s, i => (utf16Units s)[i]?.map fun unit => .str (unitText unit)
  | .obj members, i => (Json.obj members).get? (toString i)
  | _, _ => none

/-- How many elements a value can have. -/
def elementCount : Json → ℕ
  | .arr xs => xs.length
  | .str s => (utf16Units s).length
  | .obj members => members.length
  | _ => 0

/-- `v.length < n`. -/
def lengthBelow (conv : Coercions) (v : Json) (n : ℕ) : Except SdkError Bool :=
  match v with
  | .arr xs => .ok (xs.length < n)
  | .str s => .ok ((utf16Units s).length < n)
  | v => match conv.lengthBelow (v.get? "length") n with
    | some below => .ok below
    | none => .error languageError

/-- `n < v.length`. -/
def lengthAbove (conv : Coercions) (n : ℕ) (v : Json) : Except SdkError Bool :=
  match v with
  | .arr xs => .ok (n < xs.length)
  | .str s => .ok (n < (utf16Units s).length)
  | v => match conv.lengthAbove n (v.get? "length") with
    | some above => .ok above
    | none => .error languageError

/-- The loop over the slots behind those of the requests. It comes to a missing
one before the fuel is used up. -/
def checkDummies (conv : Coercions) (signed : Json) : ℕ → ℕ → Except SdkError Unit
  | 0, _ => .ok ()
  | fuel + 1, i => do
    let more ← lengthAbove conv i signed
    if more = false then .ok ()
    else do
      failIf (isOff true (element signed i) = true)
        { text := s!"Server returned empty dummy transaction at position {i + 1}" }
      checkDummies conv signed fuel (i + 1)

/-- `v.length` in a text. -/
def showLength (env : Env) : Json → String
  | .arr xs => toString xs.length
  | .str s => toString (utf16Units s).length
  | v => env.showJson ((v.get? "length").getD .null)

/-- `validateGroupSignResponse`, on whatever `signed` is. -/
def validateSigned (env : Env) (conv : Coercions) (requests : List SignRequest) (signed : Json) :
    Except SdkError Unit := do
  let short ← lengthBelow conv signed requests.length
  failIf (short = true)
    { text := s!"Server returned {showLength env signed} signed transaction(s), want at least {requests.length}" }
  forEach (fun i r => failIf (r.isForeign = false ∧ isOff true (element signed i) = true)
    { text := s!"Server returned no signature for position {i + 1}" }) 0 requests
  checkDummies conv signed (elementCount signed + 1) requests.length

/-- The `/sign` reply in `signRequests`. -/
def acceptSignBody (env : Env) (conv : Coercions) (req : GroupSignRequest) (reply : Reply Json) :
    Except SdkError Json := do
  let data ← decodeReply signEndpoint reply
  failIf ((adapter env).hasMembers data = false) languageError
  checkSome (fun text => signerError text) (bodyError env true data)
  validateSigned env conv req.requests ((coalesce (data.get? "signed") none).getD (.arr []))
  pure data

/-- `response.signed[i]`. -/
def slot (data : Json) (i : ℕ) : Option Json := (data.get? "signed").bind fun signed => element signed i

/-- `component.base_signatures?.length` as a condition. -/
def hasItems : Option Json → Bool
  | some (.arr xs) => !xs.isEmpty
  | some (.str s) => s != ""
  | some (.obj members) => !isOff true ((Json.obj members).get? "length")
  | _ => false

def componentItems : Option Json → Except SdkError (List Json)
  | some (.arr (x :: xs)) => .ok (x :: xs)
  | some (.arr []) => .error (err "components array is empty")
  | components =>
    -- nothing else has a `forEach`
    if hasItems components = true then .error languageError else .error (err "components array is empty")

/-- `validateSignRequestId` on any true value: an array passes if each of its
elements, as a text, is one character that may stand in an id. -/
def checkId (env : Env) (conv : Coercions) : Json → Except SdkError Unit
  | .str id => validateSignRequestId env id
  | v => do
    let long ← lengthAbove conv maxSignRequestIdLength v
    failIf (long = true) (err "request_id is too long")
    match v with
    | .arr xs => forEach (fun _ x => do
        let text ← match x, conv.toText x with
          | .str text, _ => pure text
          | _, some text => pure text
          | _, none => throw languageError
        failIf (text.length ≠ 1 ∨ text.toList.any (fun c => !isIdChar c) = true)
          (err ("request_id contains invalid character " ++ env.showJson x))) 0 xs
    | _ => .error languageError

def groupItems : Option Json → Except SdkError (List Json)
  | some (.arr (x :: xs)) => .ok (x :: xs)
  | some (.arr []) => .error (err "signed_group is empty")
  | group =>
    -- nothing else has a `forEach`
    if isOff true group = true then .error (err "signed_group is empty") else .error languageError

/-- `{ ...v }`. -/
def mapping (conv : Coercions) : Json → Except SdkError Json
  | .obj members => .ok (.obj members)
  | v => match conv.toMapping v with
    | some mapping => .ok mapping
    | none => .error languageError

/-- `[...v]`. -/
def spread : Json → Except SdkError (List Json)
  | .arr xs => .ok xs
  | .str s => .ok (s.toList.map fun c => .str c.toString)
  | _ => .error languageError

def script (env : Env) (conv : Coercions) : Script where
  env := env
  dialect := dialect env
  emptyIsTrue := true
  hasMembers := (adapter env).hasMembers
  componentEndpoint := componentEndpoint
  assembleEndpoint := assembleEndpoint
  err := err
  invalid label e := { text := label ++ e.text }
  index := Json.integer?
  hasItems := hasItems
  checkComponentId id := do
    failIf (isOff true id = true) (err "request_id is required")
    checkId env conv (id.getD .null)
  componentItems := componentItems
  sameKinds actual expected :=
    expected.size == actual.size && expected.all fun p => actual.at p.1 == expected.at p.1
  acceptSign := acceptSignBody env conv
  slot := slot
  signedText
    | .str s => some s
    | .arr [] => some ""
    | _ => none
  checkAssemblyId id := checkId env conv (id.getD .null)
  groupItems := groupItems
  comparesAssemblyId := false
  forwarded := id
  baseSignatures := spread
  mapping := mapping conv

end TypeScript

/-! ### What the two have in common -/

structure Script.Lawful (s : Script) : Prop where
  dialect : s.dialect.Lawful
  sameKinds : ∀ {a b : KindMap}, (a.map Prod.fst).Nodup → (b.map Prod.fst).Nodup →
    (s.sameKinds a b = true ↔ a.Perm b)
  sign : ∀ {req reply body}, s.acceptSign req reply = .ok body → reply.okBody = some body
  forwarded : ∀ text, s.forwarded (.str text) = .str text

section Lawful

variable {s : Script}

theorem Script.checkComponents_ok {n : ℕ} {components : List RawComponent} {claimed : List ℤ}
    (h : s.checkComponents n components = .ok claimed) : (components.map (·.targetIndex)).Nodup := by
  have hcheck : ∀ (k : ℕ) (claimed : List ℤ) (c : RawComponent), (do
      failIf (s.hasMembers c.body = false) languageError
      failIf (c.targetIndex < 0 ∨ c.targetIndex ∈ claimed)
        (s.err s!"component {k + 1} has invalid or duplicate target_index")
      failIf ((n : ℤ) ≤ c.targetIndex) (s.err s!"component {k + 1} target_index is outside the frozen group")
      s.checkMaterial k c) = .ok () ↔
        ((0 ≤ c.targetIndex ∧ c.targetIndex < n) ∧ c.targetIndex ∉ claimed) ∧
          s.hasMembers c.body = true ∧ s.checkMaterial k c = .ok () := by
    intro k claimed c
    simp only [seq_eq_ok, failIf_ok, not_or, Int.not_lt, Int.not_le, Bool.not_eq_false]
    tauto
  exact ((claimAll_ok (R := fun i => 0 ≤ i ∧ i < (n : ℤ))
    (E := fun k c => s.hasMembers c.body = true ∧ s.checkMaterial k c = .ok ()) hcheck).mp h).2.2.1

theorem Script.body_ok {endpoint : Endpoint} {reply : Reply Json} {data : Json}
    (h : s.body endpoint reply = .ok data) : reply.okBody = some data := by
  obtain ⟨data', hdata, h⟩ := bind_eq_ok.mp h
  obtain ⟨-, h⟩ := seq_eq_ok.mp h
  obtain ⟨-, h⟩ := seq_eq_ok.mp h
  cases h
  exact decodeReply_ok.mp hdata

/-- An accepted component response echoes the id and has a component for each
target, of its kind, and no others. -/
theorem Script.acceptComponents_ok (hs : s.Lawful) {req : ComponentRequest}
    (hreq : (req.targets.map (·.targetIndex)).Nodup) {reply : Reply Json} {resp : RawComponentResponse}
    (h : s.acceptComponents req reply = .ok resp) :
    (∃ data, reply.okBody = some data ∧ isText (data.get? "request_id") req.requestId = true) ∧
      resp.requestId = req.requestId ∧ resp.kinds.Perm req.kinds := by
  obtain ⟨data, hbody, h⟩ := bind_eq_ok.mp h
  obtain ⟨components, hvalid, h⟩ := bind_eq_ok.mp h
  obtain ⟨hid, h⟩ := seq_eq_ok.mp h
  obtain ⟨hkinds, h⟩ := seq_eq_ok.mp h
  cases h
  obtain ⟨-, hvalid⟩ := seq_eq_ok.mp (mapErr_ok.mp hvalid)
  obtain ⟨bodies, -, hvalid⟩ := bind_eq_ok.mp hvalid
  obtain ⟨claimed, hclaimed, hcomponents⟩ := bind_eq_ok.mp hvalid
  cases hcomponents
  have hnodup := Script.checkComponents_ok hclaimed
  rw [failIf_ok, Bool.not_eq_false] at hid hkinds
  refine ⟨⟨data, Script.body_ok hbody, hid⟩, rfl, (hs.sameKinds ?_ ?_).mp hkinds⟩
  · simpa [RawComponentResponse.kinds, Function.comp_def] using hnodup
  · rwa [ComponentRequest.keys_kinds]

end Lawful

namespace Python

theorem lawful_script (env : Env) (conv : Coercions) : (script env conv).Lawful where
  dialect := lawful_dialect env
  sameKinds ha hb := decide_eq_true_iff.trans (KindMap.sameKinds_iff ha hb)
  sign h := by
    obtain ⟨data, hbody, h⟩ := bind_eq_ok.mp h
    obtain ⟨-, h⟩ := seq_eq_ok.mp h
    obtain ⟨-, h⟩ := seq_eq_ok.mp h
    obtain ⟨signed, -, h⟩ := bind_eq_ok.mp h
    obtain ⟨-, h⟩ := seq_eq_ok.mp h
    cases h
    exact decodeReply_ok.mp hbody
  forwarded _ := by simp [script, compact]

end Python

namespace TypeScript

theorem lawful_script (env : Env) (conv : Coercions) : (script env conv).Lawful where
  dialect := lawful_dialect env
  sameKinds ha hb := by
    rw [← KindMap.size_and_at_iff ha hb]
    simp [script]
  sign h := by
    obtain ⟨data, hbody, h⟩ := bind_eq_ok.mp h
    obtain ⟨-, h⟩ := seq_eq_ok.mp h
    obtain ⟨-, h⟩ := seq_eq_ok.mp h
    obtain ⟨-, h⟩ := seq_eq_ok.mp h
    cases h
    exact decodeReply_ok.mp hbody
  forwarded _ := rfl

end TypeScript

/-! ### A signed transaction that was compared -/

/-- What passed the comparison is a text. -/
def Script.ReadsTexts (s : Script) : Prop :=
  ∀ {label i v c}, s.matchesCanonical label i v c = .ok () → ∃ text, v = .str text

theorem Python.readsTexts (env : Env) (conv : Coercions) : (Python.script env conv).ReadsTexts := by
  intro label i v c h
  cases v with
  | str text => exact ⟨text, rfl⟩
  | _ => cases h

/-- An empty array reads as no bytes, which are no signed transaction. -/
theorem TypeScript.readsTexts {env : Env} (hempty : ∀ txn, env.decodeSigned [] ≠ .ok (some txn))
    (conv : Coercions) : (TypeScript.script env conv).ReadsTexts := by
  intro label i v c h
  cases v with
  | str text => exact ⟨text, rfl⟩
  | arr xs =>
    cases xs with
    | nil =>
      obtain ⟨txn, htxn, -⟩ := bind_eq_ok.mp h
      have hinner : (TypeScript.codec env).inner "" = some txn := decodeSignedWith_ok.mp htxn
      have hnone : (TypeScript.codec env).unhex "" = some [] := by
        simp [codec, hexDecode, unhexChars]
      simp only [Codec.inner, hnone] at hinner
      cases hdecoded : env.decodeSigned [] with
      | error why =>
        rw [show (codec env).sdk.decodeSigned [] = _ from hdecoded] at hinner
        cases hinner
      | ok txn' =>
        rw [show (codec env).sdk.decodeSigned [] = _ from hdecoded] at hinner
        exact absurd (hdecoded.trans (congrArg Except.ok hinner)) (hempty txn)
    | cons x xs => cases h
  | _ => cases h

namespace Demo

/-- JavaScript's comparison of a missing `length`, and of one that is a number. -/
def coercions : Coercions where
  lengthBelow v n := match v with
    | some (.int k) => some (k < n)
    | _ => some false
  lengthAbove n v := match v with
    | some (.int k) => some ((n : ℤ) < k)
    | _ => some false
  toText v := match v with
    | .int k => some (toString k)
    | _ => none
  toMapping _ := none

/-- A body with one component. -/
def componentsBody (id : String) (index : Json) (kind : String) : Json :=
  .obj [("request_id", .str id), ("components", .arr [.obj [("target_index", index), ("kind", .str kind),
    ("signature", .str "cc"), ("signature_scheme", .str "ed25519")]])]

end Demo

end AplaneSdk
