/-
# `/sign/component`: what the SDKs send and what they accept

The three validators of a component request walk in different orders and say
different things, but decide the same predicate, `ComponentRequestOk`; the
three acceptors of a response decide `ComponentsMatch`, an exact match of the
components with the targets of the request.

Key definitions: `Go.validateComponentRequest`,
`Python.validateComponentRequest`, `TypeScript.validateComponentRequest`,
`acceptComponents` of each SDK, `ComponentRequestOk`, `ComponentsMatch`.
Key theorems: `Go.validateComponentRequest_ok`,
`Python.validateComponentRequest_ok`, `TypeScript.validateComponentRequest_ok`,
`Go.acceptComponents_ok`, `Python.acceptComponents_ok`,
`TypeScript.acceptComponents_ok`.
-/
import Mathlib.Data.List.Dedup
import AplaneSdk.Lib.Grouping
import AplaneSdk.Requests

namespace AplaneSdk

open Checks

/-! ### Requests -/

/-- A free index below `n`. -/
def claimIndex (bad : SdkError) (n : ℕ) (claimed : List ℤ) (i : ℤ) : Except SdkError Unit :=
  failIf (i < 0 ∨ n ≤ i ∨ i ∈ claimed) bad

/-- What the kind of a target allows. `hasArgs` is how the language tests
`lsig_args`, `shown` how it prints an unsupported kind. -/
def checkTargetKind (err : String → SdkError) (shown : String → String)
    (hasArgs : Option (List (String × String)) → Bool) (targets : List ComponentTarget) (k : ℕ)
    (t : ComponentTarget) : Except SdkError Unit := do
  failIf (some t.kind ≠ targets.head?.map (·.kind))
    (err "mixed component target kinds are not supported")
  match t.kind with
  | .user =>
    failIf (t.authAddress = "" ∨ t.componentKey ≠ "" ∨ hasArgs t.lsigArgs = true)
      (err s!"target {k + 1}: user target requires only auth_address")
    failIf (0 < k ∧ some t.authAddress ≠ targets.head?.map (·.authAddress))
      (err "user targets must share one auth_address")
  | .cosigner =>
    failIf (t.authAddress ≠ "" ∨ hasArgs t.lsigArgs = true)
      (err s!"target {k + 1}: cosigner target forbids auth_address and lsig_args")
    failIf (0 < k ∧ some t.componentKey ≠ targets.head?.map (·.componentKey))
      (err "cosigner targets must share one component_key")
  | .boundedBase =>
    failIf (t.authAddress = "" ∨ t.componentKey ≠ "")
      (err s!"target {k + 1}: bounded-base target requires auth_address and forbids component_key")
  | .other name => .error (err (s!"target {k + 1}: unsupported component kind" ++ shown name))

/-- The first original position nobody claimed. -/
def checkCovered (err : String → SdkError) (n : ℕ) (claimed : List ℤ) : Except SdkError Unit :=
  match uncovered n claimed with
  | some i => .error (err s!"original group position {i} is not covered")
  | none => .ok ()

/-- The dummies are the positions from `n` on, in order. -/
def checkDummySuffix (err : String → SdkError) (n : ℕ) (dummies : List ComponentDummyPosition) :
    Except SdkError Unit :=
  forEach (fun offset d => failIf (d.targetIndex ≠ ((n + offset : ℕ) : ℤ))
    (err s!"dummy position {offset + 1} is not in the contiguous suffix")) 0 dummies

def ComponentRequest.originalCount (r : ComponentRequest) : ℕ :=
  r.groupBytesHex.length - r.dummyPositions.length

/-- The walk over the targets: a free index each, then the target itself. -/
def claimTargets (err : String → SdkError) (checkTarget : ℕ → ComponentTarget → Except SdkError Unit)
    (r : ComponentRequest) : Except SdkError (List ℤ) :=
  claimAll (·.targetIndex) (fun k claimed t => do
    claimIndex (err s!"target {k + 1} has invalid, duplicate, or overlapping target_index")
      r.originalCount claimed t.targetIndex
    checkTarget k t) 0 [] r.targets

/-- The walk over the contextual positions, after the targets. -/
def claimContexts (err : String → SdkError)
    (checkContext : ℕ → ComponentContextPosition → Except SdkError Unit) (r : ComponentRequest)
    (claimed : List ℤ) : Except SdkError (List ℤ) :=
  claimAll (·.targetIndex) (fun k claimed p => do
    claimIndex (err s!"contextual position {k + 1} has invalid, duplicate, or overlapping target_index")
      r.originalCount claimed p.targetIndex
    checkContext k p) 0 claimed r.contextualPositions

/-- The exact cover, as Go and Python check it. -/
def checkCover (err : String → SdkError) (checkTarget : ℕ → ComponentTarget → Except SdkError Unit)
    (checkContext : ℕ → ComponentContextPosition → Except SdkError Unit) (r : ComponentRequest) :
    Except SdkError Unit := do
  let claimed ← claimTargets err checkTarget r
  let claimed ← claimContexts err checkContext r claimed
  checkCovered err r.originalCount claimed
  checkDummySuffix err r.originalCount r.dummyPositions

/-- The head of the Go and Python validators. -/
def checkCounts (err : String → SdkError) (r : ComponentRequest) : Except SdkError Unit := do
  validateComponentGroupBytes err r.groupBytesHex
  failIf (r.targets = [] ∨ r.groupBytesHex.length < r.dummyPositions.length)
    (err "targets are required and dummy_positions cannot exceed group length")

/-- `len(args) != 0`, and Python's truth of the mapping. -/
def hasSomeArgs (args : Option (List (String × String))) : Bool := args.getD [] != []

namespace Go

/-- The probe `SignRequest` Go validates for a contextual position. -/
def contextProbe (p : ComponentContextPosition) : SignRequest where
  txnBytesHex := "frozen"
  lsigResources := p.lsigResources
  pqScheme := p.pqScheme

def checkContext (env : Env) (k : ℕ) (p : ComponentContextPosition) : Except SdkError Unit := do
  let _ ← mapErr (SdkError.wrap s!"contextual position {k + 1}: ")
    (validateSignRequest env (contextProbe p))
  pure ()

/-- `ComponentRequest.Validate`. -/
def validateComponentRequest (env : Env) (r : ComponentRequest) : Except SdkError Unit := do
  validateSignRequestId env r.requestId
  checkCounts err r
  checkCover err (checkTargetKind err (fun name => " " ++ env.quote name) hasSomeArgs r.targets)
    (checkContext env) r

end Go

namespace Python

/-- The contextual part of `_validate_bounded_component_request`. -/
def checkContext (env : Env) (k : ℕ) (p : ComponentContextPosition) : Except SdkError Unit := do
  failIf (p.lsigResources.isSome ∧ p.pqScheme ≠ "")
    (err s!"contextual position {k + 1} cannot specify both lsig_resources and pq_scheme")
  checkSome (validateLsigResources err s!"contextual position {k + 1}") p.lsigResources
  failIf (p.pqScheme ≠ "" ∧ p.pqScheme ≠ pqSchemeFalcon1024)
    (err s!"contextual position {k + 1} has unsupported pq_scheme {env.quote p.pqScheme}")

/-- `_validate_bounded_component_request`, on the fields it reads. -/
def validateBoundedComponentRequest (env : Env) (r : ComponentRequest) : Except SdkError Unit := do
  validateSignRequestId env r.requestId
  checkCounts err r
  checkCover err (fun k t => failIf (t.authAddress = "") (err s!"target {k + 1}: auth_address is required"))
    (checkContext env) r

/-- The probe `_validate_component_request` hands on: an absent address reads `target`. -/
def boundedProbe (r : ComponentRequest) : ComponentRequest :=
  { r with targets := r.targets.map fun t =>
      { targetIndex := t.targetIndex, kind := t.kind,
        authAddress := if t.authAddress ≠ "" then t.authAddress else "target" } }

/-- `_validate_component_request`. -/
def validateComponentRequest (env : Env) (r : ComponentRequest) : Except SdkError Unit := do
  validateSignRequestId env r.requestId
  checkCounts err r
  let _ ← claimTargets err (checkTargetKind err (fun name => " " ++ env.quote name) hasSomeArgs r.targets) r
  validateBoundedComponentRequest env (boundedProbe r)

end Python

namespace TypeScript

def checkContext (k : ℕ) (p : ComponentContextPosition) : Except SdkError Unit := do
  failIf (p.lsigResources.isSome ∧ p.pqScheme ≠ "")
    (err s!"contextual position {k + 1} cannot specify both lsig_resources and pq_scheme")
  checkSome (validateLsigResources err s!"contextual position {k + 1}") p.lsigResources
  failIf (p.pqScheme ≠ "" ∧ p.pqScheme ≠ pqSchemeFalcon1024)
    (err s!"contextual position {k + 1} has unsupported pq_scheme")

/-- `validateComponentRequest`: kinds first, then the indices of targets and
contextual positions in one walk. -/
def validateComponentRequest (env : Env) (r : ComponentRequest) : Except SdkError Unit := do
  failIf (r.targets = []) (err "targets are required")
  forEach (checkTargetKind err (fun _ => "") Option.isSome r.targets) 0 r.targets
  validateSignRequestId env r.requestId
  validateComponentGroupBytes err r.groupBytesHex
  failIf (r.groupBytesHex.length < r.dummyPositions.length)
    (err "dummy_positions cannot exceed group length")
  let n := r.originalCount
  let claimed ← claimAll id (fun k claimed i =>
    claimIndex (err s!"position {k + 1} has invalid, duplicate, or overlapping target_index") n claimed i)
    0 [] (r.targets.map (·.targetIndex) ++ r.contextualPositions.map (·.targetIndex))
  forEach checkContext 0 r.contextualPositions
  checkCovered err n claimed
  checkDummySuffix err n r.dummyPositions

end TypeScript

/-! ### Responses -/

/-- The material a component must and must not carry. -/
def Component.WellFormed (c : Component) : Prop :=
  match c.kind with
  | .user | .cosigner =>
    c.signature ≠ "" ∧ c.signatureScheme ≠ "" ∧ c.baseSignatures = [] ∧ c.assemblyReceipt = ""
  | .boundedBase =>
    c.authAddress ≠ "" ∧ c.baseSignatures ≠ [] ∧ c.assemblyReceipt ≠ "" ∧ c.signatureScheme ≠ "" ∧
      c.signature = ""
  | .other _ => False

/-- The material checks of one component. -/
def checkMaterial (err : String → SdkError) (shown : String → String) (k : ℕ) (c : Component) :
    Except SdkError Unit :=
  match c.kind with
  | .user | .cosigner =>
    failIf (c.signature = "" ∨ c.signatureScheme = "" ∨ c.baseSignatures ≠ [] ∨ c.assemblyReceipt ≠ "")
      (err s!"component {k + 1} has invalid signature material")
  | .boundedBase =>
    failIf (c.authAddress = "" ∨ c.baseSignatures = [] ∨ c.assemblyReceipt = "" ∨
        c.signatureScheme = "" ∨ c.signature ≠ "")
      (err s!"component {k + 1} has invalid bounded-base material")
  | .other name => .error (err (s!"component {k + 1} has unsupported kind" ++ shown name))

/-- A map from index to kind, built pair by pair. -/
abbrev KindMap := List (ℤ × ComponentTargetKind)

def KindMap.at (m : KindMap) (i : ℤ) : Option ComponentTargetKind := List.lookup i m.reverse

def KindMap.size (m : KindMap) : ℕ := (m.map Prod.fst).dedup.length

def ComponentRequest.kinds (r : ComponentRequest) : KindMap :=
  r.targets.map fun t => (t.targetIndex, t.kind)

def ComponentResponse.kinds (r : ComponentResponse) : KindMap :=
  r.components.map fun c => (c.targetIndex, c.kind)

def mismatchText : String := "component response target indices or kinds do not match request"

namespace Go

/-- `ComponentResponse.Validate`. -/
def validateComponentResponse (env : Env) (resp : ComponentResponse) : Except SdkError Unit := do
  requireId err resp.requestId
  validateSignRequestId env resp.requestId
  failIf (resp.components = []) (err "components array is empty")
  let _ ← claimAll (·.targetIndex) (fun k claimed c => do
    failIf (c.targetIndex < 0 ∨ c.targetIndex ∈ claimed)
      (err s!"component {k + 1} has invalid or duplicate target_index")
    checkMaterial err (fun name => " " ++ env.quote name) k c) 0 [] resp.components
  pure ()

/-- `ComponentResponse.ValidateForRequest`. -/
def validateForRequest (env : Env) (req : ComponentRequest) (resp : ComponentResponse) :
    Except SdkError Unit := do
  validateComponentResponse env resp
  failIf (resp.components.length ≠ req.kinds.size) (err mismatchText)
  -- an index the request does not have reads as the empty kind
  forEach (fun _ c => failIf ((req.groupBytesHex.length : ℤ) ≤ c.targetIndex ∨
    (req.kinds.at c.targetIndex).getD (.other "") ≠ c.kind) (err mismatchText)) 0 resp.components

/-- The reply of `/sign/component` in `RequestComponentsWithContext`. -/
def acceptComponents (env : Env) (req : ComponentRequest) (reply : Reply ComponentResponse) :
    Except SdkError ComponentResponse := do
  let resp ← decodeReply (componentEndpoint "failed to decode component response: " env) reply
  mapErr (SdkError.wrap "invalid component response: ") (validateForRequest env req resp)
  failIf (resp.requestId ≠ req.requestId) (err "component response request_id does not match request")
  pure resp

end Go

/-- The component walk of Python and TypeScript, which also bounds the index. -/
def checkComponents (err : String → SdkError) (n : ℕ) (components : List Component) :
    Except SdkError (List ℤ) :=
  claimAll (·.targetIndex) (fun k claimed c => do
    failIf (c.targetIndex < 0 ∨ c.targetIndex ∈ claimed)
      (err s!"component {k + 1} has invalid or duplicate target_index")
    failIf ((n : ℤ) ≤ c.targetIndex) (err s!"component {k + 1} target_index is outside the frozen group")
    checkMaterial err (fun _ => "") k c) 0 [] components

namespace Python

/-- `_validate_component_response`. -/
def validateComponentResponse (env : Env) (req : ComponentRequest) (resp : ComponentResponse) :
    Except SdkError Unit := do
  validateSignRequestId env resp.requestId
  failIf (resp.requestId = "" ∨ resp.components = []) (err "request_id and components are required")
  let _ ← checkComponents err req.groupBytesHex.length resp.components
  pure ()

/-- `actual != expected` on dictionaries. -/
def sameKinds (actual expected : KindMap) : Prop :=
  ∀ i ∈ actual.map Prod.fst ++ expected.map Prod.fst, actual.at i = expected.at i

instance (actual expected : KindMap) : Decidable (sameKinds actual expected) := by
  unfold sameKinds
  infer_instance

/-- The reply of `/sign/component` in `request_components`. -/
def acceptComponents (env : Env) (req : ComponentRequest) (reply : Reply ComponentResponse) :
    Except SdkError ComponentResponse := do
  let resp ← decodeReply componentEndpoint reply
  failIf (resp.error ≠ "") { text := resp.error }
  mapErr (fun e => { text := "invalid component response: " ++ e.text })
    (validateComponentResponse env req resp)
  failIf (resp.requestId ≠ req.requestId) { text := "component response request_id does not match request" }
  failIf (¬ sameKinds resp.kinds req.kinds) { text := mismatchText }
  pure resp

end Python

namespace TypeScript

/-- `validateComponentResponse`. -/
def validateComponentResponse (env : Env) (req : ComponentRequest) (resp : ComponentResponse) :
    Except SdkError Unit := do
  requireId err resp.requestId
  validateSignRequestId env resp.requestId
  failIf (resp.components = []) (err "components array is empty")
  let _ ← checkComponents err req.groupBytesHex.length resp.components
  pure ()

/-- The reply of `/sign/component` in `requestComponents`. -/
def acceptComponents (env : Env) (req : ComponentRequest) (reply : Reply ComponentResponse) :
    Except SdkError ComponentResponse := do
  let resp ← decodeReply componentEndpoint reply
  failIf (resp.error ≠ "") { text := resp.error }
  mapErr (SdkError.wrap "invalid component response: ") (validateComponentResponse env req resp)
  failIf (resp.requestId ≠ req.requestId) { text := "component response request_id does not match request" }
  failIf (req.kinds.size ≠ resp.kinds.size ∨
    ∃ p ∈ req.kinds, resp.kinds.at p.1 ≠ req.kinds.at p.1) { text := mismatchText }
  pure resp

end TypeScript

/-! ### What the request validators decide -/

/-- What `checkTargetKind` asks of the target at position `k`. -/
def TargetKindOk (hasArgs : Option (List (String × String)) → Bool) (targets : List ComponentTarget)
    (k : ℕ) (t : ComponentTarget) : Prop :=
  some t.kind = targets.head?.map (·.kind) ∧
    match t.kind with
    | .user => (t.authAddress ≠ "" ∧ t.componentKey = "" ∧ hasArgs t.lsigArgs = false) ∧
        (0 < k → some t.authAddress = targets.head?.map (·.authAddress))
    | .cosigner => (t.authAddress = "" ∧ hasArgs t.lsigArgs = false) ∧
        (0 < k → some t.componentKey = targets.head?.map (·.componentKey))
    | .boundedBase => t.authAddress ≠ "" ∧ t.componentKey = ""
    | .other _ => False

theorem checkTargetKind_ok {err : String → SdkError} {shown : String → String}
    {hasArgs : Option (List (String × String)) → Bool} {targets : List ComponentTarget} {k : ℕ}
    {t : ComponentTarget} {u : Unit} :
    checkTargetKind err shown hasArgs targets k t = .ok u ↔ TargetKindOk hasArgs targets k t := by
  unfold checkTargetKind TargetKindOk
  rw [seq_eq_ok, failIf_ok, not_not]
  refine and_congr_right fun _ => ?_
  cases t.kind with
  | user => simp [not_or]
  | cosigner => simp [not_or]
  | boundedBase => simp [not_or]
  | other name => simp

/-- A contextual position declares at most one envelope, and a legal one. -/
def ContextOk (p : ComponentContextPosition) : Prop :=
  (p.lsigResources.isSome → p.pqScheme = "") ∧ (∀ r, p.lsigResources = some r → r.inBounds) ∧
    (p.pqScheme ≠ "" → p.pqScheme = pqSchemeFalcon1024)

theorem Python.checkContext_ok {env : Env} {k : ℕ} {p : ComponentContextPosition} {u : Unit} :
    Python.checkContext env k p = .ok u ↔ ContextOk p := by
  unfold Python.checkContext ContextOk
  cases p.lsigResources <;> simp [validateLsigResources_ok]

theorem TypeScript.checkContext_ok {k : ℕ} {p : ComponentContextPosition} {u : Unit} :
    TypeScript.checkContext k p = .ok u ↔ ContextOk p := by
  unfold TypeScript.checkContext ContextOk
  cases p.lsigResources <;> simp [validateLsigResources_ok]

theorem Go.checkContext_ok {env : Env} {k : ℕ} {p : ComponentContextPosition} {u : Unit} :
    Go.checkContext env k p = .ok u ↔ ContextOk p := by
  have hmode : signRequestMode Go.err (Go.contextProbe p) = .ok .foreign := rfl
  have hentry : EntryOk (Go.contextProbe p) .foreign ↔ ContextOk p := by
    simp only [EntryOk, ContextOk, Go.contextProbe]
    cases p.lsigResources <;> simp
    tauto
  rw [← hentry, Go.checkContext]
  simp only [bind_eq_ok, mapErr_ok, Go.validateSignRequest_ok, hmode, Except.ok.injEq, pure_eq_ok,
    and_true, exists_eq_left']

/-- What all three validators ask of a component request, apart from its id. -/
structure ComponentRequestOk (hasArgs : Option (List (String × String)) → Bool)
    (r : ComponentRequest) : Prop where
  bytes : GroupBytesOk r.groupBytesHex
  targets_ne : r.targets ≠ []
  dummies_le : r.dummyPositions.length ≤ r.groupBytesHex.length
  range : ∀ i ∈ r.targets.map (·.targetIndex) ++ r.contextualPositions.map (·.targetIndex),
    0 ≤ i ∧ i < r.originalCount
  nodup : (r.targets.map (·.targetIndex) ++ r.contextualPositions.map (·.targetIndex)).Nodup
  cover : ∀ i < r.originalCount,
    (i : ℤ) ∈ r.targets.map (·.targetIndex) ++ r.contextualPositions.map (·.targetIndex)
  kinds : ∀ k t, r.targets[k]? = some t → TargetKindOk hasArgs r.targets k t
  context : ∀ p ∈ r.contextualPositions, ContextOk p
  suffix : ∀ k d, r.dummyPositions[k]? = some d → d.targetIndex = ((r.originalCount + k : ℕ) : ℤ)

theorem claimIndex_ok {bad : SdkError} {n : ℕ} {claimed : List ℤ} {i : ℤ} {u : Unit} :
    claimIndex bad n claimed i = .ok u ↔ (0 ≤ i ∧ i < n) ∧ i ∉ claimed := by
  rw [claimIndex, failIf_ok, not_or, not_or, Int.not_lt, Int.not_le, and_assoc]

theorem checkCovered_ok {err : String → SdkError} {n : ℕ} {claimed : List ℤ} {u : Unit} :
    checkCovered err n claimed = .ok u ↔ ∀ i < n, (i : ℤ) ∈ claimed := by
  rw [← uncovered_eq_none, checkCovered]
  cases uncovered n claimed <;> simp

theorem checkDummySuffix_ok {err : String → SdkError} {n : ℕ}
    {dummies : List ComponentDummyPosition} {u : Unit} :
    checkDummySuffix err n dummies = .ok u ↔
      ∀ k d, dummies[k]? = some d → d.targetIndex = ((n + k : ℕ) : ℤ) := by
  simp only [checkDummySuffix, forEach_ok, failIf_ok, not_not, Nat.zero_add]

theorem checkCover_ok {err : String → SdkError}
    {checkTarget : ℕ → ComponentTarget → Except SdkError Unit}
    {checkContext : ℕ → ComponentContextPosition → Except SdkError Unit}
    (hctx : ∀ k p, checkContext k p = .ok () ↔ ContextOk p) {r : ComponentRequest} {u : Unit} :
    checkCover err checkTarget checkContext r = .ok u ↔
      (∀ i ∈ r.targets.map (·.targetIndex) ++ r.contextualPositions.map (·.targetIndex),
        0 ≤ i ∧ i < (r.originalCount : ℤ)) ∧
      (r.targets.map (·.targetIndex) ++ r.contextualPositions.map (·.targetIndex)).Nodup ∧
      (∀ i < r.originalCount,
        (i : ℤ) ∈ r.targets.map (·.targetIndex) ++ r.contextualPositions.map (·.targetIndex)) ∧
      (∀ k t, r.targets[k]? = some t → checkTarget k t = .ok ()) ∧
      (∀ p ∈ r.contextualPositions, ContextOk p) ∧
      ∀ k d, r.dummyPositions[k]? = some d → d.targetIndex = ((r.originalCount + k : ℕ) : ℤ) := by
  have htargets : ∀ {out}, claimTargets err checkTarget r = .ok out ↔ _ := fun {out} =>
    claimAll_ok (R := fun i => 0 ≤ i ∧ i < (r.originalCount : ℤ))
      (E := fun k t => checkTarget k t = .ok ()) fun k claimed t => by rw [seq_eq_ok, claimIndex_ok]
  have hcontexts : ∀ {claimed out}, claimContexts err checkContext r claimed = .ok out ↔ _ :=
    fun {claimed out} =>
    claimAll_ok (R := fun i => 0 ≤ i ∧ i < (r.originalCount : ℤ))
      (E := fun _ p => ContextOk p) fun k claimed p => by rw [seq_eq_ok, claimIndex_ok, hctx]
  simp only [checkCover, seq_eq_ok, bind_eq_ok (α := List ℤ), checkCovered_ok, checkDummySuffix_ok,
    htargets, hcontexts]
  simp only [Nat.zero_add, forall_getElem? (P := ContextOk), List.append_nil, List.not_mem_nil, not_false_eq_true, and_true,
    List.nodup_append', List.disjoint_left]
  constructor
  · rintro ⟨_, ⟨rfl, h1, h2, h3⟩, _, ⟨rfl, h4, h5, h6⟩, h7, h8⟩
    refine ⟨fun i hi => ?_, ⟨h2, h5, fun a ha hb => (h4 a hb).2 (by simpa using ha)⟩,
      fun i hi => ?_, h3, h6, h8⟩
    · rcases List.mem_append.mp hi with hi | hi
      · exact h1 i hi
      · exact (h4 i hi).1
    · have := h7 i hi
      rw [List.mem_append, List.mem_reverse, List.mem_reverse] at this
      exact List.mem_append.mpr this.symm
  · rintro ⟨h1, ⟨h2, h3, h4⟩, h5, h6, h7, h8⟩
    refine ⟨_, ⟨rfl, fun i hi => h1 i (List.mem_append_left _ hi), h2, h6⟩, _,
      ⟨rfl, fun i hi => ⟨h1 i (List.mem_append_right _ hi), fun ht => h4 (by simpa using ht) hi⟩, h3, h7⟩,
      fun i hi => ?_, h8⟩
    rw [List.mem_append, List.mem_reverse, List.mem_reverse]
    exact (List.mem_append.mp (h5 i hi)).symm

theorem checkCounts_ok {err : String → SdkError} {r : ComponentRequest} {u : Unit} :
    checkCounts err r = .ok u ↔ GroupBytesOk r.groupBytesHex ∧ r.targets ≠ [] ∧
      r.dummyPositions.length ≤ r.groupBytesHex.length := by
  simp only [checkCounts, seq_eq_ok, validateComponentGroupBytes_ok, failIf_ok, not_or, not_lt, ne_eq]

theorem Go.validateComponentRequest_ok {env : Env} {r : ComponentRequest} {u : Unit} :
    Go.validateComponentRequest env r = .ok u ↔
      ValidRequestId r.requestId ∧ ComponentRequestOk hasSomeArgs r := by
  rw [Go.validateComponentRequest, seq_eq_ok, seq_eq_ok, Go.validateSignRequestId_ok,
    checkCounts_ok, checkCover_ok fun _ _ => Go.checkContext_ok]
  simp only [checkTargetKind_ok]
  refine and_congr_right fun _ => ⟨?_, ?_⟩
  · rintro ⟨⟨h1, h2, h3⟩, h4, h5, h6, h7, h8, h9⟩
    exact ⟨h1, h2, h3, h4, h5, h6, h7, h8, h9⟩
  · rintro ⟨h1, h2, h3, h4, h5, h6, h7, h8, h9⟩
    exact ⟨⟨h1, h2, h3⟩, h4, h5, h6, h7, h8, h9⟩

/-- The probe keeps every index and has no empty address. -/
theorem Python.boundedProbe_indices (r : ComponentRequest) :
    (Python.boundedProbe r).targets.map (·.targetIndex) = r.targets.map (·.targetIndex) := by
  simp [Python.boundedProbe, Function.comp_def]

theorem Python.boundedProbe_address {r : ComponentRequest} {k : ℕ} {t : ComponentTarget}
    (h : (Python.boundedProbe r).targets[k]? = some t) : t.authAddress ≠ "" := by
  simp only [Python.boundedProbe, List.getElem?_map, Option.map_eq_some_iff] at h
  obtain ⟨t', -, rfl⟩ := h
  dsimp only
  split
  · assumption
  · decide

theorem Python.validateComponentRequest_ok {env : Env} {r : ComponentRequest} {u : Unit} :
    Python.validateComponentRequest env r = .ok u ↔
      Python.validateSignRequestId env r.requestId = .ok () ∧ ComponentRequestOk hasSomeArgs r := by
  have htargets : ∀ {check : ℕ → ComponentTarget → Except SdkError Unit} {out},
      claimTargets Python.err check r = .ok out ↔ _ := fun {check out} =>
    claimAll_ok (R := fun i => 0 ≤ i ∧ i < (r.originalCount : ℤ))
      (E := fun k t => check k t = .ok ()) fun k claimed t => by rw [seq_eq_ok, claimIndex_ok]
  have hcount : (Python.boundedProbe r).originalCount = r.originalCount := rfl
  simp only [Python.validateComponentRequest, Python.validateBoundedComponentRequest, seq_eq_ok,
    bind_eq_ok (α := List ℤ), checkCounts_ok, htargets,
    checkCover_ok fun _ _ => Python.checkContext_ok, Python.boundedProbe_indices, hcount, failIf_ok,
    checkTargetKind_ok, Nat.zero_add]
  constructor
  · rintro ⟨hid, ⟨h1, h2, h3⟩, _, ⟨-, -, -, h7⟩, -, -, h4, h5, h6, -, h8, h9⟩
    exact ⟨hid, h1, h2, h3, h4, h5, h6, h7, h8, h9⟩
  · rintro ⟨hid, h1, h2, h3, h4, h5, h6, h7, h8, h9⟩
    refine ⟨hid, ⟨h1, h2, h3⟩, _, ⟨rfl, fun i hi => ⟨h4 i (List.mem_append_left _ hi), by simp⟩,
      (List.nodup_append'.mp h5).1, h7⟩, hid, ⟨h1, ?_, h3⟩, h4, h5, h6,
      fun k t ht => Python.boundedProbe_address ht, h8, h9⟩
    simpa [Python.boundedProbe] using h2

theorem TypeScript.validateComponentRequest_ok {env : Env} {r : ComponentRequest} {u : Unit} :
    TypeScript.validateComponentRequest env r = .ok u ↔
      ValidRequestId r.requestId ∧ ComponentRequestOk Option.isSome r := by
  have hclaims : ∀ {out}, claimAll id (fun k claimed i => claimIndex (TypeScript.err
      s!"position {k + 1} has invalid, duplicate, or overlapping target_index") r.originalCount claimed i)
      0 [] (r.targets.map (·.targetIndex) ++ r.contextualPositions.map (·.targetIndex)) = .ok out ↔ _ :=
    fun {out} => claimAll_ok (R := fun i => 0 ≤ i ∧ i < (r.originalCount : ℤ))
      (E := fun _ _ => True) fun k claimed i => by rw [claimIndex_ok, and_true, id]
  simp only [TypeScript.validateComponentRequest, seq_eq_ok, bind_eq_ok (α := List ℤ), failIf_ok,
    forEach_ok, TypeScript.validateSignRequestId_ok, validateComponentGroupBytes_ok, not_lt,
    hclaims, TypeScript.checkContext_ok, checkCovered_ok, checkDummySuffix_ok, checkTargetKind_ok,
    Nat.zero_add, List.map_id, List.append_nil, List.not_mem_nil, not_false_eq_true, and_true,
    implies_true, forall_getElem? (P := ContextOk)]
  constructor
  · rintro ⟨h2, h7, hid, h1, h3, _, ⟨rfl, h4, h5⟩, h8, h6, h9⟩
    exact ⟨hid, h1, h2, h3, h4, h5, fun i hi => List.mem_reverse.mp (h6 i hi), h7, h8, h9⟩
  · rintro ⟨hid, h1, h2, h3, h4, h5, h6, h7, h8, h9⟩
    exact ⟨h2, h7, hid, h1, h3, _, ⟨rfl, h4, h5⟩, h8,
      fun i hi => List.mem_reverse.mpr (h6 i hi), h9⟩

/-! ### What the acceptors decide -/

/-- The components are exactly those of the targets, one each, of the kind
asked for and with the material of that kind. -/
structure ComponentsMatch (req : ComponentRequest) (resp : ComponentResponse) : Prop where
  nodup : (resp.components.map (·.targetIndex)).Nodup
  asked : ∀ c ∈ resp.components, ∃ t ∈ req.targets, t.targetIndex = c.targetIndex ∧ t.kind = c.kind
  answered : ∀ t ∈ req.targets, ∃ c ∈ resp.components, c.targetIndex = t.targetIndex
  material : ∀ c ∈ resp.components, c.WellFormed

theorem Component.wellFormed_iff {c : Component} (h : ∀ name, c.kind ≠ .other name) :
    c.WellFormed ↔
      (c.kind = .user ∨ c.kind = .cosigner → c.signature ≠ "" ∧ c.signatureScheme ≠ "" ∧
        c.baseSignatures = [] ∧ c.assemblyReceipt = "") ∧
      (c.kind = .boundedBase → c.authAddress ≠ "" ∧ c.baseSignatures ≠ [] ∧ c.assemblyReceipt ≠ "" ∧
        c.signatureScheme ≠ "" ∧ c.signature = "") := by
  unfold Component.WellFormed
  cases hk : c.kind with
  | user => simp
  | cosigner => simp
  | boundedBase => simp
  | other name => exact absurd hk (h name)

theorem checkMaterial_ok {err : String → SdkError} {shown : String → String} {k : ℕ} {c : Component}
    {u : Unit} : checkMaterial err shown k c = .ok u ↔ c.WellFormed := by
  unfold checkMaterial Component.WellFormed
  cases c.kind <;> simp [not_or]

theorem KindMap.at_eq_some {m : KindMap} (h : (m.map Prod.fst).Nodup) {i : ℤ}
    {kind : ComponentTargetKind} : m.at i = some kind ↔ (i, kind) ∈ m := by
  constructor
  · exact fun hl => List.mem_reverse.mp (Grouping.mem_of_lookup hl)
  · intro hm
    refine Grouping.lookup_of_mem ?_ (List.mem_reverse.mpr hm)
    rwa [List.map_reverse, List.nodup_reverse]

theorem KindMap.size_eq {m : KindMap} (h : (m.map Prod.fst).Nodup) : m.size = m.length := by
  rw [KindMap.size, h.dedup, List.length_map]

theorem ComponentRequest.keys_kinds (r : ComponentRequest) :
    r.kinds.map Prod.fst = r.targets.map (·.targetIndex) := by
  simp [ComponentRequest.kinds, Function.comp_def]

theorem ComponentResponse.keys_kinds (r : ComponentResponse) :
    r.kinds.map Prod.fst = r.components.map (·.targetIndex) := by
  simp [ComponentResponse.kinds, Function.comp_def]

theorem ComponentRequest.mem_kinds {r : ComponentRequest} {i : ℤ} {kind : ComponentTargetKind} :
    (i, kind) ∈ r.kinds ↔ ∃ t ∈ r.targets, t.targetIndex = i ∧ t.kind = kind := by
  simp [ComponentRequest.kinds]

theorem ComponentResponse.mem_kinds {r : ComponentResponse} {i : ℤ} {kind : ComponentTargetKind} :
    (i, kind) ∈ r.kinds ↔ ∃ c ∈ r.components, c.targetIndex = i ∧ c.kind = kind := by
  simp [ComponentResponse.kinds]

section KindMaps

variable {a b : KindMap} (ha : (a.map Prod.fst).Nodup) (hb : (b.map Prod.fst).Nodup)
include ha hb

/-- Go's comparison of the two maps: as many entries, each of them expected. -/
theorem KindMap.perm_iff : a.Perm b ↔ a.length = b.length ∧ ∀ p ∈ a, b.at p.1 = some p.2 := by
  simp only [KindMap.at_eq_some hb]
  constructor
  · exact fun h => ⟨h.length_eq, fun p hp => h.mem_iff.mp hp⟩
  · rintro ⟨hl, hsub⟩
    exact (List.subperm_of_subset ha.of_map hsub).perm_of_length_le hl.ge

/-- Python's `actual == expected`. -/
theorem KindMap.sameKinds_iff : Python.sameKinds a b ↔ a.Perm b := by
  have hat : ∀ i, a.at i = b.at i ↔ ∀ kind, (i, kind) ∈ a ↔ (i, kind) ∈ b := by
    intro i
    rw [Option.ext_iff]
    simp only [KindMap.at_eq_some ha, KindMap.at_eq_some hb]
  constructor
  · intro h
    refine (List.perm_ext_iff_of_nodup ha.of_map hb.of_map).mpr ?_
    rintro ⟨i, kind⟩
    by_cases hi : i ∈ a.map Prod.fst ++ b.map Prod.fst
    · exact (hat i).mp (h i hi) kind
    · rw [List.mem_append, not_or] at hi
      exact ⟨fun hp => absurd (List.mem_map.mpr ⟨_, hp, rfl⟩) hi.1,
        fun hp => absurd (List.mem_map.mpr ⟨_, hp, rfl⟩) hi.2⟩
  · intro h i _
    exact (hat i).mpr fun kind => h.mem_iff

/-- TypeScript's comparison: equal sizes, and no expected entry differs. -/
theorem KindMap.size_and_at_iff :
    (b.size = a.size ∧ ∀ p ∈ b, a.at p.1 = b.at p.1) ↔ a.Perm b := by
  rw [List.perm_comm, KindMap.perm_iff hb ha, KindMap.size_eq ha, KindMap.size_eq hb]
  refine and_congr_right fun _ => forall₂_congr fun p hp => ?_
  have hat : b.at p.1 = some p.2 := (KindMap.at_eq_some hb).mpr hp
  rw [hat]

end KindMaps

section Accept

variable {env : Env} {req : ComponentRequest} {reply : Reply ComponentResponse}
  {resp : ComponentResponse}

theorem ComponentsMatch.ne_nil (h : ComponentsMatch req resp) (hne : req.targets ≠ []) :
    resp.components ≠ [] := by
  obtain ⟨t, ht⟩ := List.exists_mem_of_ne_nil _ hne
  obtain ⟨c, hc, -⟩ := h.answered t ht
  exact List.ne_nil_of_mem hc

theorem ComponentsMatch.range (h : ComponentsMatch req resp) {n : ℕ}
    (hr : ∀ i ∈ req.targets.map (·.targetIndex), 0 ≤ i ∧ i < (n : ℤ)) {c : Component}
    (hc : c ∈ resp.components) : 0 ≤ c.targetIndex ∧ c.targetIndex < n := by
  obtain ⟨t, ht, hi, -⟩ := h.asked c hc
  exact hi ▸ hr _ (List.mem_map_of_mem ht)

/-- Matching is an equality of the two maps from index to kind. -/
theorem componentsMatch_iff (hnodup : (req.targets.map (·.targetIndex)).Nodup) :
    ComponentsMatch req resp ↔ (resp.components.map (·.targetIndex)).Nodup ∧
      (∀ c ∈ resp.components, c.WellFormed) ∧ resp.kinds.Perm req.kinds := by
  have hreq : (req.kinds.map Prod.fst).Nodup := by rwa [ComponentRequest.keys_kinds]
  constructor
  · intro h
    have hresp : (resp.kinds.map Prod.fst).Nodup := by
      rw [ComponentResponse.keys_kinds]
      exact h.nodup
    refine ⟨h.nodup, h.material, (List.perm_ext_iff_of_nodup hresp.of_map hreq.of_map).mpr ?_⟩
    rintro ⟨i, kind⟩
    rw [ComponentRequest.mem_kinds, ComponentResponse.mem_kinds]
    constructor
    · rintro ⟨c, hc, rfl, rfl⟩
      exact h.asked c hc
    · rintro ⟨t, ht, rfl, rfl⟩
      obtain ⟨c, hc, hi⟩ := h.answered t ht
      obtain ⟨t', ht', hi', hk⟩ := h.asked c hc
      rw [List.inj_on_of_nodup_map hnodup ht' ht (hi'.trans hi)] at hk
      exact ⟨c, hc, hi, hk.symm⟩
  · rintro ⟨h1, h2, h3⟩
    refine ⟨h1, fun c hc => ?_, fun t ht => ?_, h2⟩
    · exact ComponentRequest.mem_kinds.mp
        (h3.mem_iff.mp (ComponentResponse.mem_kinds.mpr ⟨c, hc, rfl, rfl⟩))
    · obtain ⟨c, hc, hi, -⟩ := ComponentResponse.mem_kinds.mp
        (h3.mem_iff.mpr (ComponentRequest.mem_kinds.mpr ⟨t, ht, rfl, rfl⟩))
      exact ⟨c, hc, hi⟩

/-- The walk of Go over the components of a response. -/
theorem Go.validateComponentResponse_ok {u : Unit} :
    Go.validateComponentResponse env resp = .ok u ↔
      resp.requestId ≠ "" ∧ ValidRequestId resp.requestId ∧ resp.components ≠ [] ∧
        (∀ c ∈ resp.components, 0 ≤ c.targetIndex) ∧ (resp.components.map (·.targetIndex)).Nodup ∧
        ∀ c ∈ resp.components, c.WellFormed := by
  have hclaims : ∀ {out}, claimAll (·.targetIndex) (fun k claimed (c : Component) => do
      failIf (c.targetIndex < 0 ∨ c.targetIndex ∈ claimed)
        (Go.err s!"component {k + 1} has invalid or duplicate target_index")
      checkMaterial Go.err (fun name => " " ++ env.quote name) k c) 0 [] resp.components = .ok out ↔ _ :=
    fun {out} => claimAll_ok (R := fun i => 0 ≤ i) (E := fun _ c => Component.WellFormed c)
      fun k claimed c => by rw [seq_eq_ok, failIf_ok, not_or, Int.not_lt, checkMaterial_ok]
  simp only [Go.validateComponentResponse, requireId, seq_eq_ok, failIf_ok,
    Go.validateSignRequestId_ok, bind_eq_ok (α := List ℤ), hclaims, pure_eq_ok, and_true,
    List.not_mem_nil, not_false_eq_true, List.forall_mem_map, exists_eq_left,
    forall_getElem? (P := Component.WellFormed), ne_eq]

theorem checkComponents_ok {err : String → SdkError} {n : ℕ} {components : List Component}
    {out : List ℤ} : checkComponents err n components = .ok out ↔
      out = (components.map (·.targetIndex)).reverse ∧
        (∀ c ∈ components, 0 ≤ c.targetIndex ∧ c.targetIndex < n) ∧
        (components.map (·.targetIndex)).Nodup ∧ ∀ c ∈ components, c.WellFormed := by
  rw [checkComponents, claimAll_ok (R := fun i => 0 ≤ i)
    (E := fun _ c => c.targetIndex < (n : ℤ) ∧ c.WellFormed)]
  · simp only [List.append_nil, List.not_mem_nil, not_false_eq_true, and_true, List.forall_mem_map,
      forall_getElem? (P := fun c : Component => c.targetIndex < (n : ℤ) ∧ c.WellFormed)]
    constructor
    · rintro ⟨h1, h2, h3, h4⟩
      exact ⟨h1, fun c hc => ⟨h2 c hc, (h4 c hc).1⟩, h3, fun c hc => (h4 c hc).2⟩
    · rintro ⟨h1, h2, h3, h4⟩
      exact ⟨h1, fun c hc => (h2 c hc).1, h3, fun c hc => ⟨(h2 c hc).2, h4 c hc⟩⟩
  · intro k claimed c
    rw [seq_eq_ok, seq_eq_ok, failIf_ok, failIf_ok, not_or, Int.not_lt, Int.not_le, checkMaterial_ok]

/-- The empty kind is no kind of a component that carries its material. -/
theorem KindMap.getD_at {m : KindMap} {i : ℤ} {c : Component} (hc : c.WellFormed) :
    (m.at i).getD (.other "") = c.kind ↔ m.at i = some c.kind := by
  cases h : m.at i with
  | some kind => simp
  | none =>
    have hother : ComponentTargetKind.other "" ≠ c.kind := by
      intro heq
      rw [Component.WellFormed, ← heq] at hc
      exact hc
    simp [hother]

theorem ComponentRequestOk.targets_nodup {hasArgs : Option (List (String × String)) → Bool}
    (hok : ComponentRequestOk hasArgs req) : (req.targets.map (·.targetIndex)).Nodup :=
  (List.nodup_append'.mp hok.nodup).1

theorem ComponentRequestOk.targets_range {hasArgs : Option (List (String × String)) → Bool}
    (hok : ComponentRequestOk hasArgs req) :
    ∀ i ∈ req.targets.map (·.targetIndex), 0 ≤ i ∧ i < (req.groupBytesHex.length : ℤ) := fun i hi => by
  have := hok.range i (List.mem_append_left _ hi)
  have hle : req.originalCount ≤ req.groupBytesHex.length := Nat.sub_le ..
  omega

theorem Go.acceptComponents_ok (hok : ComponentRequestOk hasSomeArgs req)
    (hid : ValidRequestId req.requestId) (hne : req.requestId ≠ "") :
    Go.acceptComponents env req reply = .ok resp ↔
      reply.okBody = some resp ∧ resp.requestId = req.requestId ∧ ComponentsMatch req resp := by
  have hreq : (req.kinds.map Prod.fst).Nodup := by
    rw [ComponentRequest.keys_kinds]
    exact hok.targets_nodup
  have hkinds : ∀ {r : ComponentResponse}, (r.components.map (·.targetIndex)).Nodup →
      (r.components.length = req.kinds.size ∧
        (∀ c ∈ r.components, req.kinds.at c.targetIndex = some c.kind) ↔ r.kinds.Perm req.kinds) := by
    intro r hr
    rw [← ComponentResponse.keys_kinds] at hr
    rw [KindMap.perm_iff hr hreq, KindMap.size_eq hreq]
    simp [ComponentResponse.kinds]
  simp only [Go.acceptComponents, Go.validateForRequest, bind_eq_ok (α := ComponentResponse),
    seq_eq_ok, decodeReply_ok, mapErr_ok, failIf_ok, pure_eq_ok, Go.validateComponentResponse_ok,
    forEach_ok, not_or, Int.not_le, not_not,
    forall_getElem? (P := fun c : Component => c.targetIndex < (req.groupBytesHex.length : ℤ) ∧
      (req.kinds.at c.targetIndex).getD (.other "") = c.kind)]
  constructor
  · rintro ⟨resp, h1, ⟨⟨-, -, -, -, h2, h3⟩, h4, h5⟩, h6, rfl⟩
    exact ⟨h1, h6, (componentsMatch_iff hok.targets_nodup).mpr
      ⟨h2, h3, (hkinds h2).mp ⟨h4, fun c hc => (KindMap.getD_at (h3 c hc)).mp (h5 c hc).2⟩⟩⟩
  · rintro ⟨h1, h2, h3⟩
    obtain ⟨h4, h5, h6⟩ := (componentsMatch_iff hok.targets_nodup).mp h3
    obtain ⟨h7, h8⟩ := (hkinds h4).mpr h6
    have hrange := fun {c} hc => h3.range hok.targets_range (c := c) hc
    exact ⟨resp, h1, ⟨⟨h2 ▸ hne, h2 ▸ hid, h3.ne_nil hok.targets_ne, fun c hc => (hrange hc).1, h4, h5⟩,
      h7, fun c hc => ⟨(hrange hc).2, (KindMap.getD_at (h5 c hc)).mpr (h8 c hc)⟩⟩, h2, rfl⟩

theorem Python.acceptComponents_ok (hok : ComponentRequestOk hasSomeArgs req)
    (hid : Python.validateSignRequestId env req.requestId = .ok ()) (hne : req.requestId ≠ "") :
    Python.acceptComponents env req reply = .ok resp ↔
      reply.okBody = some resp ∧ resp.error = "" ∧ resp.requestId = req.requestId ∧
        ComponentsMatch req resp := by
  have hreq : (req.kinds.map Prod.fst).Nodup := by
    rw [ComponentRequest.keys_kinds]
    exact hok.targets_nodup
  have hkinds : ∀ {r : ComponentResponse}, (r.components.map (·.targetIndex)).Nodup →
      (Python.sameKinds r.kinds req.kinds ↔ r.kinds.Perm req.kinds) := fun {r} hr =>
    KindMap.sameKinds_iff (by rwa [ComponentResponse.keys_kinds]) hreq
  simp only [Python.acceptComponents, Python.validateComponentResponse,
    bind_eq_ok (α := ComponentResponse), bind_eq_ok (α := List ℤ), seq_eq_ok, decodeReply_ok,
    mapErr_ok, failIf_ok, pure_eq_ok, checkComponents_ok, not_or, not_not]
  constructor
  · rintro ⟨resp, h1, he, ⟨-, -, _, ⟨-, -, h2, h3⟩, -⟩, h4, h5, rfl⟩
    exact ⟨h1, he, h4, (componentsMatch_iff hok.targets_nodup).mpr ⟨h2, h3, (hkinds h2).mp h5⟩⟩
  · rintro ⟨h1, he, h2, h3⟩
    obtain ⟨h4, h5, h6⟩ := (componentsMatch_iff hok.targets_nodup).mp h3
    exact ⟨resp, h1, he, ⟨h2 ▸ hid, ⟨h2 ▸ hne, h3.ne_nil hok.targets_ne⟩, _,
      ⟨rfl, fun c hc => h3.range hok.targets_range hc, h4, h5⟩, trivial⟩, h2, (hkinds h4).mpr h6, rfl⟩

theorem TypeScript.acceptComponents_ok (hok : ComponentRequestOk Option.isSome req)
    (hid : ValidRequestId req.requestId) (hne : req.requestId ≠ "") :
    TypeScript.acceptComponents env req reply = .ok resp ↔
      reply.okBody = some resp ∧ resp.error = "" ∧ resp.requestId = req.requestId ∧
        ComponentsMatch req resp := by
  have hreq : (req.kinds.map Prod.fst).Nodup := by
    rw [ComponentRequest.keys_kinds]
    exact hok.targets_nodup
  have hkinds : ∀ {r : ComponentResponse}, (r.components.map (·.targetIndex)).Nodup →
      (¬ (req.kinds.size ≠ r.kinds.size ∨ ∃ p ∈ req.kinds, r.kinds.at p.1 ≠ req.kinds.at p.1) ↔
        r.kinds.Perm req.kinds) := by
    intro r hr
    rw [← ComponentResponse.keys_kinds] at hr
    rw [← KindMap.size_and_at_iff hr hreq]
    simp only [not_or, not_not, not_exists, not_and]
  simp only [TypeScript.acceptComponents, TypeScript.validateComponentResponse, requireId,
    bind_eq_ok (α := ComponentResponse), bind_eq_ok (α := List ℤ), seq_eq_ok, decodeReply_ok,
    mapErr_ok, failIf_ok, pure_eq_ok, checkComponents_ok, TypeScript.validateSignRequestId_ok,
    not_not (a := _ = _)]
  constructor
  · rintro ⟨resp, h1, he, ⟨-, -, -, _, ⟨-, -, h2, h3⟩, -⟩, h4, h5, rfl⟩
    exact ⟨h1, he, h4, (componentsMatch_iff hok.targets_nodup).mpr ⟨h2, h3, (hkinds h2).mp h5⟩⟩
  · rintro ⟨h1, he, h2, h3⟩
    obtain ⟨h4, h5, h6⟩ := (componentsMatch_iff hok.targets_nodup).mp h3
    exact ⟨resp, h1, he, ⟨h2 ▸ hne, h2 ▸ hid, h3.ne_nil hok.targets_ne, _,
      ⟨rfl, fun c hc => h3.range hok.targets_range hc, h4, h5⟩, trivial⟩, h2, (hkinds h4).mpr h6, rfl⟩

end Accept

end AplaneSdk
