/-
# `/sign/assemble`: what the SDKs send and what they accept

The three validators of an assembly request decide one predicate,
`AssemblyRequestOk`, whose core is an exact cover of the group by targets and
passthrough items. The acceptors of the response differ: only Python compares
the request id of the response with the one it sent.

Key definitions: `validateAssemblyRequest` and `acceptAssembly` of each SDK,
`AssemblyRequestOk`, `SignedGroupOk`.
Key theorems: `Go.validateAssemblyRequest_ok`,
`Python.validateAssemblyRequest_ok`, `TypeScript.validateAssemblyRequest_ok`,
`Go.acceptAssembly_ok`, `Python.acceptAssembly_ok`,
`TypeScript.acceptAssembly_ok`, `AssemblyRequestOk.perm`.
-/
import AplaneSdk.Components

namespace AplaneSdk

open Checks

/-! ### Requests -/

/-- `validateAssemblyIndex`. -/
def validateAssemblyIndex (err : String → SdkError) (n : ℕ) (claimed : List ℤ) (i : ℤ) :
    Except SdkError Unit := do
  failIf (i < 0 ∨ n ≤ i) (err s!"target_index {i} out of range")
  failIf (i ∈ claimed) (err s!"duplicate target_index {i}")

/-- The material of a target by its kind; `checkId` validates the source id
of the user or base signature, named by its field. -/
def checkAssemblyMaterial (err : String → SdkError) (checkId : String → String → Except SdkError Unit)
    (hasArgs : Option (List (String × String)) → Bool) (shown : String → String) (k : ℕ)
    (t : AssemblyTarget) : Except SdkError Unit :=
  match t.kind with
  | .guarded => do
    failIf (t.userSignature = "")
      (err s!"target {k + 1}: user_signature is required for guarded target")
    failIf (t.baseSignatures ≠ [] ∨ hasArgs t.boundedRuntimeArgs = true ∨ t.assemblyReceipt ≠ "" ∨
        t.baseSourceRequestId ≠ "")
      (err s!"target {k + 1}: bounded authorization material is forbidden for guarded target")
    checkId "user_source_request_id" t.userSourceRequestId
  | .boundedCosigner => do
    failIf (t.baseSignatures = [] ∨ t.assemblyReceipt = "")
      (err (s!"target {k + 1}: base_signatures and assembly_receipt are required " ++
        "for bounded-cosigner target"))
    failIf (t.userSignature ≠ "" ∨ t.userSourceRequestId ≠ "" ∨ t.guardedRuntimeArgs ≠ [])
      (err s!"target {k + 1}: guarded authorization material is forbidden for bounded-cosigner target")
    checkId "base_source_request_id" t.baseSourceRequestId
  | .other name => .error (err (s!"target {k + 1}: invalid kind" ++ shown name))

def checkAssemblyRequired (err : String → SdkError) (k : ℕ) (t : AssemblyTarget) :
    Except SdkError Unit :=
  failIf (t.authAddress = "" ∨ t.cosignerSignature = "")
    (err s!"target {k + 1}: auth_address and cosigner_signature are required")

def checkPassthroughHex (err : String → SdkError) (k : ℕ) (p : AssemblyPassthroughItem) :
    Except SdkError Unit :=
  failIf (p.signedTxnHex = "") (err s!"passthrough {k + 1}: signed_txn_hex is required")

/-- The walk all three validators make: targets, passthrough items, cover.
`wrapTarget` and `wrapItem` put the position in front of an index complaint. -/
def checkAssembly (err : String → SdkError) (wrapTarget wrapItem : ℕ → SdkError → SdkError)
    (checkTarget : ℕ → AssemblyTarget → Except SdkError Unit) (r : AssemblyRequest) :
    Except SdkError Unit := do
  validateComponentGroupBytes err r.groupBytesHex
  failIf (r.targets = [] ∧ r.passthrough = []) (err "targets or passthrough is required")
  let n := r.groupBytesHex.length
  let claimed ← claimAll (·.targetIndex) (fun k claimed t => do
    mapErr (wrapTarget k) (validateAssemblyIndex err n claimed t.targetIndex)
    checkTarget k t) 0 [] r.targets
  let claimed ← claimAll (·.targetIndex) (fun k claimed p => do
    mapErr (wrapItem k) (validateAssemblyIndex err n claimed p.targetIndex)
    checkPassthroughHex err k p) 0 claimed r.passthrough
  match uncovered n claimed with
  | some i => .error (err s!"group position {i} is not covered by targets or passthrough")
  | none => .ok ()

namespace Go

def checkAssemblyTarget (env : Env) (k : ℕ) (t : AssemblyTarget) : Except SdkError Unit := do
  checkAssemblyRequired err k t
  mapErr (SdkError.wrap s!"target {k + 1}: cosigner_source_request_id: ")
    (validateSignRequestId env t.cosignerSourceRequestId)
  checkAssemblyMaterial err (fun field id => mapErr (SdkError.wrap s!"target {k + 1}: {field}: ")
    (validateSignRequestId env id)) hasSomeArgs (fun name => " " ++ env.quote name) k t

/-- `AssemblyRequest.Validate`. -/
def validateAssemblyRequest (env : Env) (r : AssemblyRequest) : Except SdkError Unit := do
  validateSignRequestId env r.requestId
  checkAssembly err (fun k => SdkError.wrap s!"target {k + 1}: ")
    (fun k => SdkError.wrap s!"passthrough {k + 1}: ") (checkAssemblyTarget env) r

end Go

/-- A target of Python and TypeScript: the cosigner's source id comes last. -/
def checkAssemblyTarget (err : String → SdkError) (checkId : String → Except SdkError Unit)
    (hasArgs : Option (List (String × String)) → Bool) (k : ℕ) (t : AssemblyTarget) :
    Except SdkError Unit := do
  checkAssemblyRequired err k t
  checkAssemblyMaterial err (fun _ id => checkId id) hasArgs (fun _ => "") k t
  checkId t.cosignerSourceRequestId

namespace Python

/-- `_validate_assembly_request`. -/
def validateAssemblyRequest (env : Env) (r : AssemblyRequest) : Except SdkError Unit := do
  validateSignRequestId env r.requestId
  checkAssembly err (fun _ e => e) (fun _ e => e)
    (checkAssemblyTarget err (validateSignRequestId env) hasSomeArgs) r

end Python

namespace TypeScript

/-- `validateAssemblyRequest`. -/
def validateAssemblyRequest (env : Env) (r : AssemblyRequest) : Except SdkError Unit := do
  validateSignRequestId env r.requestId
  checkAssembly err (fun _ e => e) (fun _ e => e)
    (checkAssemblyTarget err (validateSignRequestId env) Option.isSome) r

end TypeScript

/-- What the validators ask of one target; `idOk` are the ids they accept. -/
def AssemblyTarget.Ok (idOk : String → Prop) (hasArgs : Option (List (String × String)) → Bool)
    (t : AssemblyTarget) : Prop :=
  t.authAddress ≠ "" ∧ t.cosignerSignature ≠ "" ∧ idOk t.cosignerSourceRequestId ∧
    match t.kind with
    | .guarded => t.userSignature ≠ "" ∧ t.baseSignatures = [] ∧ hasArgs t.boundedRuntimeArgs = false ∧
        t.assemblyReceipt = "" ∧ t.baseSourceRequestId = "" ∧ idOk t.userSourceRequestId
    | .boundedCosigner => t.baseSignatures ≠ [] ∧ t.assemblyReceipt ≠ "" ∧ t.userSignature = "" ∧
        t.userSourceRequestId = "" ∧ t.guardedRuntimeArgs = [] ∧ idOk t.baseSourceRequestId
    | .other _ => False

def AssemblyRequest.indices (r : AssemblyRequest) : List ℤ :=
  r.targets.map (·.targetIndex) ++ r.passthrough.map (·.targetIndex)

/-- What the validators ask of an assembly request, apart from its id. -/
structure AssemblyRequestOk (idOk : String → Prop)
    (hasArgs : Option (List (String × String)) → Bool) (r : AssemblyRequest) : Prop where
  bytes : GroupBytesOk r.groupBytesHex
  range : ∀ i ∈ r.indices, 0 ≤ i ∧ i < (r.groupBytesHex.length : ℤ)
  nodup : r.indices.Nodup
  cover : ∀ i < r.groupBytesHex.length, (i : ℤ) ∈ r.indices
  targets : ∀ t ∈ r.targets, t.Ok idOk hasArgs
  passthrough : ∀ p ∈ r.passthrough, p.signedTxnHex ≠ ""

/-- Every position of the group is named exactly once. -/
theorem AssemblyRequestOk.perm {idOk : String → Prop}
    {hasArgs : Option (List (String × String)) → Bool} {r : AssemblyRequest}
    (h : AssemblyRequestOk idOk hasArgs r) :
    r.indices.Perm ((List.range r.groupBytesHex.length).map Nat.cast) :=
  perm_range_of_cover h.nodup h.range h.cover

section Validate

variable {env : Env} {r : AssemblyRequest}

theorem validateAssemblyIndex_ok {err : String → SdkError} {n : ℕ} {claimed : List ℤ} {i : ℤ}
    {u : Unit} :
    validateAssemblyIndex err n claimed i = .ok u ↔ (0 ≤ i ∧ i < n) ∧ i ∉ claimed := by
  rw [validateAssemblyIndex, seq_eq_ok, failIf_ok, failIf_ok, not_or, Int.not_lt, Int.not_le]

theorem checkAssembly_ok {err : String → SdkError} {wrapTarget wrapItem : ℕ → SdkError → SdkError}
    {checkTarget : ℕ → AssemblyTarget → Except SdkError Unit} {idOk : String → Prop}
    {hasArgs : Option (List (String × String)) → Bool}
    (hcheck : ∀ k t, checkTarget k t = .ok () ↔ t.Ok idOk hasArgs) {u : Unit} :
    checkAssembly err wrapTarget wrapItem checkTarget r = .ok u ↔ AssemblyRequestOk idOk hasArgs r := by
  have htargets : ∀ {out}, claimAll (·.targetIndex) (fun k claimed (t : AssemblyTarget) => do
      mapErr (wrapTarget k) (validateAssemblyIndex err r.groupBytesHex.length claimed t.targetIndex)
      checkTarget k t) 0 [] r.targets = .ok out ↔ _ := fun {out} =>
    claimAll_ok (R := fun i => 0 ≤ i ∧ i < (r.groupBytesHex.length : ℤ))
      (E := fun _ t => t.Ok idOk hasArgs) fun k claimed t => by
        rw [seq_eq_ok, mapErr_ok, validateAssemblyIndex_ok, hcheck]
  have hitems : ∀ {claimed out}, claimAll (·.targetIndex)
      (fun k claimed (p : AssemblyPassthroughItem) => do
      mapErr (wrapItem k) (validateAssemblyIndex err r.groupBytesHex.length claimed p.targetIndex)
      checkPassthroughHex err k p) 0 claimed r.passthrough = .ok out ↔ _ := fun {claimed out} =>
    claimAll_ok (R := fun i => 0 ≤ i ∧ i < (r.groupBytesHex.length : ℤ))
      (E := fun _ p => p.signedTxnHex ≠ "") fun k claimed p => by
        rw [seq_eq_ok, mapErr_ok, validateAssemblyIndex_ok, checkPassthroughHex, failIf_ok]
  have hcover : ∀ {claimed : List ℤ} {u : Unit}, (match uncovered r.groupBytesHex.length claimed with
      | some i => Except.error (err s!"group position {i} is not covered by targets or passthrough")
      | none => .ok ()) = .ok u ↔ ∀ i < r.groupBytesHex.length, (i : ℤ) ∈ claimed := by
    intro claimed u
    rw [← uncovered_eq_none]
    cases uncovered r.groupBytesHex.length claimed <;> simp
  simp only [checkAssembly, seq_eq_ok, bind_eq_ok (α := List ℤ), validateComponentGroupBytes_ok,
    failIf_ok, htargets, hitems, hcover, List.not_mem_nil, not_false_eq_true, and_true,
    List.append_nil, forall_getElem? (P := AssemblyTarget.Ok idOk hasArgs),
    forall_getElem? (P := fun p : AssemblyPassthroughItem => p.signedTxnHex ≠ "")]
  constructor
  · rintro ⟨h1, -, _, ⟨rfl, h2, h3, h4⟩, _, ⟨rfl, h5, h6, h7⟩, h8⟩
    refine ⟨h1, ?_, ?_, fun i hi => ?_, h4, h7⟩
    · intro i hi
      rcases List.mem_append.mp hi with hi | hi
      · exact h2 i hi
      · exact (h5 i hi).1
    · exact List.nodup_append'.mpr ⟨h3, h6, List.disjoint_left.mpr fun i hi hi' =>
        (h5 i hi').2 (List.mem_reverse.mpr hi)⟩
    · have := h8 i hi
      rw [List.mem_append, List.mem_reverse, List.mem_reverse] at this
      exact List.mem_append.mpr this.symm
  · rintro ⟨h1, h2, h3, h4, h5, h6⟩
    obtain ⟨h7, h8, h9⟩ := List.nodup_append'.mp h3
    refine ⟨h1, ?_, _, ⟨rfl, fun i hi => h2 i (List.mem_append_left _ hi), h7, h5⟩, _,
      ⟨rfl, fun i hi => ⟨h2 i (List.mem_append_right _ hi), fun ht => ?_⟩, h8, h6⟩, fun i hi => ?_⟩
    · -- the cover names position 0, so the lists are not both empty
      rintro ⟨ht, hp⟩
      have := h4 0 (List.length_pos_iff.mpr h1.1)
      rw [AssemblyRequest.indices, ht, hp] at this
      cases this
    · exact List.disjoint_left.mp h9 (List.mem_reverse.mp ht) hi
    · rw [List.mem_append, List.mem_reverse, List.mem_reverse]
      exact (List.mem_append.mp (h4 i hi)).symm

theorem checkAssemblyMaterial_ok {err : String → SdkError}
    {checkId : String → String → Except SdkError Unit} {idOk : String → Prop}
    (hid : ∀ field id, checkId field id = .ok () ↔ idOk id)
    {hasArgs : Option (List (String × String)) → Bool} {shown : String → String} {k : ℕ}
    {t : AssemblyTarget} {u : Unit} (hreq : t.authAddress ≠ "" ∧ t.cosignerSignature ≠ "")
    (hcos : idOk t.cosignerSourceRequestId) :
    checkAssemblyMaterial err checkId hasArgs shown k t = .ok u ↔ t.Ok idOk hasArgs := by
  unfold checkAssemblyMaterial AssemblyTarget.Ok
  cases t.kind with
  | guarded => simp [hid, hreq, hcos, not_or, and_assoc]
  | boundedCosigner => simp [hid, hreq, hcos, not_or, and_assoc]
  | other name => simp

theorem Go.checkAssemblyTarget_ok {k : ℕ} {t : AssemblyTarget} {u : Unit} :
    Go.checkAssemblyTarget env k t = .ok u ↔ t.Ok ValidRequestId hasSomeArgs := by
  simp only [Go.checkAssemblyTarget, checkAssemblyRequired, seq_eq_ok, failIf_ok, not_or, mapErr_ok,
    Go.validateSignRequestId_ok]
  constructor
  · rintro ⟨h1, h2, h3⟩
    refine (checkAssemblyMaterial_ok (fun field id => ?_) h1 h2).mp h3
    rw [mapErr_ok, Go.validateSignRequestId_ok]
  · intro h
    refine ⟨⟨h.1, h.2.1⟩, h.2.2.1, (checkAssemblyMaterial_ok (fun field id => ?_)
      ⟨h.1, h.2.1⟩ h.2.2.1).mpr h⟩
    rw [mapErr_ok, Go.validateSignRequestId_ok]

theorem checkAssemblyTarget_ok {err : String → SdkError} {checkId : String → Except SdkError Unit}
    {idOk : String → Prop} (hid : ∀ id, checkId id = .ok () ↔ idOk id)
    {hasArgs : Option (List (String × String)) → Bool} {k : ℕ} {t : AssemblyTarget} {u : Unit} :
    checkAssemblyTarget err checkId hasArgs k t = .ok u ↔ t.Ok idOk hasArgs := by
  simp only [checkAssemblyTarget, checkAssemblyRequired, seq_eq_ok, failIf_ok, not_or, hid]
  constructor
  · rintro ⟨h1, h2, h3⟩
    exact (checkAssemblyMaterial_ok (fun _ => hid) h1 h3).mp h2
  · intro h
    exact ⟨⟨h.1, h.2.1⟩, (checkAssemblyMaterial_ok (fun _ => hid) ⟨h.1, h.2.1⟩ h.2.2.1).mpr h, h.2.2.1⟩

theorem Go.validateAssemblyRequest_ok {u : Unit} :
    Go.validateAssemblyRequest env r = .ok u ↔
      ValidRequestId r.requestId ∧ AssemblyRequestOk ValidRequestId hasSomeArgs r := by
  rw [Go.validateAssemblyRequest, seq_eq_ok, Go.validateSignRequestId_ok,
    checkAssembly_ok fun _ _ => Go.checkAssemblyTarget_ok]

/-- The ids Python accepts. -/
def Python.IdOk (env : Env) (id : String) : Prop := Python.validateSignRequestId env id = .ok ()

theorem Python.validateAssemblyRequest_ok {u : Unit} :
    Python.validateAssemblyRequest env r = .ok u ↔
      Python.IdOk env r.requestId ∧ AssemblyRequestOk (Python.IdOk env) hasSomeArgs r := by
  rw [Python.validateAssemblyRequest, seq_eq_ok,
    checkAssembly_ok fun _ _ => checkAssemblyTarget_ok fun _ => Iff.rfl]
  rfl

theorem TypeScript.validateAssemblyRequest_ok {u : Unit} :
    TypeScript.validateAssemblyRequest env r = .ok u ↔
      ValidRequestId r.requestId ∧ AssemblyRequestOk ValidRequestId Option.isSome r := by
  rw [TypeScript.validateAssemblyRequest, seq_eq_ok, TypeScript.validateSignRequestId_ok,
    checkAssembly_ok fun _ _ => checkAssemblyTarget_ok fun _ => TypeScript.validateSignRequestId_ok]

end Validate

/-! ### Responses -/

/-- `AssemblyResponse.Validate` and its two siblings: an id, and a group
without an empty slot. -/
def validateAssemblyResponse (err : String → SdkError) (checkId : String → Except SdkError Unit)
    (resp : AssemblyResponse) : Except SdkError Unit := do
  requireId err resp.requestId
  checkId resp.requestId
  failIf (resp.signedGroup = []) (err "signed_group is empty")
  forEach (fun i signed => failIf (signed = "") (err s!"signed_group {i} is empty")) 0 resp.signedGroup

/-- The reply of `/sign/assemble` in `RequestAssembleWithContext`. -/
def Go.acceptAssembly (env : Env) (_req : AssemblyRequest) (reply : Reply AssemblyResponse) :
    Except SdkError AssemblyResponse := do
  let resp ← decodeReply (Go.componentEndpoint "failed to decode response: " env) reply
  mapErr (SdkError.wrap "invalid assembly response: ")
    (validateAssemblyResponse Go.err (Go.validateSignRequestId env) resp)
  pure resp

/-- The reply of `/sign/assemble` in `request_assemble`. -/
def Python.acceptAssembly (env : Env) (req : AssemblyRequest) (reply : Reply AssemblyResponse) :
    Except SdkError AssemblyResponse := do
  let resp ← decodeReply Python.assembleEndpoint reply
  failIf (resp.error ≠ "") { text := resp.error }
  mapErr (fun e => { text := "invalid assembly response: " ++ e.text })
    (validateAssemblyResponse Python.err (Python.validateSignRequestId env) resp)
  failIf (resp.requestId ≠ req.requestId) { text := "assembly response request_id does not match request" }
  pure resp

/-- The reply of `/sign/assemble` in `requestAssemble`. -/
def TypeScript.acceptAssembly (env : Env) (_req : AssemblyRequest) (reply : Reply AssemblyResponse) :
    Except SdkError AssemblyResponse := do
  let resp ← decodeReply TypeScript.assembleEndpoint reply
  failIf (resp.error ≠ "") { text := resp.error }
  mapErr (SdkError.wrap "invalid assembly response: ")
    (validateAssemblyResponse TypeScript.err (TypeScript.validateSignRequestId env) resp)
  pure resp

/-- A group without an empty slot. -/
def SignedGroupOk (group : List String) : Prop := group ≠ [] ∧ ∀ signed ∈ group, signed ≠ ""

section Accept

variable {env : Env} {reply : Reply AssemblyResponse} {resp : AssemblyResponse}

theorem validateAssemblyResponse_ok {err : String → SdkError} {checkId : String → Except SdkError Unit}
    {u : Unit} : validateAssemblyResponse err checkId resp = .ok u ↔
      resp.requestId ≠ "" ∧ checkId resp.requestId = .ok () ∧ SignedGroupOk resp.signedGroup := by
  simp only [validateAssemblyResponse, requireId, seq_eq_ok, failIf_ok, forEach_ok, SignedGroupOk,
    forall_getElem? (P := fun signed : String => ¬ signed = ""), ne_eq]

theorem Go.acceptAssembly_ok (req : AssemblyRequest) :
    Go.acceptAssembly env req reply = .ok resp ↔ reply.okBody = some resp ∧
      resp.requestId ≠ "" ∧ ValidRequestId resp.requestId ∧ SignedGroupOk resp.signedGroup := by
  simp only [Go.acceptAssembly, bind_eq_ok (α := AssemblyResponse), seq_eq_ok, decodeReply_ok,
    mapErr_ok, validateAssemblyResponse_ok, Go.validateSignRequestId_ok, pure_eq_ok]
  constructor
  · rintro ⟨_, h1, h2, rfl⟩
    exact ⟨h1, h2⟩
  · rintro ⟨h1, h2⟩
    exact ⟨resp, h1, h2, rfl⟩

theorem Python.acceptAssembly_ok (req : AssemblyRequest) :
    Python.acceptAssembly env req reply = .ok resp ↔ reply.okBody = some resp ∧ resp.error = "" ∧
      resp.requestId ≠ "" ∧ Python.IdOk env resp.requestId ∧ SignedGroupOk resp.signedGroup ∧
        resp.requestId = req.requestId := by
  simp only [Python.acceptAssembly, bind_eq_ok (α := AssemblyResponse), seq_eq_ok, decodeReply_ok,
    mapErr_ok, failIf_ok, validateAssemblyResponse_ok, pure_eq_ok, not_not, Python.IdOk]
  constructor
  · rintro ⟨_, h1, h2, ⟨h3, h4, h5⟩, h6, rfl⟩
    exact ⟨h1, h2, h3, h4, h5, h6⟩
  · rintro ⟨h1, h2, h3, h4, h5, h6⟩
    exact ⟨resp, h1, h2, ⟨h3, h4, h5⟩, h6, rfl⟩

theorem TypeScript.acceptAssembly_ok (req : AssemblyRequest) :
    TypeScript.acceptAssembly env req reply = .ok resp ↔ reply.okBody = some resp ∧
      resp.error = "" ∧ resp.requestId ≠ "" ∧ ValidRequestId resp.requestId ∧
        SignedGroupOk resp.signedGroup := by
  simp only [TypeScript.acceptAssembly, bind_eq_ok (α := AssemblyResponse), seq_eq_ok, decodeReply_ok,
    mapErr_ok, failIf_ok, validateAssemblyResponse_ok, TypeScript.validateSignRequestId_ok, pure_eq_ok,
    not_not]
  constructor
  · rintro ⟨_, h1, h2, h3, rfl⟩
    exact ⟨h1, h2, h3⟩
  · rintro ⟨h1, h2, h3⟩
    exact ⟨resp, h1, h2, h3, rfl⟩

end Accept

end AplaneSdk
