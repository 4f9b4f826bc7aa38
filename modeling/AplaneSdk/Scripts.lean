/-
# The choreographies of Python and TypeScript, over JSON answers

The steps are those of `signGuardedGroup` and its companions; what the signer
and the cosigners answer stays JSON from the answer to the assembly request.
Keys, request ids and plans are asked for as before, and what concerns only
the caller's own values is taken from the choreographies over typed answers.

Key definitions: `rawSigner`, `RawFlow`, `signingExchange`,
`Script.signGuardedGroup`, `Script.signPreparedBoundedCosignerGroup`,
`Entry.script`.
Key theorems: `runs_signingExchange_ok`.
-/
import AplaneSdk.Lib.Embedding
import AplaneSdk.Bodies
import AplaneSdk.Entries

namespace AplaneSdk

open Checks Interaction Interaction.Prog

/-- What is asked for signatures. -/
inductive SigningOp
  | components (client : Client) (req : ComponentRequest)
  | sign (client : Client) (req : GroupSignRequest)
  | assemble (client : Client) (req : RawAssemblyRequest)

abbrev signing : Iface := ⟨SigningOp, fun _ => Reply Json⟩

/-- On the left what is asked besides, as before. -/
abbrev rawSigner : Iface := signer.sum signing

abbrev RawFlow := Prog rawSigner SdkError

abbrev RawExchange := Event rawSigner

/-- A part of a choreography that asks for no signature. -/
abbrev quietly {α : Type} (p : Flow α) : RawFlow α := p.via Embedding.inl

/-- The shape of a call whose answer is JSON. -/
def signingExchange {Req Resp : Type} (fill : Flow String) (send : String → Req)
    (validate : Req → Except SdkError Unit) (op : Req → SigningOp)
    (accept : Req → Reply Json → Except SdkError Resp) : RawFlow Resp := do
  let id ← quietly fill
  liftM (validate (send id))
  let reply ← query (I := rawSigner) (.inr (op (send id)))
  liftM (accept (send id) reply)

section Flows

variable (s : Script)

/-- `request_components`, `requestComponents`. -/
def Script.requestComponents (client : Client) (req : ComponentRequest) : RawFlow RawComponentResponse :=
  signingExchange (fillRequestId s.dialect.calls "component" (req.purpose client) req.requestId)
    (fun id => { req with requestId := id })
    (fun sent => mapErr (SdkError.wrap "invalid component request: ")
      (s.dialect.calls.validateComponentRequest sent))
    (.components client) s.acceptComponents

/-- `sign_requests`, `signRequests`, called without an id. -/
def Script.signGroup (client : Client) (requests : List SignRequest) : RawFlow Json :=
  signingExchange (newRequestId s.dialect.calls "sign" .sign)
    (fun id => { requestId := id, requests := requests })
    s.dialect.calls.validateGroupSignRequest (.sign client) s.acceptSign

/-- The request as it is sent. -/
def Script.sent (req : RawAssemblyRequest) (id : String) : RawAssemblyRequest where
  requestId := id
  groupBytesHex := req.groupBytesHex
  targets := req.targets.map fun t =>
    { t with
      userSignature := s.forwarded t.userSignature
      baseSignatures := t.baseSignatures.map s.forwarded
      boundedRuntimeArgs := t.boundedRuntimeArgs.map s.forwarded
      assemblyReceipt := s.forwarded t.assemblyReceipt
      cosignerSignature := s.forwarded t.cosignerSignature }
  passthrough := req.passthrough.map fun item => { item with signedTxnHex := s.forwarded item.signedTxnHex }

/-- `request_assemble`, `requestAssemble`. -/
def Script.requestAssemble (client : Client) (req : RawAssemblyRequest) : RawFlow Json :=
  signingExchange (fillRequestId s.dialect.calls "assembly" .assemble req.requestId) (s.sent req)
    (fun sent => mapErr (SdkError.wrap "invalid assembly request: ")
      (s.dialect.calls.validateAssemblyRequest (sent.outline s.emptyIsTrue)))
    (.assemble client) s.acceptAssembly

/-! ### Component signatures -/

structure RawSignature where
  signature : Json
  requestId : String

/-- The signature of a component. Of a user or cosigner component it is there. -/
def Script.signature (c : RawComponent) : Json :=
  if s.lacks c "signature" = true then .str "" else (c.body.get? "signature").getD .null

def Script.signaturesOf (responses : List RawComponentResponse) : List (ℤ × RawSignature) :=
  responses.flatMap fun r => r.components.map fun c => (c.targetIndex, ⟨s.signature c, r.requestId⟩)

/-- The signature of index `i`; a later one replaces an earlier one. -/
def Script.signatureAt (responses : List RawComponentResponse) (i : ℤ) : Option RawSignature :=
  (s.signaturesOf responses).reverse.lookup i

def Script.requestUserComponentSignatures (user : Client) (frame : ComponentFrame)
    (targets : List GuardedSignTarget) : RawFlow (List RawComponentResponse) :=
  collect (fun p : String × List ℤ =>
    s.requestComponents user (componentRequestForIndices s.dialect frame .user p.1 p.2))
    (userGroups s.dialect targets)

/-- The request of one cosigner group. -/
def Script.requestCosignerGroup (frame : ComponentFrame) (group : CosignerGroup) :
    RawFlow RawComponentResponse :=
  match group.1.1 with
  | none => throw languageError
  | some client =>
    s.requestComponents client (componentRequestForIndices s.dialect frame .cosigner group.1.2 group.2)

def Script.requestCosignerComponentSignatures (cosigner : CosignerOptions) (frame : ComponentFrame)
    (targets : List GuardedSignTarget) : RawFlow (List RawComponentResponse) := do
  let resolved ← liftM (resolveAll s.dialect cosigner targets)
  let groups ← quietly (s.dialect.orderGroups (cosignerGroups resolved))
  collect (s.requestCosignerGroup frame) groups

/-! ### Primary positions -/

/-- What the primary signer returned for position `i`, as a passthrough item. -/
def Script.forwardPrimary (verifies : Bool) (group : List String) (body : Json) (i : ℤ) :
    Except SdkError RawPassthroughItem := do
  let slot := s.slot body i.toNat
  failIf (isOff s.emptyIsTrue slot = true)
    { text := s!"primary signer returned no signed transaction for target {i}" }
  let signed := slot.getD .null
  checkWhen verifies (s.matchesCanonical "primary passthrough" i.toNat signed (group.getD i.toNat ""))
  pure { targetIndex := i, signedTxnHex := signed }

def Script.forwardAll (verifies : Bool) (group : List String) (body : Json)
    (primaries : List GuardedPrimarySignTarget) : Except SdkError (List RawPassthroughItem) :=
  mapEach (fun _ => s.forwardPrimary verifies group body) 0 (sortIndices (primaries.map (·.targetIndex)))

/-- A passthrough item of the caller's, or a signed dummy. -/
def AssemblyPassthroughItem.raw (item : AssemblyPassthroughItem) : RawPassthroughItem where
  targetIndex := item.targetIndex
  signedTxnHex := .str item.signedTxnHex

/-- `_request_primary_guarded_passthrough`, `requestPrimaryGuardedPassthrough`. -/
def Script.requestPrimaryGuardedPassthrough (user : Client) (group : List String)
    (targets : List GuardedSignTarget) (primaries : List GuardedPrimarySignTarget)
    (passthrough : List AssemblyPassthroughItem) : RawFlow (Json × List RawPassthroughItem) := do
  let requests ← liftM (primaryEntries s.dialect group targets primaries passthrough)
  let body ← s.signGroup user requests
  let items ← liftM (s.forwardAll s.dialect.verifiesPrimary group body primaries)
  pure (body, items)

/-- The passthrough items of the caller, and those of the primary signer if
there are primary positions. -/
def Script.guardedPrimary (opts : GuardedSignOptions) (user : Client) (targets : List GuardedSignTarget) :
    RawFlow (Option Json × List RawPassthroughItem) := do
  let passthrough ← liftM (mapEach (fun _ => s.dialect.normalizePassthrough) 0 opts.passthrough)
  if opts.primaryTargets = [] then
    pure (none, passthrough.map (·.raw))
  else
    let (body, items) ← s.requestPrimaryGuardedPassthrough user opts.groupBytesHex targets
      opts.primaryTargets passthrough
    pure (some body, passthrough.map (·.raw) ++ items)

/-! ### Assembly -/

/-- What is left once the user side is complete, in both choreographies. -/
structure RawClosing where
  user : Client
  cosigner : CosignerOptions
  frame : ComponentFrame
  targets : List GuardedSignTarget
  assemblyRequestId : String
  verifies : Bool
  material : List RawComponentResponse → Except SdkError (List RawAssemblyTarget × List RawPassthroughItem)

def RawClosing.request (c : RawClosing) (material : List RawAssemblyTarget × List RawPassthroughItem) :
    RawAssemblyRequest where
  requestId := c.assemblyRequestId
  groupBytesHex := c.frame.groupBytesHex
  targets := material.1
  passthrough := material.2

/-- `_verify_bounded_assembled_group`, `verifyBoundedAssembledGroup`. -/
def Script.verifyAssembledGroup (group : List String) (body : Json) : Except SdkError Unit := do
  let signed ← s.groupItems (body.get? "signed_group")
  failIf (signed.length ≠ group.length)
    { text := s!"assembled group has {signed.length} transaction(s), want {group.length}" }
  forEach (fun i p => s.matchesCanonical "assembled transaction" i p.1 p.2) 0 (signed.zip group)

/-- The end of both choreographies: only here is the frozen group shown to a
cosigner. -/
def Script.cosignAndAssemble (c : RawClosing) : RawFlow (List RawComponentResponse × Json) := do
  let cosignerResponses ← s.requestCosignerComponentSignatures c.cosigner c.frame c.targets
  let material ← liftM (c.material cosignerResponses)
  let assembled ← s.requestAssemble c.user (c.request material)
  liftM (checkWhen c.verifies (s.verifyAssembledGroup c.frame.groupBytesHex assembled))
  pure (cosignerResponses, assembled)

/-- The assembly target of a guarded position. -/
def Script.guardedAssemblyTarget (user cosigner : List RawComponentResponse) (target : GuardedSignTarget) :
    Except SdkError RawAssemblyTarget :=
  match s.signatureAt user target.targetIndex with
  | none => signerError s!"missing user component signature for target {target.targetIndex}"
  | some u => match s.signatureAt cosigner target.targetIndex with
    | none => signerError s!"missing cosigner component signature for target {target.targetIndex}"
    | some c => .ok
      { targetIndex := target.targetIndex
        kind := .guarded
        authAddress := target.guardedAccount
        userSignature := u.signature
        userSourceRequestId := u.requestId
        cosignerSignature := c.signature
        cosignerSourceRequestId := c.requestId
        guardedRuntimeArgs := target.runtimeArgs }

def Script.guardedClosing (opts : GuardedSignOptions) (user : Client) (targets : List GuardedSignTarget)
    (userResponses : List RawComponentResponse) (passthrough : List RawPassthroughItem) : RawClosing where
  user := user
  cosigner := opts.cosigner
  frame := opts.frame targets
  targets := targets
  assemblyRequestId := opts.assemblyRequestId
  verifies := s.dialect.verifiesAssembled
  material cosignerResponses := do
    let assemblyTargets ← mapEach (fun _ => s.guardedAssemblyTarget userResponses cosignerResponses) 0 targets
    pure (assemblyTargets, passthrough)

/-- The signed group and the responses it was made from, all as they came. -/
structure RawSignResult where
  signedGroup : Json
  userComponentResponses : List RawComponentResponse := []
  cosignerComponentResponses : List RawComponentResponse := []
  primarySignResponse : Option Json := none
  assemblyResponse : Option Json := none
  boundedComponentResponse : Option RawComponentResponse := none
  boundedAssemblyResponse : Option Json := none

/-- `sign_guarded_group`, `signGuardedGroup`. -/
def Script.signGuardedGroup (opts : GuardedSignOptions) : RawFlow RawSignResult := do
  let (user, targets) ← liftM (guardedPrelude s.dialect opts)
  let userResponses ← s.requestUserComponentSignatures user (opts.frame targets) targets
  let (primaryResponse, passthrough) ← s.guardedPrimary opts user targets
  let (cosignerResponses, assembled) ←
    s.cosignAndAssemble (s.guardedClosing opts user targets userResponses passthrough)
  pure
    { signedGroup := (assembled.get? "signed_group").getD .null
      userComponentResponses := userResponses
      cosignerComponentResponses := cosignerResponses
      primarySignResponse := primaryResponse
      assemblyResponse := some assembled }

/-! ### The bounded choreography -/

/-- Each base component is that of a target, of its account, and none is missing. -/
def checkRawBaseComponents (targets : List GuardedSignTarget) (components : List RawComponent) :
    Except SdkError Unit := do
  let _ ← claimAll (·.targetIndex) (fun _ claimed c => do
    failIf (c.kind ≠ .boundedBase ∨ (targets.find? (·.targetIndex = c.targetIndex)).any
        (fun target => isText (c.body.get? "auth_address") target.guardedAccount) = false)
      { text := s!"signer returned unexpected bounded component target {c.targetIndex}" }
    failIf (c.targetIndex ∈ claimed)
      { text := s!"signer returned duplicate bounded component target {c.targetIndex}" }) 0 [] components
  forEach (fun _ t => failIf (t.targetIndex ∉ components.map (·.targetIndex))
    { text := s!"signer returned no bounded component for target index {t.targetIndex}" }) 0 targets

/-- `_request_bounded_primary_passthrough`, `requestBoundedPrimaryPassthrough`. -/
def Script.requestBoundedPrimaryPassthrough (user : Client) (group : List String) (slots : List Slot) :
    RawFlow (Option Json × List RawPassthroughItem) := do
  let primaries := slots.filterMap Slot.primary?
  if primaries = [] then
    pure (none, [])
  else
    let body ← s.signGroup user (group.zipIdx.map fun p => boundedEntry s.dialect slots p.2 p.1)
    let items ← liftM (s.forwardAll true group body primaries)
    pure (some body, items)

/-- The assembly target of a bounded position. -/
def Script.boundedAssemblyTarget (base : RawComponentResponse) (cosigner : List RawComponentResponse)
    (target : GuardedSignTarget) : Except SdkError RawAssemblyTarget :=
  match base.components.find? (·.targetIndex = target.targetIndex) with
  | none => signerError s!"missing bounded base component for target {target.targetIndex}"
  | some component => match s.signatureAt cosigner target.targetIndex with
    | none => signerError s!"missing cosigner component signature for target {target.targetIndex}"
    | some c => do
      let signatures ← s.baseSignatures ((component.body.get? "base_signatures").getD .null)
      let args ←
        if s.lacks component "runtime_args" = true then pure none
        else some <$> s.mapping ((component.body.get? "runtime_args").getD .null)
      pure
        { targetIndex := target.targetIndex
          kind := .boundedCosigner
          authAddress := target.guardedAccount
          baseSignatures := signatures
          boundedRuntimeArgs := args
          assemblyReceipt := (component.body.get? "assembly_receipt").getD .null
          baseSourceRequestId := base.requestId
          cosignerSignature := c.signature
          cosignerSourceRequestId := c.requestId }

def Script.boundedClosing (opts : PreparedGuardedGroupOptions) (user : Client) (slots : List Slot)
    (group : List String) (planned : List Txn) (base : RawComponentResponse)
    (items : List RawPassthroughItem) : RawClosing where
  user := user
  cosigner := opts.cosigner
  frame := boundedFrame s.dialect group slots
  targets := slots.filterMap Slot.target?
  assemblyRequestId := opts.assemblyRequestId
  verifies := true
  material cosignerResponses := do
    let dummies ← signGuardedDummies s.dialect.codec s.dialect.addressFailure s.dialect.signFailure
      (planned.drop slots.length) slots.length
    let assemblyTargets ← mapEach (fun _ => s.boundedAssemblyTarget base cosignerResponses) 0
      (slots.filterMap Slot.target?)
    pure (assemblyTargets, items ++ dummies.map (·.raw))

/-- `sign_prepared_bounded_cosigner_group`, `signPreparedBoundedCosignerGroup`. -/
def Script.signPreparedBoundedCosignerGroup (opts : PreparedGuardedGroupOptions) : RawFlow RawSignResult := do
  let (user, slots, group, planned) ← quietly (planBounded s.dialect opts)
  let base ← s.requestComponents user (baseComponentRequest group slots)
  liftM (checkRawBaseComponents (slots.filterMap Slot.target?) base.components)
  let (primaryResponse, items) ← s.requestBoundedPrimaryPassthrough user group slots
  let (cosignerResponses, assembled) ←
    s.cosignAndAssemble (s.boundedClosing opts user slots group planned base items)
  pure
    { signedGroup := (assembled.get? "signed_group").getD .null
      cosignerComponentResponses := cosignerResponses
      primarySignResponse := primaryResponse
      assemblyResponse := if s.dialect.repeatsAssembly then some assembled else none
      boundedComponentResponse := some base
      boundedAssemblyResponse := some assembled }

/-- `sign_prepared_guarded_group`, `signPreparedGuardedGroup`. -/
def Script.signPreparedGuardedGroup (opts : PreparedGuardedGroupOptions) : RawFlow RawSignResult := do
  let keys ← quietly (collect (preparedFlowKey s.dialect opts.userClient) opts.transactions.zipIdx)
  if hasFlow signingFlowBoundedCosigner1 keys then
    if hasFlow signingFlowCosigner1 keys then
      throw (s.dialect.err "cannot mix cosigner1 and bounded-cosigner1 targets in one group")
    else s.signPreparedBoundedCosignerGroup (withKeys s.dialect opts keys)
  else
    let signOpts ← quietly (buildPreparedGuardedSignOptions s.dialect (withKeys s.dialect opts keys))
    s.signGuardedGroup signOpts

def Entry.script : Entry → RawFlow RawSignResult
  | guarded opts => s.signGuardedGroup opts
  | bounded opts => s.signPreparedBoundedCosignerGroup opts
  | prepared opts => s.signPreparedGuardedGroup opts

end Flows

/-! ### What a run leaves behind -/

/-- The kind of an exchange, as in the choreographies over typed answers. -/
def rawKind : RawExchange → ExchangeKind
  | ⟨.inl o, a⟩ => exchangeKind ⟨o, a⟩
  | ⟨.inr (.components _ req), _⟩ =>
    if req.targets.any (·.kind = .cosigner) then .cosignerComponents else .userComponents
  | ⟨.inr (.sign ..), _⟩ => .sign
  | ⟨.inr (.assemble ..), _⟩ => .assemble

def RawExchange.aside : RawExchange → Option Exchange
  | ⟨.inl o, a⟩ => some ⟨o, a⟩
  | ⟨.inr _, _⟩ => none

/-- What was asked besides signatures. -/
def aside (t : Trace rawSigner) : Trace signer := t.filterMap RawExchange.aside

theorem aside_via (t : Trace signer) : aside (t.map (Event.via Embedding.inl)) = t := by
  rw [aside, List.filterMap_map]
  exact List.filterMap_some

theorem aside_append (t t' : Trace rawSigner) : aside (t ++ t') = aside t ++ aside t' :=
  List.filterMap_append

theorem aside_mono {t t' : Trace rawSigner} (h : t ⊆ t') : aside t ⊆ aside t' := by
  intro e he
  obtain ⟨e', he', ha⟩ := List.mem_filterMap.mp he
  exact List.mem_filterMap.mpr ⟨e', h he', ha⟩

/-- An exchange with a cosigner or the assembler. -/
def RawCloses (e : RawExchange) : Prop := rawKind e = .cosignerComponents ∨ rawKind e = .assemble

/-- The program leaves only exchanges of these kinds behind. -/
abbrev OnlyRawKinds {α : Type} (kinds : List ExchangeKind) (p : RawFlow α) : Prop :=
  Emits (fun e => rawKind e ∈ kinds) p

theorem OnlyRawKinds.not_closes {α : Type} {kinds : List ExchangeKind} {p : RawFlow α}
    (h : OnlyRawKinds kinds p) (hc : .cosignerComponents ∉ kinds) (ha : .assemble ∉ kinds) :
    Emits (fun e => ¬ RawCloses e) p := by
  rintro t r hr e he (hkind | hkind)
  · exact hc (hkind ▸ h t r hr e he)
  · exact ha (hkind ▸ h t r hr e he)

theorem onlyRawKinds_quietly {α : Type} {kinds : List ExchangeKind} {p : Flow α} (h : OnlyKinds kinds p) :
    OnlyRawKinds kinds (quietly p) := emits_via h

section Exchange

variable {Req Resp : Type} {fill : Flow String} {send : String → Req} {validate : Req → Except SdkError Unit}
  {op : Req → SigningOp} {accept : Req → Reply Json → Except SdkError Resp}

theorem emits_signingExchange {S : RawExchange → Prop} (hfill : Emits S (quietly fill))
    (hop : ∀ id reply, S ⟨.inr (op (send id)), reply⟩) :
    Emits S (signingExchange fill send validate op accept) :=
  emits_bind hfill fun id => emits_bind (emits_lift _) fun _ =>
    emits_bind (emits_query (I := rawSigner) (hop id)) fun _ => emits_lift _

/-- A call that succeeded sent a valid request and accepted the answer. -/
theorem runs_signingExchange_ok {t : Trace rawSigner} {resp : Resp}
    (h : Runs (signingExchange fill send validate op accept) t (.ok resp)) :
    ∃ id reply, validate (send id) = .ok () ∧ (⟨.inr (op (send id)), reply⟩ : RawExchange) ∈ t ∧
      accept (send id) reply = .ok resp := by
  obtain ⟨id, t₁, t₂, rfl, -, h⟩ := runs_bind_ok.mp h
  obtain ⟨_, hvalid, h⟩ := runs_lift_bind_ok.mp h
  obtain ⟨reply, t₃, rfl, -, hacc⟩ := runs_query_bind.mp h
  exact ⟨id, reply, hvalid, List.mem_append_right _ (List.mem_cons_self ..), hacc.symm⟩

end Exchange

end AplaneSdk
