/-
# The bounded-cosigner choreography, and the choice between the two

`signPreparedBoundedCosignerGroup` plans a prepared group, checks the plan
against the report, and then goes the way of the guarded choreography with
one base request in place of the requests for each account.
`signPreparedGuardedGroup` looks at the keys of the slots and takes one of
the two ways.

Key definitions: `PreparedGuardedGroupOptions`,
`signPreparedBoundedCosignerGroup`, `buildPreparedGuardedSignOptions`,
`signPreparedGuardedGroup`.
-/
import AplaneSdk.Guarded

namespace AplaneSdk

open Checks Interaction Interaction.Prog

structure PreparedGuardedGroupOptions where
  userClient : Option Client
  cosigner : CosignerOptions
  transactions : List PreparedTransaction
  assemblyRequestId : String := ""

/-- The positions from `start` up to `stop`. -/
def contiguousIndices (start stop : ℕ) : List ℤ := (List.range' start (stop - start)).map fun i : ℕ => (i : ℤ)

def sortSlots (sort : ℕ → PreparedTransaction → Flow Slot) (prepared : List PreparedTransaction) :
    Flow (List Slot) :=
  collect (fun p : PreparedTransaction × ℕ => sort p.2 p.1) prepared.zipIdx

/-- The start of both choreographies: sort the slots, have them planned, and
check the plan. -/
def planSlots (d : Dialect) (slot : Client → ℕ → PreparedTransaction → Flow Slot) (noTargets : String)
    (wrap : SdkError → SdkError) (check : List Slot → PlanGroupResponse → Except SdkError (List Txn))
    (opts : PreparedGuardedGroupOptions) : Flow (Client × List Slot × List String × List Txn) := do
  let user ← liftM (requireUser d opts.userClient)
  liftM (failIf (opts.transactions = []) (d.err "prepared group is empty"))
  let slots ← sortSlots (slot user) opts.transactions
  liftM (failIf (slots.filterMap Slot.target? = []) (d.err noTargets))
  let plan ← (planRequests d.calls user (slots.map (·.request))).mapError wrap
  let planned ← liftM (check slots plan)
  pure (user, slots, plan.transactions, planned)

/-! ### The bounded choreography -/

/-- The maximal fees the keys of the targets advertise. -/
def targetMaxFees (slots : List Slot) : List (ℕ × ℤ) :=
  slots.zipIdx.filterMap fun p => match p.1.role with
    | .cosigned _ (some maxFee) => some (p.2, maxFee)
    | _ => none

/-- The checks of the plan of a bounded group. -/
def checkBoundedPlan (d : Dialect) (slots : List Slot) (plan : PlanGroupResponse) :
    Except SdkError (List Txn) := do
  checkWhen d.comparesLengthFirst (failIf (plan.transactions.length < slots.length)
    { text := s!"signer returned {plan.transactions.length} bounded group positions, want at least {slots.length}" })
  let planned ← mapErr (d.context "signer returned invalid bounded canonical group: ")
    (decodeCanonicalGroup d.codec plan.transactions)
  validateBoundedComponentPlan d.codec d.addressFailure (slots.map (·.txn)) planned (d.planView plan.mutations)
  validateBoundedTargetFees d.maxFeeOk planned (targetMaxFees slots)
  pure planned

/-- The base request: all targets at once, with the planner's bytes. -/
def baseComponentRequest (group : List String) (slots : List Slot) : ComponentRequest where
  groupBytesHex := group
  targets := slots.zipIdx.filterMap fun p => p.1.target?.map fun _ =>
    { targetIndex := (p.2 : ℤ)
      kind := .boundedBase
      authAddress := p.1.request.authAddress
      lsigArgs := p.1.request.lsigArgs
      appCallInfo := p.1.request.appCallInfo }
  contextualPositions := slots.zipIdx.filterMap fun p => p.1.primary?.map fun _ =>
    { targetIndex := (p.2 : ℤ)
      lsigResources := p.1.request.lsigResources
      pqScheme := p.1.request.pqScheme
      appCallInfo := p.1.request.appCallInfo }
  dummyPositions := (contiguousIndices slots.length group.length).map fun i => { targetIndex := i }

/-- Each base component is that of a target, of its account, and none is missing. -/
def checkBaseComponents (targets : List GuardedSignTarget) (components : List Component) :
    Except SdkError Unit := do
  let _ ← claimAll (·.targetIndex) (fun _ claimed c => do
    failIf (c.kind ≠ .boundedBase ∨
        some c.authAddress ≠ (targets.find? (·.targetIndex = c.targetIndex)).map (·.guardedAccount))
      { text := s!"signer returned unexpected bounded component target {c.targetIndex}" }
    failIf (c.targetIndex ∈ claimed)
      { text := s!"signer returned duplicate bounded component target {c.targetIndex}" }) 0 [] components
  forEach (fun _ t => failIf (t.targetIndex ∉ components.map (·.targetIndex))
    { text := s!"signer returned no bounded component for target index {t.targetIndex}" }) 0 targets

/-- The entry of position `i` at `/sign`; a position without a slot is a dummy. -/
def boundedEntry (d : Dialect) (slots : List Slot) (i : ℕ) (txnHex : String) : SignRequest :=
  match slots[i]? with
  | none => { txnBytesHex := txnHex, lsigResources := some guardedDummyLogicSigResources }
  | some slot => match slot.role with
    | .cosigned target _ => { txnBytesHex := txnHex, lsigResources := target.logicSigResources }
    | .primary target => d.primaryRequest txnHex target

/-- `requestBoundedPrimaryPassthrough`. Go checks the indices of the primary
targets again; they are the positions of their slots. -/
def requestBoundedPrimaryPassthrough (d : Dialect) (user : Client) (group : List String)
    (slots : List Slot) : Flow (Option GroupSignResponse × List AssemblyPassthroughItem) := do
  let primaries := slots.filterMap Slot.primary?
  if primaries = [] then
    pure (none, [])
  else
    let response ← (signGroup d.calls user (group.zipIdx.map fun p => boundedEntry d slots p.2 p.1)).mapError
      (d.context "signing non-bounded group positions failed: ")
    let items ← liftM (forwardAll d true group response.signed primaries)
    pure (some response, items)

/-- The assembly target of a bounded position. -/
def boundedAssemblyTarget (d : Dialect) (base : ComponentResponse) (cosigner : List ComponentResponse)
    (target : GuardedSignTarget) : Except SdkError AssemblyTarget :=
  match base.components.find? (·.targetIndex = target.targetIndex) with
  | none => signerError s!"missing bounded base component for target {target.targetIndex}"
  | some component => match signatureAt cosigner target.targetIndex with
    | none => signerError s!"missing cosigner component signature for target {target.targetIndex}"
    | some c => .ok
      { targetIndex := target.targetIndex
        kind := .boundedCosigner
        authAddress := target.guardedAccount
        baseSignatures := component.baseSignatures
        boundedRuntimeArgs := d.runtimeArgs component.runtimeArgs
        assemblyReceipt := component.assemblyReceipt
        baseSourceRequestId := base.requestId
        cosignerSignature := c.signature
        cosignerSourceRequestId := c.requestId }

def boundedFrame (d : Dialect) (group : List String) (slots : List Slot) : ComponentFrame where
  groupBytesHex := group
  dummyPositions := contiguousIndices slots.length group.length
  appCallInfo i := (slots[i.toNat]?).bind d.slotInfo

def planBounded (d : Dialect) (opts : PreparedGuardedGroupOptions) :
    Flow (Client × List Slot × List String × List Txn) :=
  planSlots d (boundedSlot d.rules) "prepared group has no bounded-cosigner targets"
    (d.context "bounded group planning failed: ") (checkBoundedPlan d) opts

def boundedClosing (d : Dialect) (opts : PreparedGuardedGroupOptions) (user : Client) (slots : List Slot)
    (group : List String) (planned : List Txn) (base : ComponentResponse)
    (items : List AssemblyPassthroughItem) : Closing where
  user := user
  cosigner := opts.cosigner
  frame := boundedFrame d group slots
  targets := slots.filterMap Slot.target?
  assemblyRequestId := opts.assemblyRequestId
  wrap := d.context "bounded-cosigner assembly failed: "
  verifies := true
  material cosignerResponses := do
    let dummies ← signGuardedDummies d.codec d.addressFailure d.signFailure
      (planned.drop slots.length) slots.length
    let assemblyTargets ← mapEach (fun _ => boundedAssemblyTarget d base cosignerResponses) 0
      (slots.filterMap Slot.target?)
    pure (assemblyTargets, items ++ dummies)

/-- `SignPreparedBoundedCosignerGroup` and its siblings. -/
def signPreparedBoundedCosignerGroup (d : Dialect) (opts : PreparedGuardedGroupOptions) :
    Flow GuardedSignResult := do
  let (user, slots, group, planned) ← planBounded d opts
  let base ← (requestComponents d.calls user (baseComponentRequest group slots)).mapError
    (d.context "bounded base component signing failed: ")
  liftM (checkBaseComponents (slots.filterMap Slot.target?) base.components)
  let (primaryResponse, items) ← requestBoundedPrimaryPassthrough d user group slots
  let (cosignerResponses, assemblyResponse) ←
    cosignAndAssemble d (boundedClosing d opts user slots group planned base items)
  pure
    { signedGroup := assemblyResponse.signedGroup
      cosignerComponentResponses := cosignerResponses
      primarySignResponse := primaryResponse
      assemblyResponse := if d.repeatsAssembly then some assemblyResponse else none
      boundedComponentResponse := some base
      boundedAssemblyResponse := some assemblyResponse }

/-! ### The guarded choreography from prepared slots -/

/-- The checks of the plan of a guarded group. -/
def checkGuardedPlan (d : Dialect) (slots : List Slot) (plan : PlanGroupResponse) :
    Except SdkError (List Txn) := do
  let planned ← mapErr d.wrapPlanDecoding (decodeCanonicalGroup d.codec plan.transactions)
  mapErr d.wrapPlanCheck (validateBoundedComponentPlan d.codec d.addressFailure (slots.map (·.txn)) planned
    (d.planView plan.mutations))
  pure planned

/-- `buildPreparedGuardedSignOptions`. -/
def buildPreparedGuardedSignOptions (d : Dialect) (opts : PreparedGuardedGroupOptions) :
    Flow GuardedSignOptions := do
  let (user, slots, _, planned) ← planSlots d (guardedSlot d.rules) "prepared group has no guarded targets"
    d.wrapPlanning (checkGuardedPlan d) opts
  let dummies ← liftM (signGuardedDummies d.codec d.addressFailure d.signFailure
    (planned.drop slots.length) slots.length)
  pure
    { userClient := some user
      cosigner := opts.cosigner
      groupBytesHex := planned.map fun txn => hexEncode (d.codec.sdk.encodeTxn txn)
      targets := slots.filterMap Slot.target?
      primaryTargets := slots.filterMap Slot.primary?
      passthrough := dummies
      dummyPositions := contiguousIndices slots.length planned.length
      assemblyRequestId := opts.assemblyRequestId }

/-- The key a slot is sorted by before a choreography is chosen. -/
def preparedFlowKey (d : Dialect) (user : Option Client) (p : PreparedTransaction × ℕ) :
    Flow (Option KeyInfo) :=
  match user with
  | some user => lookupKey user (d.wrapFlowKind p.2) p.1
  | none =>
    if p.1.signerKey = none ∧ p.1.authAddress ≠ "" then
      throw (d.wrapFlowKind p.2 { kind := .type, text := "no user client" })
    else pure p.1.signerKey

def hasFlow (flow : String) (keys : List (Option KeyInfo)) : Bool :=
  keys.any fun key => (key.map (·.signingFlow)) == some flow

/-- Go's slots keep the keys found for the choice of the flow. -/
def withKeys (d : Dialect) (opts : PreparedGuardedGroupOptions) (keys : List (Option KeyInfo)) :
    PreparedGuardedGroupOptions :=
  if d.keepsKeys then
    { opts with transactions := (opts.transactions.zip keys).map fun p => { p.1 with signerKey := p.2 } }
  else opts

/-- `SignPreparedGuardedGroup` and its siblings. -/
def signPreparedGuardedGroup (d : Dialect) (opts : PreparedGuardedGroupOptions) :
    Flow GuardedSignResult := do
  liftM (checkWhen d.requiresUserFirst (failIf (opts.userClient = none) d.userRequired))
  let keys ← collect (preparedFlowKey d opts.userClient) opts.transactions.zipIdx
  if hasFlow signingFlowBoundedCosigner1 keys then
    if hasFlow signingFlowCosigner1 keys then
      throw (d.err "cannot mix cosigner1 and bounded-cosigner1 targets in one group")
    else signPreparedBoundedCosignerGroup d (withKeys d opts keys)
  else
    let signOpts ← buildPreparedGuardedSignOptions d (withKeys d opts keys)
    signGuardedGroup d signOpts

end AplaneSdk
