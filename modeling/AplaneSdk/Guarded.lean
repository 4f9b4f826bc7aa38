/-
# The guarded choreography

`signGuardedGroup` collects a component signature of the user signer for
every guarded position, has the primary signer sign the ordinary positions,
then asks the cosigners, and has the signer assemble the group. The SDKs
share the steps; `Dialect` holds what they do differently, among it the two
checks only some of them make: that the primary signer signed the requested
transactions, and that the assembled group is the submitted one.

Key definitions: `Dialect`, `GuardedSignOptions`,
`requestUserComponentSignatures`, `requestPrimaryGuardedPassthrough`,
`requestCosignerComponentSignatures`, `signGuardedGroup`.
-/
import AplaneSdk.Prepared

namespace AplaneSdk

open Checks Grouping Interaction Interaction.Prog

/-- The caller's choice of a cosigner for a target. A stateful resolver is
asked once a target, so a function of the target loses nothing. -/
abbrev CosignerResolver := GuardedSignTarget → Except SdkError (Option Client × String)

/-- Where cosigners come from. -/
structure CosignerOptions where
  client : Option Client := none
  resolver : Option CosignerResolver := none
  componentKey : String := ""

structure GuardedSignOptions where
  userClient : Option Client
  cosigner : CosignerOptions
  groupBytesHex : List String
  targets : List GuardedSignTarget
  primaryTargets : List GuardedPrimarySignTarget := []
  passthrough : List AssemblyPassthroughItem := []
  dummyPositions : List ℤ := []
  assemblyRequestId : String := ""

/-- The signed group and the responses it was made from. -/
structure GuardedSignResult where
  signedGroup : List String
  userComponentResponses : List ComponentResponse := []
  cosignerComponentResponses : List ComponentResponse := []
  primarySignResponse : Option GroupSignResponse := none
  assemblyResponse : Option AssemblyResponse := none
  boundedComponentResponse : Option ComponentResponse := none
  boundedAssemblyResponse : Option AssemblyResponse := none

/-- What the SDKs do differently in a choreography. -/
structure Dialect where
  calls : Calls
  codec : Codec
  rules : SlotRules
  /-- How the mutation report of an accepted plan is read. -/
  planView : Option Json → Option ReportView
  /-- The test that a signed transaction is one of the canonical bytes. -/
  matchesCanonical : String → ℕ → String → String → Except SdkError Unit
  /-- The test of an advertised maximal fee. -/
  maxFeeOk : ℤ → Bool
  addressFailure : String → SdkError
  signFailure : ℕ → String → SdkError
  err : String → SdkError
  userRequired : SdkError
  cosignerRequired : SdkError
  /-- A resolver that returns no client fails here, or panics when the client is used. -/
  refusesNoClient : Bool
  /-- The first checks of `signGuardedGroup`. -/
  precheck : GuardedSignOptions → Except SdkError Unit
  accountField : String
  addressField : String
  checkTargetResources : ℤ → Option LogicSigResourceUsage → Except SdkError Unit
  checkAuthorization : ℤ → GuardedPassthroughAuthorization → Except SdkError Unit
  normalizePassthrough : AssemblyPassthroughItem → Except SdkError AssemblyPassthroughItem
  /-- The order of accounts. -/
  accountLe : String → String → Bool
  /-- The positions before the dummies, from the lengths of group and dummies. -/
  originalCount : ℕ → ℕ → ℕ
  /-- The app-call metadata of a component target. -/
  targetInfo : Option AppCallInfo → Option AppCallInfo
  /-- The entry of a primary position at `/sign`. -/
  primaryRequest : String → GuardedPrimarySignTarget → SignRequest
  /-- The order in which cosigner groups are asked. -/
  orderGroups : List CosignerGroup → Flow (List CosignerGroup)
  runtimeArgs : Option (List (String × String)) → Option (List (String × String))
  /-- Whether `signGuardedGroup` verifies what the primary signer signed. -/
  verifiesPrimary : Bool
  /-- Whether `signGuardedGroup` verifies the assembled group. -/
  verifiesAssembled : Bool
  /-- More text in front of an error, in Go only. -/
  context : String → SdkError → SdkError
  wrapPlanning : SdkError → SdkError
  wrapPlanDecoding : SdkError → SdkError
  wrapPlanCheck : SdkError → SdkError
  /-- Whether the length of a bounded plan is compared before decoding. -/
  comparesLengthFirst : Bool
  /-- The app-call metadata of a slot in the cosigner requests of a bounded group. -/
  slotInfo : Slot → Option AppCallInfo
  /-- Whether a bounded result carries its assembly response a second time. -/
  repeatsAssembly : Bool
  /-- Whether a missing user client is refused before keys are looked up. -/
  requiresUserFirst : Bool
  wrapFlowKind : ℕ → SdkError → SdkError
  /-- Whether the keys found for the choice of the flow are kept. -/
  keepsKeys : Bool

/-! ### Component signatures -/

/-- A component signature with the request it answers. -/
structure ComponentSignature where
  signature : String
  requestId : String
  deriving DecidableEq

/-- The signatures of responses by index. -/
def signaturesOf (responses : List ComponentResponse) : List (ℤ × ComponentSignature) :=
  responses.flatMap fun r => r.components.map fun c => (c.targetIndex, ⟨c.signature, r.requestId⟩)

/-- The signature of index `i`; a later one replaces an earlier one. -/
def signatureAt (responses : List ComponentResponse) (i : ℤ) : Option ComponentSignature :=
  (signaturesOf responses).reverse.lookup i

def sortIndices (indices : List ℤ) : List ℤ := indices.insertionSort (· ≤ ·)

/-- What all component requests for one group share. -/
structure ComponentFrame where
  groupBytesHex : List String
  dummyPositions : List ℤ
  appCallInfo : ℤ → Option AppCallInfo

/-- `componentRequestForIndices`. -/
def componentRequestForIndices (d : Dialect) (frame : ComponentFrame) (kind : ComponentTargetKind)
    (key : String) (indices : List ℤ) : ComponentRequest where
  groupBytesHex := frame.groupBytesHex
  targets := indices.map fun i =>
    { targetIndex := i
      kind := kind
      authAddress := if kind = .user then key else ""
      componentKey := if kind = .user then "" else key
      appCallInfo := d.targetInfo (frame.appCallInfo i) }
  contextualPositions :=
    (((List.range (d.originalCount frame.groupBytesHex.length frame.dummyPositions.length)).map
      (fun i : ℕ => (i : ℤ))).filter (· ∉ indices)).map fun i =>
        { targetIndex := i, appCallInfo := frame.appCallInfo i }
  dummyPositions := frame.dummyPositions.map fun i => { targetIndex := i }

/-- The accounts with the indices of their targets. -/
def userGroups (d : Dialect) (targets : List GuardedSignTarget) : List (String × List ℤ) :=
  ((groupBy (·.guardedAccount) targets).map fun p => (p.1, sortIndices (p.2.map (·.targetIndex)))).insertionSort
    fun a b => d.accountLe a.1 b.1 = true

/-- `requestUserComponentSignatures`: one request for each account. -/
def requestUserComponentSignatures (d : Dialect) (user : Client) (frame : ComponentFrame)
    (targets : List GuardedSignTarget) : Flow (List ComponentResponse) :=
  collect (fun p : String × List ℤ =>
    requestComponents d.calls user (componentRequestForIndices d frame .user p.1 p.2)) (userGroups d targets)

/-- `resolveGuardedCosigner`. -/
def resolveGuardedCosigner (d : Dialect) (cosigner : CosignerOptions) (target : GuardedSignTarget) :
    Except SdkError (Option Client × String) :=
  match cosigner.resolver with
  | some resolve => do
    let resolved ← resolve target
    failIf (d.refusesNoClient = true ∧ resolved.1 = none) { text := "cosigner resolver returned no client" }
    pure resolved
  | none => match cosigner.client with
    | none => .error d.cosignerRequired
    | some client => .ok (some client,
        if target.cosignerComponentKey = "" then cosigner.componentKey else target.cosignerComponentKey)

/-- The resolution of every target, in order. -/
def resolveAll (d : Dialect) (cosigner : CosignerOptions) (targets : List GuardedSignTarget) :
    Except SdkError (List ((Option Client × String) × ℤ)) :=
  mapEach (fun _ target => do
    let resolved ← resolveGuardedCosigner d cosigner target
    pure (resolved, target.targetIndex)) 0 targets

def cosignerGroups (resolved : List ((Option Client × String) × ℤ)) : List CosignerGroup :=
  (groupBy Prod.fst resolved).map fun p => (p.1, sortIndices (p.2.map Prod.snd))

/-- The request of one cosigner group. -/
def requestCosignerGroup (d : Dialect) (frame : ComponentFrame) (group : CosignerGroup) :
    Flow ComponentResponse :=
  match group.1.1 with
  | none => throw { kind := .type, text := "nil pointer dereference" }
  | some client =>
    requestComponents d.calls client (componentRequestForIndices d frame .cosigner group.1.2 group.2)

/-- `requestCosignerComponentSignatures`: resolve all targets, then one
request for each cosigner and component key. -/
def requestCosignerComponentSignatures (d : Dialect) (cosigner : CosignerOptions) (frame : ComponentFrame)
    (targets : List GuardedSignTarget) : Flow (List ComponentResponse) := do
  let resolved ← liftM (resolveAll d cosigner targets)
  let groups ← d.orderGroups (cosignerGroups resolved)
  collect (requestCosignerGroup d frame) groups

/-! ### Primary positions -/

/-- A check an SDK may leave out. -/
def checkWhen (makes : Bool) (check : Except SdkError Unit) : Except SdkError Unit :=
  if makes then check else .ok ()

@[simp] theorem checkWhen_ok {makes : Bool} {check : Except SdkError Unit} {u : Unit} :
    checkWhen makes check = .ok u ↔ (makes = true → check = .ok ()) := by
  cases makes <;> simp [checkWhen]

def checkPrimaryTarget (d : Dialect) (n : ℕ) (guarded : List ℤ) (claimed : List ℤ)
    (t : GuardedPrimarySignTarget) : Except SdkError Unit := do
  failIf (t.targetIndex < 0 ∨ n ≤ t.targetIndex) (d.err s!"primary target {t.targetIndex} out of range")
  failIf (t.targetIndex ∈ guarded) (d.err s!"primary target {t.targetIndex} overlaps guarded target")
  failIf (t.targetIndex ∈ claimed) (d.err s!"duplicate primary target index {t.targetIndex}")
  failIf (t.authAddress = "") (d.err s!"primary target {t.targetIndex} missing {d.addressField}")

def checkPassthroughItem (d : Dialect) (n : ℕ) (guarded primary : List ℤ) (claimed : List ℤ)
    (item : AssemblyPassthroughItem) : Except SdkError Unit := do
  failIf (item.targetIndex < 0 ∨ n ≤ item.targetIndex)
    (d.err s!"passthrough target {item.targetIndex} out of range")
  failIf (item.targetIndex ∈ claimed) (d.err s!"duplicate passthrough target index {item.targetIndex}")
  failIf (item.targetIndex ∈ primary) (d.err s!"passthrough target {item.targetIndex} overlaps primary target")
  failIf (item.targetIndex ∈ guarded) (d.err s!"passthrough target {item.targetIndex} overlaps guarded target")
  match item.authorization with
  | none => .error (d.err s!"passthrough target {item.targetIndex} missing planning authorization")
  | some authorization => d.checkAuthorization item.targetIndex authorization

/-- The entry of position `i` at `/sign`: to be signed, or foreign with the
resources of whoever signs it. -/
def primaryEntry (d : Dialect) (targets : List GuardedSignTarget)
    (primaries : List GuardedPrimarySignTarget) (passthrough : List AssemblyPassthroughItem) (i : ℕ)
    (txnHex : String) : Except SdkError SignRequest :=
  match primaries.find? (·.targetIndex = (i : ℤ)) with
  | some target => .ok (d.primaryRequest txnHex target)
  | none => match targets.find? (·.targetIndex = (i : ℤ)) with
    | some target => .ok { txnBytesHex := txnHex, lsigResources := target.logicSigResources }
    | none => match passthrough.find? (·.targetIndex = (i : ℤ)) with
      | some item => .ok
        { txnBytesHex := txnHex
          lsigResources := item.authorization.bind (·.logicSigResources)
          pqScheme := (item.authorization.map (·.pqScheme)).getD "" }
      | none => .error (d.err s!"group position {i} has no guarded, primary, or passthrough target")

/-- What the primary signer returned for position `i`, as a passthrough item.
Go ranges over a map here, and the order only selects the complaint. -/
def forwardPrimary (d : Dialect) (verifies : Bool) (group signed : List String) (i : ℤ) :
    Except SdkError AssemblyPassthroughItem := do
  let signedHex := signed.getD i.toNat ""
  failIf (signedHex = "") { text := s!"primary signer returned no signed transaction for target {i}" }
  checkWhen verifies (d.matchesCanonical "primary passthrough" i.toNat signedHex (group.getD i.toNat ""))
  pure { targetIndex := i, signedTxnHex := signedHex }

def forwardAll (d : Dialect) (verifies : Bool) (group signed : List String)
    (primaries : List GuardedPrimarySignTarget) : Except SdkError (List AssemblyPassthroughItem) :=
  mapEach (fun _ => forwardPrimary d verifies group signed) 0 (sortIndices (primaries.map (·.targetIndex)))

/-- The checks of `requestPrimaryGuardedPassthrough` and the requests it sends. -/
def primaryEntries (d : Dialect) (group : List String) (targets : List GuardedSignTarget)
    (primaries : List GuardedPrimarySignTarget) (passthrough : List AssemblyPassthroughItem) :
    Except SdkError (List SignRequest) := do
  let n := group.length
  let guarded := targets.map (·.targetIndex)
  let primary ← claimAll (·.targetIndex) (fun _ => checkPrimaryTarget d n guarded) 0 [] primaries
  let _ ← claimAll (·.targetIndex) (fun _ => checkPassthroughItem d n guarded primary) 0 [] passthrough
  mapEach (primaryEntry d targets primaries passthrough) 0 group

/-- `requestPrimaryGuardedPassthrough`. -/
def requestPrimaryGuardedPassthrough (d : Dialect) (user : Client) (group : List String)
    (targets : List GuardedSignTarget) (primaries : List GuardedPrimarySignTarget)
    (passthrough : List AssemblyPassthroughItem) :
    Flow (GroupSignResponse × List AssemblyPassthroughItem) := do
  let requests ← liftM (primaryEntries d group targets primaries passthrough)
  let response ← signGroup d.calls user requests
  let items ← liftM (forwardAll d d.verifiesPrimary group response.signed primaries)
  pure (response, items)

/-! ### Assembly -/

/-- The assembly target of a guarded position. -/
def guardedAssemblyTarget (user cosigner : List ComponentResponse) (target : GuardedSignTarget) :
    Except SdkError AssemblyTarget :=
  match signatureAt user target.targetIndex with
  | none => signerError s!"missing user component signature for target {target.targetIndex}"
  | some u => match signatureAt cosigner target.targetIndex with
    | none => signerError s!"missing cosigner component signature for target {target.targetIndex}"
    | some c => .ok
      { targetIndex := target.targetIndex
        kind := .guarded
        authAddress := target.guardedAccount
        userSignature := u.signature
        userSourceRequestId := u.requestId
        cosignerSignature := c.signature
        cosignerSourceRequestId := c.requestId
        guardedRuntimeArgs := target.runtimeArgs }

/-- One guarded target, after those that claimed the indices `claimed`. -/
def checkGuardedTarget (d : Dialect) (n : ℕ) (claimed : List ℤ) (t : GuardedSignTarget) :
    Except SdkError Unit := do
  failIf (t.targetIndex < 0 ∨ n ≤ t.targetIndex) (d.err s!"guarded target {t.targetIndex} out of range")
  failIf (t.targetIndex ∈ claimed) (d.err s!"duplicate guarded target index {t.targetIndex}")
  failIf (t.guardedAccount = "") (d.err s!"guarded target {t.targetIndex} missing {d.accountField}")
  d.checkTargetResources t.targetIndex t.logicSigResources

/-- The targets in order of their indices. Two with one index are refused
next, so the order among them is open. -/
def sortTargets (targets : List GuardedSignTarget) : List GuardedSignTarget :=
  targets.insertionSort fun a b => a.targetIndex ≤ b.targetIndex

/-- The metadata of a position; that of a guarded target comes first. -/
def appCallInfoAt (primaries : List GuardedPrimarySignTarget) (targets : List GuardedSignTarget) (i : ℤ) :
    Option AppCallInfo :=
  match targets.find? (·.targetIndex = i) with
  | some target => target.appCallInfo
  | none => (primaries.reverse.find? (·.targetIndex = i)).bind (·.appCallInfo)

def requireUser (d : Dialect) : Option Client → Except SdkError Client
  | none => .error d.userRequired
  | some user => .ok user

/-- The user client and the checks made before anything is sent. -/
def guardedPrelude (d : Dialect) (opts : GuardedSignOptions) :
    Except SdkError (Client × List GuardedSignTarget) := do
  let user ← requireUser d opts.userClient
  d.precheck opts
  let targets := sortTargets opts.targets
  let _ ← claimAll (·.targetIndex) (fun _ => checkGuardedTarget d opts.groupBytesHex.length) 0 [] targets
  pure (user, targets)

def GuardedSignOptions.frame (opts : GuardedSignOptions) (targets : List GuardedSignTarget) : ComponentFrame where
  groupBytesHex := opts.groupBytesHex
  dummyPositions := opts.dummyPositions
  appCallInfo := appCallInfoAt opts.primaryTargets targets

/-- The passthrough items of the caller, and those of the primary signer if
there are primary positions. -/
def guardedPrimary (d : Dialect) (opts : GuardedSignOptions) (user : Client)
    (targets : List GuardedSignTarget) :
    Flow (Option GroupSignResponse × List AssemblyPassthroughItem) := do
  let passthrough ← liftM (mapEach (fun _ => d.normalizePassthrough) 0 opts.passthrough)
  if opts.primaryTargets = [] then
    pure (none, passthrough)
  else
    let (response, items) ← requestPrimaryGuardedPassthrough d user opts.groupBytesHex targets
      opts.primaryTargets passthrough
    pure (some response, passthrough ++ items)

/-- What is left once the user side is complete, in both choreographies. -/
structure Closing where
  user : Client
  cosigner : CosignerOptions
  frame : ComponentFrame
  targets : List GuardedSignTarget
  assemblyRequestId : String
  wrap : SdkError → SdkError
  /-- Whether the assembled group is verified. -/
  verifies : Bool
  /-- Targets and passthrough of the assembly, from the responses of the cosigners. -/
  material : List ComponentResponse → Except SdkError (List AssemblyTarget × List AssemblyPassthroughItem)

/-- The assembly request of a closing. -/
def Closing.request (c : Closing) (material : List AssemblyTarget × List AssemblyPassthroughItem) :
    AssemblyRequest where
  requestId := c.assemblyRequestId
  groupBytesHex := c.frame.groupBytesHex
  targets := material.1
  passthrough := material.2

/-- The end of both choreographies: only here is the frozen group shown to a
cosigner. -/
def cosignAndAssemble (d : Dialect) (c : Closing) : Flow (List ComponentResponse × AssemblyResponse) := do
  let cosignerResponses ← requestCosignerComponentSignatures d c.cosigner c.frame c.targets
  let material ← liftM (c.material cosignerResponses)
  let assemblyResponse ← (requestAssemble d.calls c.user (c.request material)).mapError c.wrap
  liftM (checkWhen c.verifies
    (verifyAssembledGroup d.matchesCanonical c.frame.groupBytesHex assemblyResponse.signedGroup))
  pure (cosignerResponses, assemblyResponse)

def guardedClosing (d : Dialect) (opts : GuardedSignOptions) (user : Client)
    (targets : List GuardedSignTarget) (userResponses : List ComponentResponse)
    (passthrough : List AssemblyPassthroughItem) : Closing where
  user := user
  cosigner := opts.cosigner
  frame := opts.frame targets
  targets := targets
  assemblyRequestId := opts.assemblyRequestId
  wrap := id
  verifies := d.verifiesAssembled
  material cosignerResponses := do
    let assemblyTargets ← mapEach (fun _ => guardedAssemblyTarget userResponses cosignerResponses) 0 targets
    pure (assemblyTargets, passthrough)

/-- `SignGuardedGroup`, `sign_guarded_group`, `signGuardedGroup`. -/
def signGuardedGroup (d : Dialect) (opts : GuardedSignOptions) : Flow GuardedSignResult := do
  let (user, targets) ← liftM (guardedPrelude d opts)
  let userResponses ← requestUserComponentSignatures d user (opts.frame targets) targets
  let (primaryResponse, passthrough) ← guardedPrimary d opts user targets
  let (cosignerResponses, assemblyResponse) ←
    cosignAndAssemble d (guardedClosing d opts user targets userResponses passthrough)
  pure
    { signedGroup := assemblyResponse.signedGroup
      userComponentResponses := userResponses
      cosignerComponentResponses := cosignerResponses
      primarySignResponse := primaryResponse
      assemblyResponse := some assemblyResponse }

end AplaneSdk
