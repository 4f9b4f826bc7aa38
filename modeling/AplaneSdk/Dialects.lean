/-
# The three SDKs

The dialects of Go, Python and TypeScript, and what they have in common:
`Dialect.Lawful` is all the later modules need, and every SDK satisfies it.

Key definitions: `Go.dialect`, `Python.dialect`, `TypeScript.dialect`,
`Language.dialect`, `Dialect.Lawful`.
Key theorems: `Language.lawful_dialect`.
-/
import AplaneSdk.Bounded

namespace AplaneSdk

open Interaction Interaction.Prog

/-- A planning authorization declares one thing at most, and a valid one;
`words` is how the language calls the two fields. -/
def checkPassthroughAuthorization (err : String → SdkError) (words : String × String)
    (quote : String → String) (checkResources : LogicSigResourceUsage → Except SdkError Unit) (i : ℤ)
    (a : GuardedPassthroughAuthorization) : Except SdkError Unit := do
  failIf (a.pqScheme ≠ "" ∧ a.logicSigResources.isSome)
    (err s!"passthrough target {i} cannot specify both {words.1} and {words.2}")
  failIf (a.pqScheme ≠ "" ∧ a.pqScheme ≠ pqSchemeFalcon1024)
    (err s!"passthrough target {i} has unsupported {words.1} {quote a.pqScheme}")
  checkSome checkResources a.logicSigResources

def noTargets (err : String → SdkError) (opts : GuardedSignOptions) : Except SdkError Unit :=
  failIf (opts.targets = []) (err "at least one guarded target is required")

/-- Order by code points, which is also that of the UTF-8 bytes. -/
def codePointLe (a b : String) : Bool := !decide (b < a)

/-- The metadata of a slot as it was prepared. -/
def Slot.appCallInfo (slot : Slot) : Option AppCallInfo :=
  match slot.role with
  | .cosigned target _ => target.appCallInfo
  | .primary target => target.appCallInfo

namespace Go

def primaryRequest (txnHex : String) (target : GuardedPrimarySignTarget) : SignRequest where
  authAddress := target.authAddress
  txnSender := target.txnSender
  txnBytesHex := txnHex
  lsigArgs := target.lsigArgs
  appCallInfo := target.appCallInfo

def checkTargetResources (i : ℤ) : Option LogicSigResourceUsage → Except SdkError Unit
  | none => .error (err s!"guarded target {i} missing LogicSig resources")
  | some r => mapErr (SdkError.wrap s!"guarded target {i} has invalid LogicSig resources: ")
      (validateResources r)

/-- The iteration order of a Go map is open. -/
def orderGroups (groups : List CosignerGroup) : Flow (List CosignerGroup) := do
  let order ← query (I := signer) (.groupOrder groups)
  pure order.val

def dialect (env : Env) : Dialect where
  calls := calls env
  codec := codec env
  rules := slotRules env
  planView := planView
  matchesCanonical := signedTxnMatchesCanonical env
  maxFeeOk _ := true
  addressFailure := addressFailure
  signFailure := signFailure
  err := err
  userRequired := err "user client is required"
  cosignerRequired := err "cosigner client or resolver is required"
  refusesNoClient := false
  precheck opts := do
    noTargets err opts
    validateComponentGroupBytes err opts.groupBytesHex
  accountField := "guarded account"
  addressField := "auth address"
  checkTargetResources := checkTargetResources
  checkAuthorization i := checkPassthroughAuthorization err ("PQ scheme", "LogicSig resources") env.quote
    (fun r => mapErr (SdkError.wrap s!"passthrough target {i} has invalid LogicSig resources: ")
      (validateResources r)) i
  normalizePassthrough := .ok
  accountLe := codePointLe
  originalCount n dummies := n - dummies
  targetInfo := id
  primaryRequest := primaryRequest
  orderGroups := orderGroups
  runtimeArgs := dropEmpty
  verifiesPrimary := true
  verifiesAssembled := true
  context := SdkError.wrap
  wrapPlanning := SdkError.wrap "guarded group planning failed: "
  wrapPlanDecoding := SdkError.wrap "signer returned invalid guarded group plan: "
  wrapPlanCheck := SdkError.wrap "invalid guarded group plan: "
  comparesLengthFirst := false
  slotInfo := Slot.appCallInfo
  repeatsAssembly := false
  requiresUserFirst := true
  wrapFlowKind i := SdkError.wrap s!"prepared transaction {i}: resolve signer key: "
  keepsKeys := true

end Go

namespace Python

/-- Whether an error is a `SignerError` or a subclass of it. -/
def isSignerError (e : SdkError) : Bool := e.kind ≠ .value ∧ e.kind ≠ .type

/-- Python leaves out what is empty. -/
def primaryRequest (txnHex : String) (target : GuardedPrimarySignTarget) : SignRequest where
  authAddress := target.authAddress
  txnSender := target.txnSender
  txnBytesHex := txnHex
  lsigArgs := dropEmpty target.lsigArgs
  appCallInfo := nonEmptyInfo target.appCallInfo

/-- `_normalize_guarded_passthrough_item`. -/
def normalizePassthrough (item : AssemblyPassthroughItem) : Except SdkError AssemblyPassthroughItem := do
  checkSome (validateLsigResources err "guarded passthrough authorization")
    (item.authorization.bind (·.logicSigResources))
  pure item

def wrapPlan (e : SdkError) : SdkError :=
  if isSignerError e then { text := "invalid guarded group plan: " ++ e.text } else e

def dialect (env : Env) : Dialect where
  calls := calls env
  codec := codec env
  rules := slotRules env
  planView := planView env
  matchesCanonical := signedTxnMatchesCanonical env
  maxFeeOk := maxFeeOk
  addressFailure := addressFailure
  signFailure := signFailure
  err := err
  userRequired := { text := "user_client is required" }
  cosignerRequired := { text := "cosigner_client or cosigner_resolver is required" }
  refusesNoClient := true
  precheck opts := do
    validateComponentGroupBytes err opts.groupBytesHex
    noTargets err opts
  accountField := "guarded_account"
  addressField := "auth_address"
  checkTargetResources i resources := do
    let _ ← requireLsigResources err s!"guarded target {i}" resources
    pure ()
  checkAuthorization i := checkPassthroughAuthorization err ("pq_scheme", "logic_sig_resources") env.quote
    (validateLsigResources err s!"passthrough target {i}") i
  normalizePassthrough := normalizePassthrough
  accountLe := codePointLe
  originalCount n dummies := n - dummies
  targetInfo := nonEmptyInfo
  primaryRequest := primaryRequest
  orderGroups := pure
  runtimeArgs := dropEmpty
  verifiesPrimary := true
  verifiesAssembled := false
  context _ e := e
  wrapPlanning e := if isSignerError e then e else { text := "guarded group planning failed: " ++ e.text }
  wrapPlanDecoding := wrapPlan
  wrapPlanCheck := wrapPlan
  comparesLengthFirst := false
  slotInfo slot := slot.request.appCallInfo
  repeatsAssembly := false
  requiresUserFirst := false
  wrapFlowKind i e :=
    if isSignerError e then e else { text := s!"prepared transaction {i}: resolve signer key: {e.text}" }
  keepsKeys := false

end Python

namespace TypeScript

/-- The UTF-16 code units of a string. -/
def utf16Units (s : String) : List ℕ :=
  s.toList.flatMap fun c =>
    if c.toNat < 0x10000 then [c.toNat]
    else [0xD800 + (c.toNat - 0x10000) / 0x400, 0xDC00 + (c.toNat - 0x10000) % 0x400]

/-- `slice(0, n - dummies)`: a negative end counts from the end. -/
def sliceEnd (n dummies : ℕ) : ℕ := if dummies ≤ n then n - dummies else n - (dummies - n)

def dialect (env : Env) : Dialect where
  calls := calls env
  codec := codec env
  rules := slotRules env
  planView := planView env
  matchesCanonical := signedTxnMatchesCanonical env
  maxFeeOk := maxFeeOk
  addressFailure := addressFailure
  signFailure := signFailure
  err := err
  userRequired := err "userClient is required"
  cosignerRequired := err "cosignerClient or cosignerResolver is required"
  refusesNoClient := true
  precheck opts := do
    noTargets err opts
    validateComponentGroupBytes err opts.groupBytesHex
  accountField := "guardedAccount"
  addressField := "authAddress"
  checkTargetResources i resources := do
    let _ ← requireLsigResources err s!"guarded target {i}" resources
    pure ()
  checkAuthorization i := checkPassthroughAuthorization err ("pqScheme", "logicSigResources") env.quote
    (validateLsigResources err s!"passthrough target {i}") i
  normalizePassthrough := .ok
  accountLe a b := decide (utf16Units a ≤ utf16Units b)
  originalCount := sliceEnd
  targetInfo := id
  primaryRequest := Go.primaryRequest
  orderGroups := pure
  runtimeArgs := id
  verifiesPrimary := false
  verifiesAssembled := false
  context _ e := e
  wrapPlanning e := e
  wrapPlanDecoding e := e
  wrapPlanCheck e := e
  comparesLengthFirst := true
  slotInfo slot := slot.request.appCallInfo
  repeatsAssembly := true
  requiresUserFirst := false
  wrapFlowKind _ e := e
  keepsKeys := false

end TypeScript

def Language.dialect (env : Env) : Language → Dialect
  | go => Go.dialect env
  | python => Python.dialect env
  | typescript => TypeScript.dialect env

/-! ### What they have in common -/

structure Dialect.Lawful (d : Dialect) : Prop where
  calls : d.calls.Lawful
  codec : d.codec.Lawful
  pins : Pins d.codec d.matchesCanonical
  clone : d.codec.sdk.Faithful → ∀ txn, d.rules.clone txn = .ok txn
  order : ∀ {groups t out}, Runs (d.orderGroups groups) t (.ok out) → out.Perm groups
  emits_order : ∀ {S : Exchange → Prop} {groups}, (∀ a, S ⟨.groupOrder groups, a⟩) →
    Emits S (d.orderGroups groups)
  normalize : ∀ {item item'}, d.normalizePassthrough item = .ok item' → item' = item

theorem Go.orderGroups_ok {groups out : List CosignerGroup} {t : Trace signer}
    (h : Runs (Go.orderGroups groups) t (.ok out)) : out.Perm groups := by
  obtain ⟨order, t₁, t₂, -, -, -, h⟩ := runs_bind_ok.mp h
  cases h
  exact order.property

theorem Go.lawful_dialect (env : Env) : (Go.dialect env).Lawful where
  calls := Go.lawful_calls
  codec := Go.lawful_codec env
  pins := Go.pins_signedTxnMatchesCanonical env
  clone _ _ := rfl
  order := Go.orderGroups_ok
  emits_order h := emits_bind (emits_query h) fun _ => emits_pure _
  normalize h := (Except.ok.inj h).symm

theorem Python.lawful_dialect (env : Env) : (Python.dialect env).Lawful where
  calls := Python.lawful_calls
  codec := Python.lawful_codec env
  pins := Python.pins_signedTxnMatchesCanonical env
  clone _ _ := rfl
  order h := by
    cases h.2
    exact List.Perm.refl _
  emits_order _ := emits_pure _
  normalize h := by
    simp only [Python.dialect, Python.normalizePassthrough, bind_eq_ok, pure_eq_ok] at h
    obtain ⟨_, -, rfl⟩ := h
    rfl

theorem TypeScript.lawful_dialect (env : Env) : (TypeScript.dialect env).Lawful where
  calls := TypeScript.lawful_calls
  codec := TypeScript.lawful_codec env
  pins := TypeScript.pins_signedTxnMatchesCanonical env
  clone hsdk := (TypeScript.lawful_codec env).clone hsdk
  order h := by
    cases h.2
    exact List.Perm.refl _
  emits_order _ := emits_pure _
  normalize h := (Except.ok.inj h).symm

theorem Language.lawful_dialect (env : Env) : ∀ L : Language, (L.dialect env).Lawful
  | go => Go.lawful_dialect env
  | python => Python.lawful_dialect env
  | typescript => TypeScript.lawful_dialect env

theorem Language.originalCount_eq (env : Env) (L : Language) {n k : ℕ} (h : k ≤ n) :
    (L.dialect env).originalCount n k = (Go.dialect env).originalCount n k := by
  cases L with
  | go => rfl
  | python => rfl
  | typescript => exact if_pos h

theorem Language.dialect_sdk (env : Env) : ∀ L : Language, (L.dialect env).codec.sdk = env.toAlgoSdk
  | go => rfl
  | python => rfl
  | typescript => rfl

end AplaneSdk
