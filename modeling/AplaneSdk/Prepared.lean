/-
# Prepared slots: what each one asks of the planner, and who signs it

A slot of a prepared group goes to the planner as one sign request, and is
then either cosigned, by the user signer and a cosigner, or signed by the
primary signer alone. The two choreographies sort slots differently: the
bounded one sends primary slots as foreign entries, the guarded one as its
own. `SlotRules` holds what differs between the SDKs.

Key definitions: `Slot`, `SlotRules`, `PreparedTransaction.signRequest` of
each SDK, `boundedSlot`, `guardedSlot`, `flowKinds`.
Key theorems: `boundedSlot_ok`, `guardedSlot_ok`.
-/
import AplaneSdk.Calls
import AplaneSdk.Plan

namespace AplaneSdk

open Interaction Interaction.Prog

/-- A position that the user signer and a cosigner sign together. -/
structure GuardedSignTarget where
  targetIndex : ℤ
  guardedAccount : String
  cosignerPublicKeyHex : String := ""
  cosignerComponentKeyType : String := ""
  cosignerComponentKey : String := ""
  runtimeArgs : List String := []
  logicSigResources : Option LogicSigResourceUsage := none
  appCallInfo : Option AppCallInfo := none
  deriving DecidableEq

/-- A position that the primary signer signs alone. -/
structure GuardedPrimarySignTarget where
  targetIndex : ℤ
  authAddress : String
  txnSender : String := ""
  lsigArgs : Option (List (String × String)) := none
  appCallInfo : Option AppCallInfo := none
  deriving DecidableEq

/-- Who signs a slot; a bounded key advertises the fee it may pay. -/
inductive SlotRole
  | cosigned (target : GuardedSignTarget) (maxFee : Option ℤ)
  | primary (target : GuardedPrimarySignTarget)

structure Slot where
  txn : Txn
  request : SignRequest
  role : SlotRole

def Slot.target? (slot : Slot) : Option GuardedSignTarget :=
  match slot.role with
  | .cosigned target _ => some target
  | .primary _ => none

def Slot.primary? (slot : Slot) : Option GuardedPrimarySignTarget :=
  match slot.role with
  | .cosigned .. => none
  | .primary target => some target

/-- Python treats an empty mapping as none. -/
def nonEmptyInfo (info : Option AppCallInfo) : Option AppCallInfo :=
  if info = some ⟨none, none⟩ then none else info

/-- What the SDKs do differently with a slot. -/
structure SlotRules where
  err : String → SdkError
  quote : String → String
  /-- The failed lookup of the key of slot `i`. -/
  lookupError : ℕ → SdkError → SdkError
  /-- The key of slot `i` has no rekey authorization. -/
  unavailable : ℕ → SdkError
  requireResources : String → Option LogicSigResourceUsage → Except SdkError LogicSigResourceUsage
  signRequest : ℕ → PreparedTransaction → Except SdkError SignRequest
  /-- The foreign entry of a primary slot in a bounded group. -/
  foreignRequest : ℕ → PreparedTransaction → Txn → KeyInfo → Option LogicSigResourceUsage →
    Except SdkError SignRequest
  lsigArgs : Option (List (String × Bytes)) → Option (List (String × String))
  clone : Txn → Except SdkError Txn

/-! ### Slots of the SDKs -/

/-- The error of a native-PQ key that declares LogicSig resources. -/
def pqForbidden (err : String → SdkError) (i : ℕ) : SdkError :=
  err s!"prepared transaction {i}: native-PQ signer key must not declare LogicSig resources"

namespace Go

/-- `PreparedTransaction.SignRequest`. -/
def signRequest (env : Env) (item : PreparedTransaction) : Except SdkError SignRequest :=
  if item.signedTransactionBase64 ≠ "" then do
    failIf (item.pqScheme ≠ "") (err "pq_scheme is allowed only for foreign transactions")
    let decoded ← match env.base64Decode item.signedTransactionBase64 with
      | .ok decoded => .ok decoded
      | .error why => .error (err s!"invalid passthrough transaction: invalid base64: {why}")
    let req : SignRequest := { signedTxnHex := hexEncode decoded, lsigResources := item.lsigResources }
    let _ ← validateSignRequest env req
    pure req
  else match item.transaction with
  | none => .error (err "transaction is required")
  | some txn =>
    let txnBytesHex := hexEncode (env.encodeTxn txn)
    if item.authAddress = "" then do
      let req : SignRequest :=
        { txnBytesHex := txnBytesHex, lsigResources := item.lsigResources, pqScheme := item.pqScheme }
      let _ ← validateSignRequest env req
      pure req
    else do
      failIf (item.pqScheme ≠ "") (err "pq_scheme is allowed only for foreign transactions")
      failIf item.lsigResources.isSome
        (err "lsig_resources is allowed only for foreign or passthrough transactions")
      pure
        { authAddress := item.authAddress
          txnSender := if item.txnSender = "" then txn.sender else item.txnSender
          txnBytesHex := txnBytesHex
          appCallInfo := item.appCallInfo
          lsigArgs := encodeGuardedLsigArgs item.lsigArgs }

/-- Go tests the address after the native-PQ scheme. -/
def foreignRequest (env : Env) (i : ℕ) (item : PreparedTransaction) (txn : Txn) (key : KeyInfo)
    (resources : Option LogicSigResourceUsage) : Except SdkError SignRequest := do
  let pqScheme ← preparedForeignPqScheme (pqForbidden err i) key resources
  failIf (item.authAddress = "") (err s!"prepared transaction {i}: primary auth address is required")
  pure { txnBytesHex := hexEncode (env.encodeTxn txn), lsigResources := resources, pqScheme := pqScheme }

def slotRules (env : Env) : SlotRules where
  err := err
  quote := env.quote
  lookupError i := SdkError.wrap s!"prepared transaction {i}: resolve signer key: "
  unavailable i := err s!"prepared transaction {i}: bounded rekey authorization metadata is unavailable"
  requireResources label
    | none => .error (err s!"{label} LogicSig resources are unavailable")
    | some r => .ok r
  signRequest i item := mapErr (SdkError.wrap s!"prepared transaction {i}: ") (signRequest env item)
  foreignRequest := foreignRequest env
  lsigArgs := encodeGuardedLsigArgs
  clone := .ok

end Go

/-- The names and tests in which Python and TypeScript differ. -/
structure RequestWords where
  err : String → SdkError
  pqScheme : String
  lsigResources : String
  passthroughLabel : String
  foreignLabel : String
  badBase64 : String → SdkError
  args : Option (List (String × Bytes)) → Option (List (String × String))
  info : Option AppCallInfo → Option AppCallInfo

/-- `to_sign_request` and `preparedTransactionToSignRequest`. -/
def RequestWords.signRequest (w : RequestWords) (env : Env) (item : PreparedTransaction) :
    Except SdkError SignRequest :=
  if item.signedTransactionBase64 ≠ "" then do
    failIf (item.pqScheme ≠ "") (w.err s!"{w.pqScheme} is allowed only for foreign transactions")
    let decoded ← match env.base64Decode item.signedTransactionBase64 with
      | .ok decoded => .ok decoded
      | .error why => .error (w.badBase64 why)
    checkSome (validateLsigResources w.err w.passthroughLabel) item.lsigResources
    pure { signedTxnHex := hexEncode decoded, lsigResources := item.lsigResources }
  else match item.transaction with
  | none => .error (w.err "transaction is required")
  | some txn =>
    let txnBytesHex := hexEncode (env.encodeTxn txn)
    if item.authAddress = "" then do
      checkSome (validateLsigResources w.err w.foreignLabel) item.lsigResources
      failIf (item.pqScheme ≠ "" ∧ item.lsigResources.isSome)
        (w.err s!"foreign transaction cannot specify both {w.pqScheme} and {w.lsigResources}")
      failIf (item.pqScheme ≠ "" ∧ item.pqScheme ≠ pqSchemeFalcon1024)
        (w.err s!"unsupported {w.pqScheme} {env.quote item.pqScheme}")
      pure { txnBytesHex := txnBytesHex, lsigResources := item.lsigResources, pqScheme := item.pqScheme }
    else do
      failIf (item.pqScheme ≠ "") (w.err s!"{w.pqScheme} is allowed only for foreign transactions")
      failIf item.lsigResources.isSome
        (w.err s!"{w.lsigResources} is allowed only for foreign or passthrough transactions")
      pure
        { authAddress := item.authAddress
          txnSender := if item.txnSender = "" then txn.sender else item.txnSender
          txnBytesHex := txnBytesHex
          appCallInfo := w.info item.appCallInfo
          lsigArgs := w.args item.lsigArgs }

/-- The foreign entry of Python and TypeScript; `info` is the app-call
metadata it carries. -/
def foreignRequestOf (err : String → SdkError) (label : String)
    (info : Option AppCallInfo → Option AppCallInfo) (env : Env) (i : ℕ) (item : PreparedTransaction)
    (txn : Txn) (key : KeyInfo) (resources : Option LogicSigResourceUsage) :
    Except SdkError SignRequest := do
  failIf (item.authAddress = "") (err s!"prepared transaction {i}: primary auth address is required")
  checkSome (validateLsigResources err label) resources
  let pqScheme ← preparedForeignPqScheme (pqForbidden err i) key resources
  pure
    { txnBytesHex := hexEncode (env.encodeTxn txn), lsigResources := resources, pqScheme := pqScheme,
      appCallInfo := info item.appCallInfo }

namespace Python

def requestWords : RequestWords where
  err := err
  pqScheme := "pq_scheme"
  lsigResources := "lsig_resources"
  passthroughLabel := "lsig_resources"
  foreignLabel := "lsig_resources"
  badBase64 why := err s!"invalid passthrough transaction: {why}"
  args := encodeGuardedLsigArgs
  info := nonEmptyInfo

/-- `PreparedTransaction.to_sign_request`. -/
def signRequest : Env → PreparedTransaction → Except SdkError SignRequest := requestWords.signRequest

def slotRules (env : Env) : SlotRules where
  err := err
  quote := env.quote
  lookupError _ e := e
  unavailable _ := err "bounded rekey authorization metadata is unavailable"
  requireResources := requireLsigResources err
  signRequest _ := signRequest env
  foreignRequest := foreignRequestOf err "lsig_resources" nonEmptyInfo env
  lsigArgs := encodeGuardedLsigArgs
  clone := .ok

end Python

namespace TypeScript

def requestWords : RequestWords where
  err := err
  pqScheme := "pqScheme"
  lsigResources := "lsigResources"
  passthroughLabel := "prepared passthrough lsigResources"
  foreignLabel := "prepared foreign lsigResources"
  badBase64 why := err why
  args := Option.map encodeLsigArgs
  info := id

/-- `preparedTransactionToSignRequest`. -/
def signRequest : Env → PreparedTransaction → Except SdkError SignRequest := requestWords.signRequest

def slotRules (env : Env) : SlotRules where
  err := err
  quote s := "\"" ++ s ++ "\""
  lookupError _ e := e
  unavailable _ := err "bounded rekey authorization metadata is unavailable"
  requireResources := requireLsigResources err
  signRequest _ := signRequest env
  foreignRequest := foreignRequestOf err "lsigResources" (fun _ => none) env
  lsigArgs := Option.map encodeLsigArgs
  clone := (codec env).clone

end TypeScript

/-! ### Sorting a slot -/

/-- The transaction of a slot that is not signed yet; `flow` names the choreography. -/
def preparedTxn (rules : SlotRules) (flow : String) (i : ℕ) (item : PreparedTransaction) :
    Except SdkError Txn := do
  failIf (item.signedTransactionBase64 ≠ "") (rules.err
    s!"prepared transaction {i}: passthrough entries are not supported in prepared {flow} groups")
  match item.transaction with
  | none => .error (rules.err s!"prepared transaction {i}: transaction is required")
  | some txn => .ok txn

/-- The key of a slot: the prepared one, or the signer's. -/
def lookupKey (user : Client) (wrap : SdkError → SdkError) (item : PreparedTransaction) :
    Flow (Option KeyInfo) :=
  if item.signerKey = none ∧ item.authAddress ≠ "" then do
    let found ← query (I := signer) (.keyInfo user item.authAddress)
    liftM (mapErr wrap found)
  else pure item.signerKey

def requireKey (rules : SlotRules) (i : ℕ) : Option KeyInfo → Except SdkError KeyInfo
  | none => .error (rules.err s!"prepared transaction {i}: signer key metadata is required")
  | some key => .ok key

def unsupportedFlow (rules : SlotRules) (i : ℕ) (flow : String) : SdkError :=
  rules.err (s!"prepared transaction {i}: signer key requires signing flow {rules.quote flow}, " ++
    "which this SDK does not support; upgrade the SDK")

def primaryTarget (rules : SlotRules) (i : ℕ) (item : PreparedTransaction) : GuardedPrimarySignTarget where
  targetIndex := i
  authAddress := item.authAddress
  txnSender := item.txnSender
  lsigArgs := rules.lsigArgs item.lsigArgs
  appCallInfo := item.appCallInfo

/-- A slot of a bounded-cosigner group, by the signing flow of its key. -/
def sortBounded (rules : SlotRules) (i : ℕ) (item : PreparedTransaction) (txn : Txn) (key : KeyInfo) :
    Except SdkError Slot := do
  let resources ← selectedPreparedResources (rules.unavailable i) key txn
  if key.signingFlow = signingFlowBoundedCosigner1 then
    failIf (item.authAddress = "") (rules.err s!"prepared transaction {i}: bounded auth address is required")
    let required ← rules.requireResources s!"prepared transaction {i}: bounded" resources
    let request ← rules.signRequest i item
    match key.boundedAuthorization with
    | none => .error (rules.err s!"prepared transaction {i}: bounded authorization metadata is required")
    | some bounded =>
      let target : GuardedSignTarget :=
        { targetIndex := i
          guardedAccount := item.authAddress
          cosignerPublicKeyHex := boundedCosignerPublicKey key
          cosignerComponentKeyType := boundedCosignerComponentKeyType key
          logicSigResources := some required
          appCallInfo := item.appCallInfo }
      pure { txn := txn, request := request, role := .cosigned target (some bounded.maxFee) }
  else
    failIf (key.signingFlow = signingFlowCosigner1)
      (rules.err "cannot mix cosigner1 and bounded-cosigner1 targets in one group")
    failIf (key.signingFlow ≠ "" ∧ key.signingFlow ≠ signingFlowBounded1)
      (unsupportedFlow rules i key.signingFlow)
    let request ← rules.foreignRequest i item txn key resources
    pure { txn := txn, request := request, role := .primary (primaryTarget rules i item) }

def boundedSlot (rules : SlotRules) (user : Client) (i : ℕ) (item : PreparedTransaction) : Flow Slot := do
  let txn ← liftM (preparedTxn rules "bounded-cosigner" i item)
  let found ← lookupKey user (rules.lookupError i) item
  liftM (requireKey rules i found >>= sortBounded rules i item txn)

/-- A slot of a guarded group, by the signing flow of its key. -/
def sortGuarded (rules : SlotRules) (i : ℕ) (item : PreparedTransaction) (txn : Txn) (key : KeyInfo) :
    Except SdkError Slot := do
  failIf (item.authAddress = "") (rules.err s!"prepared transaction {i}: auth address is required")
  let request ← rules.signRequest i item
  if key.signingFlow = "" ∨ key.signingFlow = signingFlowBounded1 then
    pure { txn := txn, request := request, role := .primary (primaryTarget rules i item) }
  else
    failIf (key.signingFlow ≠ signingFlowCosigner1) (unsupportedFlow rules i key.signingFlow)
    let resources ← selectedPreparedResources (rules.unavailable i) key txn
    let required ← rules.requireResources s!"prepared transaction {i}: guarded" resources
    let target : GuardedSignTarget :=
      { targetIndex := i
        guardedAccount := item.authAddress
        cosignerPublicKeyHex := guardedCosignerPublicKey key
        cosignerComponentKeyType := key.cosignerComponentKeyType
        logicSigResources := some required
        appCallInfo := item.appCallInfo }
    pure { txn := txn, request := request, role := .cosigned target none }

def guardedSlot (rules : SlotRules) (user : Client) (i : ℕ) (item : PreparedTransaction) : Flow Slot := do
  let prepared ← liftM (preparedTxn rules "guarded" i item)
  let txn ← liftM (rules.clone prepared)
  let found ← lookupKey user (rules.lookupError i) item
  liftM (requireKey rules i found >>= sortGuarded rules i item txn)

/-! ### What a sorted slot is -/

/-- The key a run used for a slot. -/
def KeyOf (user : Client) (t : Trace signer) (item : PreparedTransaction) (key : KeyInfo) : Prop :=
  item.signerKey = some key ∨
    item.signerKey = none ∧ (⟨.keyInfo user item.authAddress, .ok (some key)⟩ : Exchange) ∈ t

theorem KeyOf.mono {user : Client} {t t' : Trace signer} {item : PreparedTransaction} {key : KeyInfo}
    (h : KeyOf user t item key) (ht : t ⊆ t') : KeyOf user t' item key :=
  h.imp_right fun ⟨h1, h2⟩ => ⟨h1, ht h2⟩

section Sorted

variable {rules : SlotRules} {user : Client} {i : ℕ} {item : PreparedTransaction} {txn : Txn}
  {key : KeyInfo} {slot : Slot} {t : Trace signer}

theorem preparedTxn_ok {flow : String} (h : preparedTxn rules flow i item = .ok txn) :
    item.transaction = some txn := by
  simp only [preparedTxn, bind_eq_ok] at h
  obtain ⟨_, -, h⟩ := h
  split at h
  · cases h
  · cases h
    assumption

theorem lookupKey_ok {wrap : SdkError → SdkError}
    (h : Runs (lookupKey user wrap item) t (.ok (some key))) : KeyOf user t item key := by
  unfold lookupKey at h
  split at h
  · rename_i hnone
    obtain ⟨found, t₁, t₂, rfl, hq, hlift⟩ := runs_bind_ok.mp h
    obtain ⟨_, rfl, hfound⟩ := runs_query.mp hq
    cases hfound
    rw [mapErr_ok.mp hlift.2.symm]
    exact Or.inr ⟨hnone.1, List.mem_append_left _ (List.mem_singleton_self _)⟩
  · exact Or.inl (Except.ok.inj h.2).symm

theorem lookupKey_none {wrap : SdkError → SdkError}
    (h : Runs (lookupKey user wrap item) t (.ok none)) : item.signerKey = none := by
  unfold lookupKey at h
  split at h
  · rename_i hnone
    exact hnone.1
  · exact (Except.ok.inj h.2).symm

theorem requireKey_ok {found : Option KeyInfo} (h : requireKey rules i found = .ok key) :
    found = some key := by
  cases found with
  | none => cases h
  | some k =>
    cases h
    rfl

/-- What `sortBounded` made of a slot, and what it asked on the way. -/
theorem sortBounded_inv (h : sortBounded rules i item txn key = .ok slot) :
    slot.txn = txn ∧ ∃ resources, selectedPreparedResources (rules.unavailable i) key txn = .ok resources ∧
      ((key.signingFlow = signingFlowBoundedCosigner1 ∧ item.authAddress ≠ "" ∧
          rules.signRequest i item = .ok slot.request ∧ ∃ required bounded,
            rules.requireResources s!"prepared transaction {i}: bounded" resources = .ok required ∧
            key.boundedAuthorization = some bounded ∧
            slot.role = .cosigned
              { targetIndex := i
                guardedAccount := item.authAddress
                cosignerPublicKeyHex := boundedCosignerPublicKey key
                cosignerComponentKeyType := boundedCosignerComponentKeyType key
                logicSigResources := some required
                appCallInfo := item.appCallInfo } (some bounded.maxFee)) ∨
        key.signingFlow ≠ signingFlowBoundedCosigner1 ∧
          rules.foreignRequest i item txn key resources = .ok slot.request ∧
          slot.role = .primary (primaryTarget rules i item)) := by
  simp only [sortBounded, bind_eq_ok (α := Option LogicSigResourceUsage)] at h
  obtain ⟨resources, hresources, h⟩ := h
  split at h
  · rename_i hflow
    simp only [bind_eq_ok, failIf_ok] at h
    obtain ⟨_, haddress, required, hrequired, request, hrequest, h⟩ := h
    split at h
    · cases h
    · rename_i bounded hb
      cases h
      exact ⟨rfl, resources, hresources, Or.inl ⟨hflow, haddress, hrequest, required, bounded, hrequired, hb, rfl⟩⟩
  · rename_i hflow
    simp only [bind_eq_ok, pure_eq_ok] at h
    obtain ⟨_, -, _, -, request, hrequest, rfl⟩ := h
    exact ⟨rfl, resources, hresources, Or.inr ⟨hflow, hrequest, rfl⟩⟩

/-- A bounded-cosigner key makes its slot a target with the key's maximal fee;
any other key makes it a primary slot. -/
theorem sortBounded_ok (h : sortBounded rules i item txn key = .ok slot) :
    slot.txn = txn ∧
      ((∃ target bounded, slot.role = .cosigned target (some bounded.maxFee) ∧
          key.signingFlow = signingFlowBoundedCosigner1 ∧ key.boundedAuthorization = some bounded ∧
          target.targetIndex = i ∧ target.guardedAccount = item.authAddress) ∨
        slot.role = .primary (primaryTarget rules i item) ∧
          key.signingFlow ≠ signingFlowBoundedCosigner1) := by
  obtain ⟨htxn, _, -, ⟨hflow, -, -, required, bounded, -, hb, hrole⟩ | ⟨hflow, -, hrole⟩⟩ := sortBounded_inv h
  · exact ⟨htxn, Or.inl ⟨_, bounded, hrole, hflow, hb, rfl, rfl⟩⟩
  · exact ⟨htxn, Or.inr ⟨hrole, hflow⟩⟩

/-- What `sortGuarded` made of a slot, and what it asked on the way. -/
theorem sortGuarded_inv (h : sortGuarded rules i item txn key = .ok slot) :
    slot.txn = txn ∧ item.authAddress ≠ "" ∧ rules.signRequest i item = .ok slot.request ∧
      ((key.signingFlow = signingFlowCosigner1 ∧ ∃ resources required,
          selectedPreparedResources (rules.unavailable i) key txn = .ok resources ∧
          rules.requireResources s!"prepared transaction {i}: guarded" resources = .ok required ∧
          slot.role = .cosigned
            { targetIndex := i
              guardedAccount := item.authAddress
              cosignerPublicKeyHex := guardedCosignerPublicKey key
              cosignerComponentKeyType := key.cosignerComponentKeyType
              logicSigResources := some required
              appCallInfo := item.appCallInfo } none) ∨
        (key.signingFlow = "" ∨ key.signingFlow = signingFlowBounded1) ∧
          slot.role = .primary (primaryTarget rules i item)) := by
  simp only [sortGuarded, bind_eq_ok (α := SignRequest), seq_eq_ok, failIf_ok] at h
  obtain ⟨haddress, request, hrequest, h⟩ := h
  split at h
  · rename_i hflow
    cases h
    exact ⟨rfl, haddress, hrequest, Or.inr ⟨hflow, rfl⟩⟩
  · simp only [bind_eq_ok, failIf_ok, not_not, pure_eq_ok] at h
    obtain ⟨_, hflow, resources, hresources, required, hrequired, rfl⟩ := h
    exact ⟨rfl, haddress, hrequest, Or.inl ⟨hflow, resources, required, hresources, hrequired, rfl⟩⟩

theorem sortGuarded_ok (h : sortGuarded rules i item txn key = .ok slot) :
    slot.txn = txn ∧
      ((∃ target, slot.role = .cosigned target none ∧ key.signingFlow = signingFlowCosigner1 ∧
          target.targetIndex = i ∧ target.guardedAccount = item.authAddress) ∨
        slot.role = .primary (primaryTarget rules i item) ∧ key.signingFlow ≠ signingFlowCosigner1) := by
  obtain ⟨htxn, -, -, ⟨hflow, _, required, -, -, hrole⟩ | ⟨hflow, hrole⟩⟩ := sortGuarded_inv h
  · exact ⟨htxn, Or.inl ⟨_, hrole, hflow, rfl, rfl⟩⟩
  · refine ⟨htxn, Or.inr ⟨hrole, ?_⟩⟩
    rcases hflow with hflow | hflow <;> rw [hflow] <;> decide

theorem boundedSlot_ok (h : Runs (boundedSlot rules user i item) t (.ok slot)) :
    ∃ key txn, KeyOf user t item key ∧ item.transaction = some txn ∧
      sortBounded rules i item txn key = .ok slot := by
  obtain ⟨txn, htxn, h⟩ := runs_lift_bind_ok.mp h
  obtain ⟨found, t₁, t₂, rfl, hkey, hlift⟩ := runs_bind_ok.mp h
  obtain ⟨key, hfound, hsort⟩ := bind_eq_ok.mp hlift.2.symm
  rw [requireKey_ok hfound] at hkey
  exact ⟨key, txn, (lookupKey_ok hkey).mono (List.subset_append_left ..), preparedTxn_ok htxn, hsort⟩

theorem guardedSlot_ok (h : Runs (guardedSlot rules user i item) t (.ok slot)) :
    ∃ key prepared txn, KeyOf user t item key ∧ item.transaction = some prepared ∧
      rules.clone prepared = .ok txn ∧ sortGuarded rules i item txn key = .ok slot := by
  obtain ⟨prepared, hprepared, h⟩ := runs_lift_bind_ok.mp h
  obtain ⟨txn, hcopy, h⟩ := runs_lift_bind_ok.mp h
  obtain ⟨found, t₁, t₂, rfl, hkey, hlift⟩ := runs_bind_ok.mp h
  obtain ⟨key, hfound, hsort⟩ := bind_eq_ok.mp hlift.2.symm
  rw [requireKey_ok hfound] at hkey
  exact ⟨key, prepared, txn, (lookupKey_ok hkey).mono (List.subset_append_left ..),
    preparedTxn_ok hprepared, hcopy, hsort⟩

end Sorted

end AplaneSdk
