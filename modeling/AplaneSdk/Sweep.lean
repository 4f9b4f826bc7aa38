/-
# Preparing a sweep

`prepare_sweep_group` prepares asset transfers and payments one by one against
algod and then checks the two slices of the group apart: the holdings of the
transfers, and the funds of the payments. Each payment, and all payments of a
sender together, stay within the sender's balance above its minimum. The fees of
the transfers enter neither check. A group whose payments take all a sender has
therefore passes with a transfer of the same sender whose fee nobody can pay.

Key definitions: `Language.preparePayment`, `Language.prepareAsaTransfer`,
`Language.prepareSweepGroup`, `Against`, `PreparedGroup.Affordable`,
`PreparedGroup.Covered`.
Key theorems: `runs_preparePayment_ok`, `runs_prepareAsaTransfer_ok`,
`payments_within`, `sweep_refunded`, `sweep_affordable_iff`.
-/
import Mathlib.Algebra.Order.BigOperators.Group.List
import Mathlib.Algebra.Order.Ring.Nat
import AplaneSdk.KeyCache
import AplaneSdk.GroupFunds

namespace AplaneSdk

open Interaction Interaction.Prog Checks

/-! ### Questions and answers -/

/-- What a preparation asks algod, and the signer for its keys. -/
inductive PrepOp
  | suggestedParams
  | accountInformation (address : String)
  | listKeysIfKeysetChanged

def PrepOp.Ans : PrepOp → Type
  | suggestedParams => Except String SuggestedParams
  | accountInformation _ => Except String Account
  | listKeysIfKeysetChanged => Except SdkError (List KeyInfo)

def preparation : Iface where
  Op := PrepOp
  Ans := PrepOp.Ans

abbrev PrepFlow := Prog preparation SdkError

/-- The Algorand SDK's part of the preparation. -/
structure TxnBuilder where
  makePaymentTxn : (sender receiver : String) → (amount : ℕ) → (note : Bytes) → SuggestedParams →
    Except String Txn
  makeAssetTransferTxn : (sender receiver : String) → (amount : ℕ) → (note : Bytes) → SuggestedParams →
    (assetId : ℕ) → Except String Txn

/-- The transactions built are those asked for. -/
structure TxnBuilder.Faithful (sdk : TxnBuilder) : Prop where
  payment : ∀ {sender receiver amount note params txn},
    sdk.makePaymentTxn sender receiver amount note params = .ok txn →
      txn.type = .payment ∧ txn.sender = sender ∧ txn.amount = amount
  transfer : ∀ {sender receiver amount note params assetId txn},
    sdk.makeAssetTransferTxn sender receiver amount note params assetId = .ok txn →
      txn.type = assetTransferType ∧ txn.sender = sender ∧ txn.xferAsset = assetId ∧
        txn.assetAmount = amount

/-! ### One transaction -/

/-- A payment to prepare. Go has fee 0 for none, and alone has `useFlatFee`. -/
structure PaymentPrepParams where
  sender : String
  receiver : String
  amount : ℕ
  note : Bytes := []
  fee : Option ℕ := none
  useFlatFee : Bool := false
  deriving DecidableEq

structure AsaTransferPrepParams where
  sender : String
  receiver : String
  assetId : ℕ
  amount : ℕ
  note : Bytes := []
  fee : Option ℕ := none
  useFlatFee : Bool := false
  deriving DecidableEq

/-- `applyPrepFee`: a fee that is set is flat. -/
def Language.applyPrepFee (L : Language) (suggested : SuggestedParams) (fee : Option ℕ)
    (useFlatFee : Bool) : SuggestedParams :=
  match L, fee with
  | go, fee => Go.applyPrepFee suggested (fee.getD 0) useFlatFee
  | _, none => suggested
  | _, some fee => { suggested with fee := fee, flatFee := true }

/-- Go says what failed; the exceptions of the others speak for themselves. -/
def Language.orFail {α : Type} (L : Language) (label : String) : Except String α → Except SdkError α :=
  match L with
  | go => Go.orFail label
  | _ => Go.orFail ""

def Language.fetchParams (L : Language) : PrepFlow SuggestedParams := do
  let answer ← query (I := preparation) .suggestedParams
  liftM (L.orFail "failed to get suggested params: " answer)

def Language.fetchAccount (L : Language) (label address : String) : PrepFlow Account := do
  let answer ← query (I := preparation) (.accountInformation address)
  liftM (L.orFail label answer)

def Language.keyNotFound (L : Language) (detail : String) : SdkError :=
  match L with
  | go => Go.keyNotFoundError detail
  | _ => { kind := .keyNotFound, text := detail }

/-- `ResolveAuthAddress`, with the account already at hand. -/
def Language.resolveAuthAddress (L : Language) (address authAddr : String) :
    PrepFlow (String × KeyInfo) := do
  let keys ← query (I := preparation) .listKeysIfKeysetChanged
  let keys ← liftM (keys : Except SdkError (List KeyInfo))
  let signingAddr := if authAddr ≠ "" ∧ authAddr ≠ address then authAddr else address
  match Go.findSpendableKey keys signingAddr with
  | some key => pure (signingAddr, key)
  | none =>
    if signingAddr = address then
      throw (L.keyNotFound s!"{address} is not available for signing")
    else
      throw (L.keyNotFound s!"account is rekeyed to {authAddr} but that address is not signable")

/-- What an account can spend. Go has nothing below zero. -/
def Language.available (L : Language) (amount minBalance : ℕ) : ℤ :=
  match L with
  | go => ((amount - minBalance : ℕ) : ℤ)
  | _ => (amount : ℤ) - minBalance

/-- What a payment check records; Go records more. -/
def Language.paymentData (L : Language) (sender : Account) (amount fee : ℕ) : List (String × ℤ) :=
  match L with
  | go => [("amount", (amount : ℤ)), ("fee", (fee : ℤ)), ("min_balance", (sender.minBalance : ℤ)),
      ("balance", (sender.amount : ℤ)), ("available", L.available sender.amount sender.minBalance)]
  | _ => [("amount", (amount : ℤ)), ("fee", (fee : ℤ)),
      ("available", L.available sender.amount sender.minBalance)]

/-- `paymentChecks`; Go's sum can pass 64 bits. -/
def Language.paymentChecks (L : Language) (sender : Account) (amount fee : ℕ) :
    Except SdkError (List PreparedCheck) := do
  failIf (L = .go ∧ L.add amount fee < amount)
    { text := s!"amount {amount} plus fee {fee} overflows uint64" }
  failIf (L.available sender.amount sender.minBalance < (L.add amount fee : ℤ))
    { text := s!"insufficient funds: available {L.available sender.amount sender.minBalance}, " ++
        s!"required {L.add amount fee}" }
  pure [{ name := "payment_balance", status := "ok", data := some (L.paymentData sender amount fee) }]

/-- `accountAssetHolding`. -/
def accountAssetHolding (account : Account) (assetId : ℕ) : Option AssetHolding :=
  account.assets.find? fun holding => holding.assetId = assetId && !holding.deleted

/-- The holding of an account that has opted in. -/
def requireHolding (who : String) (account : Account) (assetId : ℕ) : Except SdkError AssetHolding :=
  match accountAssetHolding account assetId with
  | none => .error { text := s!"{who} is not opted into asset {assetId}" }
  | some holding => .ok holding

/-- `asaTransferChecks`. It looks at the asset alone. -/
def Language.asaTransferChecks (L : Language) (sender receiver : Account) (assetId amount : ℕ) :
    Except SdkError (List PreparedCheck) := do
  let holding ← requireHolding "sender" sender assetId
  failIf (holding.amount < amount)
    { text := s!"insufficient asset balance: available {holding.amount}, required {amount}" }
  let _ ← requireHolding "receiver" receiver assetId
  pure [{
    name := "asa_transfer"
    status := "ok"
    data := some [(if L = .typescript then "assetId" else "asset_id", (assetId : ℤ)),
      ("amount", (amount : ℤ)), ("balance", (holding.amount : ℤ))] }]

/-- `PreparePayment`, `prepare_payment`, `preparePayment`. -/
def Language.preparePayment (L : Language) (sdk : TxnBuilder) (params : PaymentPrepParams) :
    PrepFlow PreparedTransaction := do
  liftM (failIf (params.sender = "") { text := "sender is required" })
  liftM (failIf (params.receiver = "") { text := "receiver is required" })
  let suggested ← L.fetchParams
  let sender ← L.fetchAccount "failed to get sender account info: " params.sender
  let txn ← liftM (L.orFail "failed to create payment transaction: "
    (sdk.makePaymentTxn params.sender params.receiver params.amount params.note
      (L.applyPrepFee suggested params.fee params.useFlatFee)))
  let checks ← liftM (L.paymentChecks sender params.amount txn.fee)
  let resolved ← L.resolveAuthAddress params.sender sender.authAddr
  pure { transaction := some txn, authAddress := resolved.1, signerKey := some resolved.2, checks := checks }

/-- The transaction of an asset transfer and its checks. Go builds first and
checks then, the others check first. -/
def Language.transferParts (L : Language) (build : Except SdkError Txn)
    (check : Except SdkError (List PreparedCheck)) : Except SdkError (Txn × List PreparedCheck) :=
  match L with
  | go => do
    let txn ← build
    let checks ← check
    pure (txn, checks)
  | _ => do
    let checks ← check
    let txn ← build
    pure (txn, checks)

/-- `PrepareAsaTransfer`, `prepare_asa_transfer`, `prepareAsaTransfer`. -/
def Language.prepareAsaTransfer (L : Language) (sdk : TxnBuilder) (params : AsaTransferPrepParams) :
    PrepFlow PreparedTransaction := do
  liftM (failIf (params.sender = "") { text := "sender is required" })
  liftM (failIf (params.receiver = "") { text := "receiver is required" })
  liftM (failIf (params.assetId = 0)
    { text := if L = .typescript then "assetId is required" else "asset_id is required" })
  let suggested ← L.fetchParams
  let sender ← L.fetchAccount "failed to get sender account info: " params.sender
  let receiver ← L.fetchAccount "failed to get receiver account info: " params.receiver
  let parts ← liftM (L.transferParts
    (L.orFail "failed to create ASA transfer transaction: "
      (sdk.makeAssetTransferTxn params.sender params.receiver params.amount params.note
        (L.applyPrepFee suggested params.fee params.useFlatFee) params.assetId))
    (L.asaTransferChecks sender receiver params.assetId params.amount))
  let resolved ← L.resolveAuthAddress params.sender sender.authAddr
  pure { transaction := some parts.1, authAddress := resolved.1, signerKey := some resolved.2,
         checks := parts.2 }

/-! ### The group -/

structure PreparedGroup where
  transactions : List PreparedTransaction
  checks : List PreparedCheck

/-- An error of one item; Go keeps its class. -/
def Language.inItem (L : Language) (label : String) (e : SdkError) : SdkError :=
  match L with
  | go => e.wrap label
  | _ => { text := label ++ e.text }

/-- The check of a slice, made where its list is not empty. -/
def checkSlice {α : Type} (asked : List α) (check : Except SdkError PreparedCheck) :
    Except SdkError (List PreparedCheck) :=
  if asked = [] then .ok [] else check.map ([·])

def Language.sweepCheck (L : Language) (transfers payments : ℕ) : PreparedCheck where
  name := "sweep_group"
  status := "ok"
  data := some (match L with
    | typescript => [("asaTransferCount", (transfers : ℤ)), ("paymentCount", (payments : ℤ))]
    | _ => [("asa_transfer_count", (transfers : ℤ)), ("payment_count", (payments : ℤ))])

/-- The loops of `prepareSweepGroup`. -/
def Language.prepareTransfers (L : Language) (sdk : TxnBuilder) (transfers : List AsaTransferPrepParams) :
    PrepFlow (List PreparedTransaction) :=
  collect (fun x : AsaTransferPrepParams × ℕ =>
    (L.prepareAsaTransfer sdk x.1).mapError (L.inItem s!"ASA transfer {x.2}: ")) transfers.zipIdx

def Language.preparePayments (L : Language) (sdk : TxnBuilder) (payments : List PaymentPrepParams) :
    PrepFlow (List PreparedTransaction) :=
  collect (fun x : PaymentPrepParams × ℕ =>
    (L.preparePayment sdk x.1).mapError (L.inItem s!"payment {x.2}: ")) payments.zipIdx

/-- `PrepareSweepGroup`, `prepare_sweep_group`, `prepareSweepGroup`. -/
def Language.prepareSweepGroup (L : Language) (sdk : TxnBuilder) (asaTransfers : List AsaTransferPrepParams)
    (payments : List PaymentPrepParams) : PrepFlow PreparedGroup := do
  liftM (failIf (asaTransfers = [] ∧ payments = []) { text := "sweep group must not be empty" })
  let transferred ← L.prepareTransfers sdk asaTransfers
  let paid ← L.preparePayments sdk payments
  let transactions := transferred ++ paid
  let asaChecks ← liftM (checkSlice asaTransfers
    (L.asaTransferGroupBalanceCheck (transactions.take asaTransfers.length)))
  let paymentChecks ← liftM (checkSlice payments
    (L.paymentGroupBalanceCheck (transactions.drop asaTransfers.length)))
  pure {
    transactions := transactions
    checks := L.sweepCheck asaTransfers.length payments.length :: asaChecks ++ paymentChecks }

/-! ### What a successful preparation leaves behind -/

section Runs

variable {L : Language} {sdk : TxnBuilder} {t : Trace preparation} {item : PreparedTransaction}

theorem Language.orFail_ok {α : Type} {label : String} {x : Except String α} {a : α} :
    L.orFail label x = .ok a ↔ x = .ok a := by
  cases L <;> exact Go.orFail_ok

theorem runs_fetchParams_ok {params : SuggestedParams} :
    Runs L.fetchParams t (.ok params) ↔ t = [⟨.suggestedParams, .ok params⟩] := by
  rw [Language.fetchParams, runs_bind_ok]
  constructor
  · rintro ⟨answer, t₁, t₂, rfl, hq, h⟩
    obtain ⟨_, rfl, ha⟩ := runs_query.mp hq
    obtain ⟨rfl, hanswer⟩ := runs_lift.mp h
    cases ha
    have hanswer := Language.orFail_ok.mp hanswer.symm
    subst hanswer
    rfl
  · rintro rfl
    exact ⟨.ok params, _, [], rfl, runs_query.mpr ⟨_, rfl, rfl⟩, runs_lift.mpr
      ⟨rfl, (Language.orFail_ok.mpr rfl).symm⟩⟩

theorem runs_fetchAccount_ok {label address : String} {account : Account} :
    Runs (L.fetchAccount label address) t (.ok account) ↔
      t = [⟨.accountInformation address, .ok account⟩] := by
  rw [Language.fetchAccount, runs_bind_ok]
  constructor
  · rintro ⟨answer, t₁, t₂, rfl, hq, h⟩
    obtain ⟨_, rfl, ha⟩ := runs_query.mp hq
    obtain ⟨rfl, hanswer⟩ := runs_lift.mp h
    cases ha
    have hanswer := Language.orFail_ok.mp hanswer.symm
    subst hanswer
    rfl
  · rintro rfl
    exact ⟨.ok account, _, [], rfl, runs_query.mpr ⟨_, rfl, rfl⟩, runs_lift.mpr
      ⟨rfl, (Language.orFail_ok.mpr rfl).symm⟩⟩

/-- The key that signs for an account, among those listed. -/
def Resolves (keys : List KeyInfo) (address authAddr : String) (resolved : String × KeyInfo) : Prop :=
  resolved.1 = (if authAddr ≠ "" ∧ authAddr ≠ address then authAddr else address) ∧
    Go.findSpendableKey keys resolved.1 = some resolved.2

theorem runs_resolveAuthAddress_iff {address authAddr : String} {resolved : String × KeyInfo} :
    Runs (L.resolveAuthAddress address authAddr) t (.ok resolved) ↔
      ∃ keys, t = [⟨.listKeysIfKeysetChanged, .ok keys⟩] ∧ Resolves keys address authAddr resolved := by
  rw [Language.resolveAuthAddress, runs_bind_ok]
  constructor
  · rintro ⟨answer, t₁, t₂, rfl, hq, h⟩
    obtain ⟨_, rfl, ha⟩ := runs_query.mp hq
    cases ha
    obtain ⟨keys, hkeys, h⟩ := runs_lift_bind_ok.mp h
    refine ⟨keys, ?_⟩
    generalize hsigning : (if authAddr ≠ "" ∧ authAddr ≠ address then authAddr else address) = signing at h
    rw [Resolves, hsigning]
    cases hfind : Go.findSpendableKey keys signing with
    | some key =>
      simp only [hfind] at h
      obtain ⟨rfl, hresolved⟩ := runs_pure.mp h
      cases hresolved
      subst hkeys
      exact ⟨rfl, rfl, hfind⟩
    | none =>
      simp only [hfind] at h
      by_cases hself : signing = address
      · rw [if_pos hself] at h
        cases (runs_throw.mp h).2
      · rw [if_neg hself] at h
        cases (runs_throw.mp h).2
  · rintro ⟨keys, rfl, hsigning, hfind⟩
    refine ⟨.ok keys, _, [], rfl, runs_query.mpr ⟨_, rfl, rfl⟩, runs_lift_bind_ok.mpr ⟨keys, rfl, ?_⟩⟩
    dsimp only
    rw [← hsigning, hfind]
    exact ⟨rfl, rfl⟩

/-- What `paymentChecks` lets through: the sum is exact and there is enough. -/
theorem Language.paymentChecks_ok {sender : Account} {amount fee : ℕ} {checks : List PreparedCheck} :
    L.paymentChecks sender amount fee = .ok checks ↔
      (L = .go → amount ≤ L.add amount fee) ∧
      (L.add amount fee : ℤ) ≤ L.available sender.amount sender.minBalance ∧
      checks = [{ name := "payment_balance", status := "ok", data := some (L.paymentData sender amount fee) }] := by
  rw [Language.paymentChecks, seq_eq_ok, failIf_ok, seq_eq_ok, failIf_ok, pure_eq_ok, not_and, not_lt,
    not_lt, eq_comm (a := checks)]

theorem runs_preparePayment_ok {params : PaymentPrepParams} :
    Runs (L.preparePayment sdk params) t (.ok item) ↔
      params.sender ≠ "" ∧ params.receiver ≠ "" ∧ ∃ suggested sender keys txn resolved checks,
        t = [⟨.suggestedParams, .ok suggested⟩, ⟨.accountInformation params.sender, .ok sender⟩,
          ⟨.listKeysIfKeysetChanged, .ok keys⟩] ∧
        sdk.makePaymentTxn params.sender params.receiver params.amount params.note
          (L.applyPrepFee suggested params.fee params.useFlatFee) = .ok txn ∧
        L.paymentChecks sender params.amount txn.fee = .ok checks ∧
        Resolves keys params.sender sender.authAddr resolved ∧
        item = { transaction := some txn, authAddress := resolved.1, signerKey := some resolved.2,
                 checks := checks } := by
  simp only [Language.preparePayment, runs_lift_bind_ok, failIf_ok, runs_bind_ok (α := SuggestedParams),
    runs_bind_ok (α := Account), runs_bind_ok (α := String × KeyInfo), runs_fetchParams_ok,
    runs_fetchAccount_ok, runs_resolveAuthAddress_iff, Language.orFail_ok, runs_pure]
  constructor
  · rintro ⟨_, hs, _, hr, suggested, _, _, rfl, rfl, sender, _, _, rfl, rfl, txn, htxn, checks, hchecks,
      resolved, _, _, rfl, ⟨keys, rfl, hresolved⟩, rfl, hitem⟩
    exact ⟨hs, hr, suggested, sender, keys, txn, resolved, checks, rfl, htxn, hchecks, hresolved,
      Except.ok.inj hitem⟩
  · rintro ⟨hs, hr, suggested, sender, keys, txn, resolved, checks, rfl, htxn, hchecks, hresolved, rfl⟩
    exact ⟨(), hs, (), hr, suggested, _, _, rfl, rfl, sender, _, _, rfl, rfl, txn, htxn, checks, hchecks,
      resolved, _, _, rfl, ⟨keys, rfl, hresolved⟩, rfl, rfl⟩

theorem Language.transferParts_ok {build : Except SdkError Txn}
    {check : Except SdkError (List PreparedCheck)} {parts : Txn × List PreparedCheck} :
    L.transferParts build check = .ok parts ↔ build = .ok parts.1 ∧ check = .ok parts.2 := by
  obtain ⟨txn, checks⟩ := parts
  cases L <;> cases build <;> cases check <;>
    simp [Language.transferParts, Bind.bind, Except.bind, Pure.pure, Except.pure]

theorem runs_prepareAsaTransfer_ok {params : AsaTransferPrepParams} :
    Runs (L.prepareAsaTransfer sdk params) t (.ok item) ↔
      params.sender ≠ "" ∧ params.receiver ≠ "" ∧ params.assetId ≠ 0 ∧
      ∃ suggested sender receiver keys txn resolved checks,
        t = [⟨.suggestedParams, .ok suggested⟩, ⟨.accountInformation params.sender, .ok sender⟩,
          ⟨.accountInformation params.receiver, .ok receiver⟩, ⟨.listKeysIfKeysetChanged, .ok keys⟩] ∧
        sdk.makeAssetTransferTxn params.sender params.receiver params.amount params.note
          (L.applyPrepFee suggested params.fee params.useFlatFee) params.assetId = .ok txn ∧
        L.asaTransferChecks sender receiver params.assetId params.amount = .ok checks ∧
        Resolves keys params.sender sender.authAddr resolved ∧
        item = { transaction := some txn, authAddress := resolved.1, signerKey := some resolved.2,
                 checks := checks } := by
  simp only [Language.prepareAsaTransfer, runs_lift_bind_ok, failIf_ok,
    runs_bind_ok (α := SuggestedParams), runs_bind_ok (α := Account),
    runs_bind_ok (α := String × KeyInfo), runs_fetchParams_ok, runs_fetchAccount_ok,
    runs_resolveAuthAddress_iff, Language.transferParts_ok, Language.orFail_ok, runs_pure]
  constructor
  · rintro ⟨_, hs, _, hr, _, ha, suggested, _, _, rfl, rfl, sender, _, _, rfl, rfl, receiver, _, _, rfl,
      rfl, ⟨txn, checks⟩, ⟨htxn, hchecks⟩, resolved, _, _, rfl, ⟨keys, rfl, hresolved⟩, rfl, hitem⟩
    exact ⟨hs, hr, ha, suggested, sender, receiver, keys, txn, resolved, checks, rfl, htxn, hchecks,
      hresolved, Except.ok.inj hitem⟩
  · rintro ⟨hs, hr, ha, suggested, sender, receiver, keys, txn, resolved, checks, rfl, htxn, hchecks,
      hresolved, rfl⟩
    exact ⟨(), hs, (), hr, (), ha, suggested, _, _, rfl, rfl, sender, _, _, rfl, rfl, receiver, _, _, rfl,
      rfl, (txn, checks), ⟨htxn, hchecks⟩, resolved, _, _, rfl, ⟨keys, rfl, hresolved⟩, rfl, rfl⟩

end Runs

/-! ### What the group takes -/

/-- The microAlgos a transaction takes from its sender. -/
def Txn.debit (txn : Txn) : ℕ := if txn.type = .payment then txn.amount + txn.fee else txn.fee

def PreparedGroup.txns (group : PreparedGroup) : List Txn := group.transactions.filterMap (·.transaction)

/-- What the group takes from a sender. -/
def PreparedGroup.debited (group : PreparedGroup) (sender : String) : ℕ :=
  ((group.txns.filter (·.sender = sender)).map (·.debit)).sum

/-- What the payments of the group take from a sender. -/
def PreparedGroup.paid (group : PreparedGroup) (sender : String) : ℕ :=
  ((group.txns.filter fun txn => txn.type = .payment ∧ txn.sender = sender).map (·.debit)).sum

structure Funds where
  amount : ℕ
  minBalance : ℕ

/-- Balances that fit the SDK's type. -/
def Language.CanHold (L : Language) (funds : String → Funds) : Prop :=
  L = .go → ∀ address, (funds address).amount < 2 ^ 64

/-- One snapshot of the ledger answered the whole run. -/
def Against (funds : String → Funds) (t : Trace preparation) : Prop :=
  ∀ address account, (⟨.accountInformation address, .ok account⟩ : Event preparation) ∈ t →
    account.amount = (funds address).amount ∧ account.minBalance = (funds address).minBalance

/-- No sender of a payment is asked for more than it has above its minimum. -/
def PreparedGroup.Affordable (group : PreparedGroup) (funds : String → Funds) : Prop :=
  ∀ txn ∈ group.txns, txn.type = .payment →
    group.debited txn.sender + (funds txn.sender).minBalance ≤ (funds txn.sender).amount

/-- No sender of a payment pays a fee for anything else. In Go, moreover, its
payments take something, and less than 2^64. -/
def PreparedGroup.Covered (group : PreparedGroup) (L : Language) : Prop :=
  ∀ txn ∈ group.txns, txn.type = .payment →
    (∀ other ∈ group.txns, other.type ≠ .payment → other.sender = txn.sender → other.fee = 0) ∧
      (L = .go → 0 < group.paid txn.sender ∧ group.paid txn.sender < 2 ^ 64)

/-- What a sender is asked for beside its payments. -/
def PreparedGroup.otherFees (group : PreparedGroup) (sender : String) : ℕ :=
  ((group.txns.filter fun txn => txn.type ≠ .payment ∧ txn.sender = sender).map (·.fee)).sum

theorem PreparedGroup.debited_eq (group : PreparedGroup) (sender : String) :
    group.debited sender = group.paid sender + group.otherFees sender := by
  unfold PreparedGroup.debited PreparedGroup.paid PreparedGroup.otherFees
  induction group.txns with
  | nil => rfl
  | cons txn txns ih =>
    by_cases hs : txn.sender = sender
    · by_cases hp : txn.type = .payment
      · simp only [List.filter_cons, hs, hp, decide_true, ite_true, List.map_cons, List.sum_cons,
          and_self, ne_eq, not_true_eq_false, false_and, decide_false, Bool.false_eq_true, ite_false, ih]
        omega
      · have hd : txn.debit = txn.fee := if_neg hp
        simp only [List.filter_cons, hs, hp, decide_true, ite_true, List.map_cons, List.sum_cons,
          false_and, ne_eq, not_false_eq_true, true_and, decide_false, Bool.false_eq_true, ite_false, ih, hd]
        omega
    · simp only [List.filter_cons, hs, and_false, decide_false, Bool.false_eq_true, ite_false, ih]

theorem PreparedGroup.debit_le_paid (group : PreparedGroup) {txn : Txn} (h : txn ∈ group.txns)
    (htype : txn.type = .payment) : txn.amount + txn.fee ≤ group.paid txn.sender := by
  have hdebit : txn.debit = txn.amount + txn.fee := if_pos htype
  rw [← hdebit]
  refine List.single_le_sum (fun _ _ => Nat.zero_le _) _
    (List.mem_map_of_mem (List.mem_filter.mpr ⟨h, ?_⟩))
  simp [htype]

theorem PreparedGroup.fee_le_otherFees (group : PreparedGroup) {txn : Txn} (h : txn ∈ group.txns)
    (htype : txn.type ≠ .payment) : txn.fee ≤ group.otherFees txn.sender := by
  refine List.single_le_sum (fun _ _ => Nat.zero_le _) _
    (List.mem_map_of_mem (List.mem_filter.mpr ⟨h, ?_⟩))
  simp [htype]

/-- A sender without payments pays none. -/
theorem PreparedGroup.paid_eq_zero_or (group : PreparedGroup) (sender : String) :
    group.paid sender = 0 ∨ ∃ txn ∈ group.txns, txn.type = .payment ∧ txn.sender = sender := by
  by_cases h : (group.txns.filter fun txn => txn.type = .payment ∧ txn.sender = sender) = []
  · left
    rw [PreparedGroup.paid, h]
    rfl
  · right
    obtain ⟨txn, htxn⟩ := List.exists_mem_of_ne_nil _ h
    rw [List.mem_filter, decide_eq_true_eq] at htxn
    exact ⟨txn, htxn⟩

theorem filterMap_transaction_congr {xs ys : List PreparedTransaction}
    (h : List.Forall₂ (fun x y => y.transaction = x.transaction) xs ys) :
    ys.filterMap (·.transaction) = xs.filterMap (·.transaction) := by
  induction h with
  | nil => rfl
  | cons hxy _ ih => rw [List.filterMap_cons, List.filterMap_cons, hxy, ih]

section Sweep

variable {L : Language} {sdk : TxnBuilder} {t : Trace preparation} {item : PreparedTransaction}
  {funds : String → Funds} {transfers : List AsaTransferPrepParams} {payments : List PaymentPrepParams}
  {group : PreparedGroup}

theorem Against.mono {t' : Trace preparation} (h : Against funds t) (ht : t' ⊆ t) : Against funds t' :=
  fun address account he => h address account (ht he)

theorem Language.lookup_paymentData (sender : Account) (amount fee : ℕ) :
    (L.paymentData sender amount fee).lookup "available" =
      some (L.available sender.amount sender.minBalance) := by
  cases L <;> rfl

/-- A prepared payment records what its sender can spend. -/
theorem prepared_payment (hsdk : sdk.Faithful) {params : PaymentPrepParams}
    (h : Runs (L.preparePayment sdk params) t (.ok item)) (ha : Against funds t) :
    ∃ txn, item.transaction = some txn ∧ txn.type = .payment ∧
      item.Records "payment_balance" "available"
        (L.available (funds txn.sender).amount (funds txn.sender).minBalance) := by
  obtain ⟨-, -, suggested, sender, keys, txn, resolved, checks, rfl, htxn, hchecks, -, rfl⟩ :=
    runs_preparePayment_ok.mp h
  obtain ⟨htype, hsender, -⟩ := hsdk.payment htxn
  obtain ⟨-, -, rfl⟩ := Language.paymentChecks_ok.mp hchecks
  obtain ⟨hamount, hmin⟩ := ha params.sender sender (by simp)
  refine ⟨txn, rfl, htype, ⟨_, List.mem_singleton.mpr rfl, rfl⟩, fun check hcheck _ => ?_⟩
  cases List.mem_singleton.mp hcheck
  refine ⟨_, rfl, ?_⟩
  rw [L.lookup_paymentData, hsender, hamount, hmin]

theorem prepared_transfer (hsdk : sdk.Faithful) {params : AsaTransferPrepParams}
    (h : Runs (L.prepareAsaTransfer sdk params) t (.ok item)) :
    ∃ txn, item.transaction = some txn ∧ txn.type = assetTransferType := by
  obtain ⟨-, -, -, suggested, sender, receiver, keys, txn, resolved, checks, -, htxn, -, -, rfl⟩ :=
    runs_prepareAsaTransfer_ok.mp h
  exact ⟨txn, rfl, (hsdk.transfer htxn).1⟩

theorem checkSlice_ok {α : Type} {asked : List α} {check : Except SdkError PreparedCheck} :
    (∃ checks, checkSlice asked check = .ok checks) ↔ asked = [] ∨ ∃ report, check = .ok report := by
  unfold checkSlice
  by_cases h : asked = []
  · simp [h]
  · cases check <;> simp [h, Except.map]

theorem runs_prepareSweepGroup_ok :
    (∃ checks, Runs (L.prepareSweepGroup sdk transfers payments) t
      (.ok { transactions := group.transactions, checks := checks })) ↔
      ¬ (transfers = [] ∧ payments = []) ∧ ∃ t₁ t₂ transferred paid, t = t₁ ++ t₂ ∧
        Runs (L.prepareTransfers sdk transfers) t₁ (.ok transferred) ∧
        Runs (L.preparePayments sdk payments) t₂ (.ok paid) ∧
        (transfers = [] ∨ ∃ report, L.asaTransferGroupBalanceCheck transferred = .ok report) ∧
        (payments = [] ∨ ∃ report, L.paymentGroupBalanceCheck paid = .ok report) ∧
        group.transactions = transferred ++ paid := by
  have hlen : ∀ {t transferred}, Runs (L.prepareTransfers sdk transfers) t (.ok transferred) →
      transferred.length = transfers.length := fun h => by
    rw [(runs_collect_ok h).1, List.length_zipIdx]
  simp only [Language.prepareSweepGroup, runs_lift_bind_ok, failIf_ok,
    runs_bind_ok (α := List PreparedTransaction), runs_pure, ← checkSlice_ok]
  constructor
  · rintro ⟨checks, _, hne, transferred, t₁, _, rfl, htr, paid, t₂, _, rfl, hpaid, asaChecks, hasa,
      paymentChecks, hpay, rfl, hgroup⟩
    rw [← hlen htr] at hasa hpay
    rw [List.take_left] at hasa
    rw [List.drop_left] at hpay
    exact ⟨hne, t₁, t₂, transferred, paid, by simp, htr, hpaid, ⟨_, hasa⟩, ⟨_, hpay⟩,
      congrArg PreparedGroup.transactions (Except.ok.inj hgroup)⟩
  · rintro ⟨hne, t₁, t₂, transferred, paid, rfl, htr, hpaid, ⟨asaChecks, hasa⟩, ⟨paymentChecks, hpay⟩,
      hgroup⟩
    have htake : (transferred ++ paid).take transfers.length = transferred := by
      rw [← hlen htr, List.take_left]
    have hdrop : (transferred ++ paid).drop transfers.length = paid := by
      rw [← hlen htr, List.drop_left]
    rw [← htake] at hasa
    rw [← hdrop] at hpay
    exact ⟨_, (), hne, transferred, t₁, t₂, rfl, htr, paid, t₂, [], by simp, hpaid, asaChecks, hasa,
      paymentChecks, hpay, rfl, by rw [hgroup]⟩

theorem payments_recorded (hsdk : sdk.Faithful) {paid : List PreparedTransaction}
    (h : Runs (L.preparePayments sdk payments) t (.ok paid)) (ha : Against funds t) :
    ∀ item ∈ paid, ∃ txn, item.transaction = some txn ∧ txn.type = .payment ∧
      item.Records "payment_balance" "available"
        (L.available (funds txn.sender).amount (funds txn.sender).minBalance) := by
  intro item hitem
  obtain ⟨x, -, t', ht', hrun⟩ := runs_collect_mem h hitem
  exact prepared_payment hsdk (runs_mapError_ok.mp hrun) (ha.mono ht')

theorem transfers_typed (hsdk : sdk.Faithful) {transferred : List PreparedTransaction}
    (h : Runs (L.prepareTransfers sdk transfers) t (.ok transferred)) :
    ∀ txn ∈ transferred.filterMap (·.transaction), txn.type ≠ .payment := by
  intro txn htxn
  obtain ⟨item, hitem, hsome⟩ := List.mem_filterMap.mp htxn
  obtain ⟨x, -, t', -, hrun⟩ := runs_collect_mem h hitem
  obtain ⟨txn', htxn', htype⟩ := prepared_transfer hsdk (runs_mapError_ok.mp hrun)
  rw [hsome] at htxn'
  cases htxn'
  rw [htype]
  decide

theorem payments_typed (hsdk : sdk.Faithful) {paid : List PreparedTransaction}
    (h : Runs (L.preparePayments sdk payments) t (.ok paid)) :
    ∀ txn ∈ paid.filterMap (·.transaction), txn.type = .payment := by
  intro txn htxn
  obtain ⟨item, hitem, hsome⟩ := List.mem_filterMap.mp htxn
  obtain ⟨x, -, t', -, hrun⟩ := runs_collect_mem h hitem
  obtain ⟨-, -, suggested, sender, keys, txn', resolved, checks, -, htxn', -, -, rfl⟩ :=
    runs_preparePayment_ok.mp (runs_mapError_ok.mp hrun)
  cases hsome
  exact (hsdk.payment htxn').1

/-- The payment slice holds the payments of the group. -/
theorem paid_eq_paymentTotal {transferred paid : List PreparedTransaction}
    (hgroup : group.transactions = transferred ++ paid)
    (htr : ∀ txn ∈ transferred.filterMap (·.transaction), txn.type ≠ .payment)
    (hpaid : ∀ txn ∈ paid.filterMap (·.transaction), txn.type = .payment) (sender : String) :
    group.paid sender = paymentTotal paid sender := by
  have hnone : (transferred.filterMap (·.transaction)).filter
      (fun txn => txn.type = .payment ∧ txn.sender = sender) = [] := by
    rw [List.filter_eq_nil_iff]
    intro txn htxn
    simp [htr txn htxn]
  have hall : (paid.filterMap (·.transaction)).filter (fun txn => txn.type = .payment ∧ txn.sender = sender) =
      (paid.filterMap (·.transaction)).filter (·.sender = sender) :=
    List.filter_congr fun txn htxn => by simp [hpaid txn htxn]
  rw [PreparedGroup.paid, PreparedGroup.txns, hgroup, List.filterMap_append, List.filter_append, hnone,
    List.nil_append, hall, paymentTotal, totalBy]
  congr 1
  refine List.map_congr_left fun txn htxn => ?_
  exact if_pos (hpaid txn (List.mem_filter.mp htxn).1)

/-- What a successful run against one snapshot has checked of the payments. -/
def PaymentsWithin (L : Language) (group : PreparedGroup) (funds : String → Funds) : Prop :=
  ∀ txn ∈ group.txns, txn.type = .payment →
    (L.reduce (group.paid txn.sender) : ℤ) ≤
      L.available (funds txn.sender).amount (funds txn.sender).minBalance

theorem payments_within (hsdk : sdk.Faithful) (ha : Against funds t)
    (h : Runs (L.prepareSweepGroup sdk transfers payments) t (.ok group)) : PaymentsWithin L group funds := by
  obtain ⟨-, t₁, t₂, transferred, paid, rfl, htr, hpaid, -, hcheck, hgroup⟩ :=
    runs_prepareSweepGroup_ok.mp ⟨group.checks, h⟩
  have hrec := payments_recorded hsdk hpaid (ha.mono (List.subset_append_right ..))
  intro txn htxn htype
  rw [PreparedGroup.txns, hgroup, List.filterMap_append, List.mem_append] at htxn
  rcases htxn with htxn | htxn
  · exact absurd htype (transfers_typed hsdk htr txn htxn)
  · rw [paid_eq_paymentTotal hgroup (transfers_typed hsdk htr) (payments_typed hsdk hpaid)]
    have hne : payments ≠ [] := by
      rintro rfl
      have hlen := (runs_collect_ok hpaid).1
      rw [List.zipIdx_nil, List.length_nil, List.length_eq_zero_iff] at hlen
      rw [hlen] at htxn
      cases htxn
    obtain ⟨report, hreport⟩ := hcheck.resolve_left hne
    exact (paymentGroupBalanceCheck_iff
      (fun s => L.available (funds s).amount (funds s).minBalance) hrec).mp
        ⟨report, hreport⟩ txn htxn

/-- Where no sender of a payment pays another fee, what was checked is all
there is to pay. -/
theorem PreparedGroup.Covered.affordable (hc : group.Covered L) (hs : PaymentsWithin L group funds) :
    group.Affordable funds := by
  intro txn htxn htype
  obtain ⟨hfees, hgo⟩ := hc txn htxn htype
  have hzero : group.otherFees txn.sender = 0 := by
    refine List.sum_eq_zero fun fee hfee => ?_
    obtain ⟨other, hother, rfl⟩ := List.mem_map.mp hfee
    rw [List.mem_filter, decide_eq_true_eq] at hother
    exact hfees other hother.1 hother.2.1 hother.2.2
  have hle := hs txn htxn htype
  rw [group.debited_eq, hzero]
  cases L with
  | go =>
    obtain ⟨hpos, hlt⟩ := hgo rfl
    rw [Language.reduce_go, Nat.mod_eq_of_lt hlt] at hle
    simp only [Language.available] at hle
    omega
  | python =>
    simp only [Language.reduce_python, Language.available] at hle
    omega
  | typescript =>
    simp only [Language.reduce_typescript, Language.available] at hle
    omega

/-- The answer algod gives when the accounts have other funds. -/
def refund (funds : String → Funds) : Event preparation → Event preparation
  | ⟨.accountInformation address, .ok account⟩ =>
    ⟨.accountInformation address, .ok { account with
      amount := (funds address).amount, minBalance := (funds address).minBalance }⟩
  | e => e

theorem against_refund (funds : String → Funds) (t : Trace preparation) :
    Against funds (t.map (refund funds)) := by
  intro address account he
  obtain ⟨⟨op, ans⟩, -, heq⟩ := List.mem_map.mp he
  cases op with
  | suggestedParams => cases heq
  | listKeysIfKeysetChanged => cases heq
  | accountInformation address' =>
    cases ans with
    | error why => cases heq
    | ok account' =>
      cases heq
      exact ⟨rfl, rfl⟩

/-- An asset transfer does not look at the funds. -/
theorem runs_prepareAsaTransfer_refund {params : AsaTransferPrepParams}
    (h : Runs (L.prepareAsaTransfer sdk params) t (.ok item)) :
    Runs (L.prepareAsaTransfer sdk params) (t.map (refund funds)) (.ok item) := by
  obtain ⟨hs, hr, ha, suggested, sender, receiver, keys, txn, resolved, checks, rfl, htxn, hchecks,
    hresolved, rfl⟩ := runs_prepareAsaTransfer_ok.mp h
  exact runs_prepareAsaTransfer_ok.mpr ⟨hs, hr, ha, suggested, _, _, keys, txn, resolved, checks, rfl, htxn,
    hchecks, hresolved, rfl⟩

/-- A payment goes through on any funds that cover it, as the same transaction. -/
theorem runs_preparePayment_refund (hsdk : sdk.Faithful) {params : PaymentPrepParams}
    (h : Runs (L.preparePayment sdk params) t (.ok item))
    (hcover : ∀ txn, item.transaction = some txn → (L.add txn.amount txn.fee : ℤ) ≤
      L.available (funds txn.sender).amount (funds txn.sender).minBalance) :
    ∃ item', Runs (L.preparePayment sdk params) (t.map (refund funds)) (.ok item') ∧
      item'.transaction = item.transaction := by
  obtain ⟨hs, hr, suggested, sender, keys, txn, resolved, checks, rfl, htxn, hchecks, hresolved, rfl⟩ :=
    runs_preparePayment_ok.mp h
  obtain ⟨-, hsender, hamount⟩ := hsdk.payment htxn
  obtain ⟨hover, -, -⟩ := Language.paymentChecks_ok.mp hchecks
  have hcover := hcover txn rfl
  rw [hsender, hamount] at hcover
  exact ⟨_, runs_preparePayment_ok.mpr ⟨hs, hr, suggested, _, keys, txn, resolved, _, rfl, htxn,
    Language.paymentChecks_ok.mpr ⟨hover, hcover, rfl⟩, hresolved, rfl⟩, rfl⟩

theorem Language.reduce_le (n : ℕ) : L.reduce n ≤ n := by
  cases L with
  | go => exact Nat.mod_le ..
  | python => exact le_rfl
  | typescript => exact le_rfl

/-- **A sweep looks at the payments alone.** A group that was prepared once is
prepared again, with the same transactions, whenever every sender has what its
payments take. -/
theorem sweep_refunded (hsdk : sdk.Faithful)
    (h : Runs (L.prepareSweepGroup sdk transfers payments) t (.ok group))
    (hcover : ∀ txn ∈ group.txns, txn.type = .payment → (group.paid txn.sender : ℤ) ≤
      L.available (funds txn.sender).amount (funds txn.sender).minBalance) :
    ∃ group', Runs (L.prepareSweepGroup sdk transfers payments) (t.map (refund funds)) (.ok group') ∧
      group'.txns = group.txns := by
  obtain ⟨hne, t₁, t₂, transferred, paid, rfl, htr, hpaid, hasa, -, hgroup⟩ :=
    runs_prepareSweepGroup_ok.mp ⟨group.checks, h⟩
  have htxns : group.txns = transferred.filterMap (·.transaction) ++ paid.filterMap (·.transaction) := by
    rw [PreparedGroup.txns, hgroup, List.filterMap_append]
  have hpayment : ∀ txn ∈ paid.filterMap (·.transaction), txn ∈ group.txns ∧ txn.type = .payment :=
    fun txn htxn => ⟨htxns ▸ List.mem_append_right _ htxn, payments_typed hsdk hpaid txn htxn⟩
  -- the transfers come out the same, the payments with other checks
  obtain ⟨transferred', htr', hsame⟩ := runs_collect_map (w := refund funds) (R := Eq) htr
    fun x _ t' y _ hrun =>
      ⟨y, runs_mapError_ok.mpr (runs_prepareAsaTransfer_refund (runs_mapError_ok.mp hrun)), rfl⟩
  rw [List.forall₂_eq_eq_eq] at hsame
  subst hsame
  obtain ⟨paid', hpaid', hsame⟩ := runs_collect_map (w := refund funds)
    (R := fun y y' : PreparedTransaction => y'.transaction = y.transaction) hpaid
    fun x _ t' y hy hrun => by
      have hpayable : ∀ txn, y.transaction = some txn → (L.add txn.amount txn.fee : ℤ) ≤
          L.available (funds txn.sender).amount (funds txn.sender).minBalance := by
        intro txn htxn
        obtain ⟨hmem, htype⟩ := hpayment txn (List.mem_filterMap.mpr ⟨y, hy, htxn⟩)
        have hle := group.debit_le_paid hmem htype
        have hadd : L.add txn.amount txn.fee ≤ txn.amount + txn.fee := Language.reduce_le _
        have := hcover txn hmem htype
        omega
      obtain ⟨y', hrun', heq⟩ := runs_preparePayment_refund hsdk (runs_mapError_ok.mp hrun) hpayable
      exact ⟨y', runs_mapError_ok.mpr hrun', heq⟩
  have hpaidTxns : paid'.filterMap (·.transaction) = paid.filterMap (·.transaction) :=
    filterMap_transaction_congr hsame
  have hcheck : ∃ report, L.paymentGroupBalanceCheck paid' = .ok report := by
    refine (paymentGroupBalanceCheck_iff
      (fun s => L.available (funds s).amount (funds s).minBalance)
      (payments_recorded hsdk hpaid' (against_refund funds t₂))).mpr fun txn htxn => ?_
    rw [hpaidTxns] at htxn
    obtain ⟨hmem, htype⟩ := hpayment txn htxn
    have htotal : paymentTotal paid' txn.sender = group.paid txn.sender := by
      rw [paid_eq_paymentTotal hgroup (transfers_typed hsdk htr) (payments_typed hsdk hpaid),
        paymentTotal, paymentTotal, totalBy, totalBy, hpaidTxns]
    have hle := Language.reduce_le (L := L) (group.paid txn.sender)
    have := hcover txn hmem htype
    rw [htotal]
    omega
  let again : PreparedGroup := { transactions := transferred ++ paid', checks := [] }
  have hrun : ∃ checks, Runs (L.prepareSweepGroup sdk transfers payments) ((t₁ ++ t₂).map (refund funds))
      (.ok { transactions := again.transactions, checks := checks }) :=
    runs_prepareSweepGroup_ok.mpr ⟨hne, t₁.map (refund funds), t₂.map (refund funds), transferred, paid',
      List.map_append, htr', hpaid', hasa, Or.inr hcheck, rfl⟩
  obtain ⟨checks, hrun⟩ := hrun
  refine ⟨_, hrun, ?_⟩
  rw [htxns, PreparedGroup.txns, List.filterMap_append, hpaidTxns]

end Sweep

/-- **When a sweep is affordable.** A group that asks no fee beside the payments
of a sender of payments is affordable on every snapshot it was prepared
against, and only such groups are: with any other fee the same transactions are
prepared on a snapshot that cannot pay for them. Go needs the payments of a
sender to take something, and less than 2^64. -/
theorem sweep_affordable_iff (L : Language) (sdk : TxnBuilder) (hsdk : sdk.Faithful)
    (transfers : List AsaTransferPrepParams) (payments : List PaymentPrepParams) :
    (∀ funds t group, L.CanHold funds → Against funds t →
      Runs (L.prepareSweepGroup sdk transfers payments) t (.ok group) →
        group.Covered L → group.Affordable funds) ∧
    ((∀ funds t group, L.CanHold funds → Against funds t →
      Runs (L.prepareSweepGroup sdk transfers payments) t (.ok group) → group.Affordable funds) ↔
    ∀ funds t group, L.CanHold funds → Against funds t →
      Runs (L.prepareSweepGroup sdk transfers payments) t (.ok group) → group.Covered L) := by
  have henough : ∀ funds t group, L.CanHold funds → Against funds t →
      Runs (L.prepareSweepGroup sdk transfers payments) t (.ok group) →
        group.Covered L → group.Affordable funds :=
    fun funds t group _ ha hrun hc => hc.affordable (payments_within hsdk ha hrun)
  refine ⟨henough, ?_, fun h funds t group hf ha hrun => henough funds t group hf ha hrun (h funds t group hf ha hrun)⟩
  intro h funds t group hf ha hrun txn htxn htype
  have hsmall : L = .go → ∀ txn ∈ group.txns, txn.type = .payment → group.paid txn.sender < 2 ^ 64 := by
    intro hgo txn htxn htype
    have haff := h funds t group hf ha hrun txn htxn htype
    have := hf hgo txn.sender
    have := group.debited_eq txn.sender
    omega
  -- the same transactions on other funds, which have to be affordable too
  have hagain : ∀ funds', L.CanHold funds' →
      (∀ txn ∈ group.txns, txn.type = .payment → (group.paid txn.sender : ℤ) ≤
        L.available (funds' txn.sender).amount (funds' txn.sender).minBalance) →
      group.Affordable funds' := by
    intro funds' hf' hcover txn htxn htype
    obtain ⟨group', hrun', htxns⟩ := sweep_refunded hsdk hrun hcover
    have haff := h funds' _ group' hf' (against_refund funds' t) hrun' txn (htxns ▸ htxn) htype
    rwa [PreparedGroup.debited, htxns] at haff
  constructor
  · intro other hother hotype hsender
    have hhold : L.CanHold fun address => ⟨group.paid address, 0⟩ := by
      intro hgo address
      rcases group.paid_eq_zero_or address with hzero | ⟨payment, hpayment, hptype, rfl⟩
      · show group.paid address < 2 ^ 64
        omega
      · exact hsmall hgo payment hpayment hptype
    have haff := hagain _ hhold (fun txn _ _ => by
      cases L <;> simp [Language.available]) txn htxn htype
    have hdebited := group.debited_eq txn.sender
    have hfee := group.fee_le_otherFees hother hotype
    rw [hsender] at hfee
    simp only at haff
    omega
  · intro hgo
    refine ⟨Nat.pos_of_ne_zero fun hzero => ?_, hsmall hgo txn htxn htype⟩
    -- nothing to pay, from an account below its minimum
    have haff := hagain (fun address => if address = txn.sender then ⟨0, 1⟩ else ⟨group.paid address, 0⟩)
      (fun hgo address => by
        by_cases haddress : address = txn.sender
        · simp [haddress]
        · rcases group.paid_eq_zero_or address with hz | ⟨payment, hpayment, hptype, rfl⟩
          · simp [haddress, hz]
          · simpa [haddress] using hsmall hgo payment hpayment hptype)
      (fun other hother hotype => by
        subst hgo
        by_cases hsender : other.sender = txn.sender
        · simp [hsender, hzero, Language.available]
        · simp [hsender, Language.available])
      txn htxn htype
    simp at haff

namespace Demo

/-- The Algorand SDK on parameters with a flat fee. -/
def flatBuilder : TxnBuilder where
  makePaymentTxn sender receiver amount note params := .ok
    { type := .payment, sender := sender, fee := params.fee, note := note, receiver := receiver
      amount := amount }
  makeAssetTransferTxn sender receiver amount note params assetId := .ok
    { type := assetTransferType, sender := sender, fee := params.fee, note := note, receiver := receiver
      xferAsset := assetId, assetAmount := amount }

theorem flatBuilder_faithful : flatBuilder.Faithful where
  payment h := by
    cases h
    exact ⟨rfl, rfl, rfl⟩
  transfer h := by
    cases h
    exact ⟨rfl, rfl, rfl, rfl⟩

/-- 3000 microAlgos above the minimum, and some units of asset 7, everywhere. -/
def thinAccount (address : String) : Account where
  address := address
  authAddr := ""
  amount := 103000
  minBalance := 100000
  assets := [{ assetId := 7, amount := 5 }]

def thinFunds (_ : String) : Funds := { amount := 103000, minBalance := 100000 }

def thinAnswers : (op : preparation.Op) → preparation.Ans op
  | .suggestedParams => .ok { fee := 1000, flatFee := true, rest := [] }
  | .accountInformation address => .ok (thinAccount address)
  | .listKeysIfKeysetChanged => .ok [{ address := payer }]

theorem against_thinAnswers (p : PrepFlow PreparedGroup) : Against thinFunds (traceOf thinAnswers p) := by
  intro address account he
  have hans := ans_of_mem_traceOf thinAnswers p he
  cases hans
  exact ⟨rfl, rfl⟩

/-- All that can be spent. -/
def emptyingPayment : PaymentPrepParams where
  sender := payer
  receiver := "AAAAAAAAAAAAAAAAAAAAAAAAAAAAAAAAAAAAAAAAAAAAAAAAAAAAY5HFKQ"
  amount := 2000
  fee := some 1000

def unitTransfer (fee : ℕ) : AsaTransferPrepParams where
  sender := payer
  receiver := "AAAAAAAAAAAAAAAAAAAAAAAAAAAAAAAAAAAAAAAAAAAAAAAAAAAAY5HFKQ"
  assetId := 7
  amount := 1
  fee := some fee
  useFlatFee := true

def sweptTxns (fee : ℕ) : List Txn :=
  [{ type := assetTransferType, sender := payer, fee := fee, receiver := (unitTransfer fee).receiver
     xferAsset := 7, assetAmount := 1 },
   { type := .payment, sender := payer, fee := 1000, receiver := emptyingPayment.receiver, amount := 2000 }]

/-- The sweep goes through on the thin account, whatever the transfer costs. -/
theorem runs_sweep (L : Language) (fee : ℕ)
    (h : (exec thinAnswers (L.prepareSweepGroup flatBuilder [unitTransfer fee] [emptyingPayment])).map
      PreparedGroup.txns = .ok (sweptTxns fee)) :
    ∃ t group, Against thinFunds t ∧
      Runs (L.prepareSweepGroup flatBuilder [unitTransfer fee] [emptyingPayment]) t (.ok group) ∧
      group.txns = sweptTxns fee := by
  generalize hflow : L.prepareSweepGroup flatBuilder [unitTransfer fee] [emptyingPayment] = flow at h ⊢
  have hruns := runs_traceOf thinAnswers flow
  cases hexec : exec thinAnswers flow with
  | error e =>
    rw [hexec] at h
    cases h
  | ok group =>
    rw [hexec] at h hruns
    exact ⟨_, group, against_thinAnswers flow, hruns, Except.ok.inj h⟩

/-- The payment takes all there is, and the fee of the transfer comes on top. -/
theorem sweep_unaffordable :
    ∃ t group, Language.python.CanHold thinFunds ∧ Against thinFunds t ∧
      Runs (Language.python.prepareSweepGroup flatBuilder [unitTransfer 1000] [emptyingPayment]) t
        (.ok group) ∧ ¬ group.Affordable thinFunds := by
  obtain ⟨t, group, ha, hrun, htxns⟩ := runs_sweep .python 1000 (by decide +kernel)
  refine ⟨t, group, fun hgo => (by cases hgo), ha, hrun, fun haff => ?_⟩
  rw [PreparedGroup.Affordable] at haff
  simp only [PreparedGroup.debited, htxns] at haff
  exact absurd haff (by decide +kernel)

/-- With the fee of the transfer pooled into another transaction, it does fit. -/
theorem sweep_affordable_pooled :
    ∃ t group, Runs (Language.go.prepareSweepGroup flatBuilder [unitTransfer 0] [emptyingPayment]) t
      (.ok group) ∧ group.Affordable thinFunds := by
  obtain ⟨t, group, ha, hrun, htxns⟩ := runs_sweep .go 0 (by decide +kernel)
  refine ⟨t, group, hrun, (sweep_affordable_iff .go flatBuilder flatBuilder_faithful [unitTransfer 0]
    [emptyingPayment]).1 thinFunds t group (fun _ _ => by
      show 103000 < 2 ^ 64
      decide) ha hrun ?_⟩
  rw [PreparedGroup.Covered]
  simp only [PreparedGroup.paid, htxns]
  decide +kernel

end Demo

end AplaneSdk
