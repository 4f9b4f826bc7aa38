/-
# The fee of an opt-in and of a closed account

`prepare_asa_opt_in` and `prepare_account_close` compare the balance of the
sender with the fee of the suggested parameters and build the transaction after
that. The fee of the parameters is a fee per byte unless it is flat, and the
transaction then takes the minimum fee or the fee of its size. The check has
seen the fee the transaction asks exactly where the fee is flat, or where
nothing is asked at all. TypeScript reads the fee as a double, which can round
it down.

Key definitions: `TypeScript.toNumber`, `Language.prepareChecked`,
`Language.prepareAsaOptIn`, `Language.prepareAccountClose`, `Covers`,
`Language.FeeSeen`.
Key theorems: `toNumber_lt`, `runs_prepareChecked_ok`, `prepareChecked_covers_iff`,
`preflight_covers_iff`.
-/
import AplaneSdk.Sweep

namespace AplaneSdk

open Interaction Interaction.Prog Checks

/-! ### The checks -/

/-- `Number(n)`: the double nearest to `n`, the even one on a tie. -/
def TypeScript.toNumber (n : ℕ) : ℕ :=
  let unit := 2 ^ (n.log2 - 52)
  let low := n % unit
  let high := n / unit
  (if unit < 2 * low ∨ 2 * low = unit ∧ high % 2 = 1 then high + 1 else high) * unit

/-- The fee of the parameters as the checks read it. -/
def Language.checkedFee (L : Language) (suggested : SuggestedParams) : ℕ :=
  match L with
  | typescript => TypeScript.toNumber suggested.fee
  | _ => suggested.fee

/-- An amount as a check records it. -/
def Language.recordAmount (L : Language) (amount : ℕ) : ℤ :=
  match L with
  | typescript => (TypeScript.toNumber amount : ℤ)
  | _ => (amount : ℤ)

/-- A name of an entry, in the words of the language. -/
def Language.entryName (L : Language) (snake camel : String) : String :=
  match L with
  | typescript => camel
  | _ => snake

/-- `asaOptInChecks`. -/
def Language.asaOptInChecks (L : Language) (sender : Account) (assetId fee : ℕ) :
    Except SdkError (List PreparedCheck) := do
  failIf ((accountAssetHolding sender assetId).isSome = true)
    { text := s!"sender is already opted into asset {assetId}" }
  failIf (sender.amount < fee)
    { text := s!"insufficient funds for opt-in fee: balance {sender.amount}, fee {fee}" }
  pure [{
    name := "asa_opt_in"
    status := "ok"
    data := some [(L.entryName "asset_id" "assetId", (assetId : ℤ)), ("fee", (fee : ℤ))] }]

/-- `accountCloseChecks`. -/
def Language.accountCloseChecks (L : Language) (sender : Account) (fee : ℕ) :
    Except SdkError (List PreparedCheck) := do
  failIf (sender.status.toList.map Char.toLower = "online".toList) { text := "cannot close an online account" }
  failIf (sender.assets ≠ [] ∨ 0 < sender.totalAssetsOptedIn)
    { text := "cannot close account with ASA holdings" }
  failIf (sender.createdAssets ≠ [] ∨ 0 < sender.totalCreatedAssets)
    { text := "cannot close account with created assets" }
  failIf (sender.appsLocalState ≠ [] ∨ 0 < sender.totalAppsOptedIn)
    { text := "cannot close account with app opt-ins" }
  failIf (sender.createdApps ≠ [] ∨ 0 < sender.totalCreatedApps)
    { text := "cannot close account with created apps" }
  failIf (sender.amount < fee)
    { text := s!"insufficient funds for close fee: balance {sender.amount}, fee {fee}" }
  pure [{
    name := "account_close"
    status := "ok"
    data := some [("balance", L.recordAmount sender.amount),
      (L.entryName "min_balance" "minBalance", L.recordAmount sender.minBalance), ("fee", (fee : ℤ))] }]

/-! ### The preparations -/

/-- The Algorand SDK's part, with the size it estimates for a transaction. -/
structure FeeBuilder where
  makeAssetAcceptanceTxn : (sender : String) → (note : Bytes) → SuggestedParams → (assetId : ℕ) →
    Except String Txn
  makePaymentTxn : (sender receiver : String) → (amount : ℕ) → (note : Bytes) →
    (closeRemainderTo : String) → SuggestedParams → Except String Txn
  estimateSize : Txn → ℕ

/-- The fee a transaction of that size is given. -/
def SuggestedParams.feeOf (suggested : SuggestedParams) (size : ℕ) : ℕ :=
  if suggested.flatFee then suggested.fee else max suggested.minFee (suggested.fee * size)

/-- Transactions carry the fee of the parameters, and more than one byte. -/
structure FeeBuilder.Faithful (sdk : FeeBuilder) : Prop where
  acceptance : ∀ {sender note suggested assetId txn},
    sdk.makeAssetAcceptanceTxn sender note suggested assetId = .ok txn →
      txn.fee = suggested.feeOf (sdk.estimateSize txn)
  payment : ∀ {sender receiver amount note closeRemainderTo suggested txn},
    sdk.makePaymentTxn sender receiver amount note closeRemainderTo suggested = .ok txn →
      txn.fee = suggested.feeOf (sdk.estimateSize txn)
  size : ∀ txn, 1 < sdk.estimateSize txn

structure AsaOptInPrepParams where
  sender : String
  assetId : ℕ
  note : Bytes := []
  fee : Option ℕ := none
  useFlatFee : Bool := false

structure AccountClosePrepParams where
  sender : String
  closeTo : String
  note : Bytes := []
  fee : Option ℕ := none
  useFlatFee : Bool := false

/-- What the two preparations share: the check, and after it the transaction. -/
def Language.prepareChecked (L : Language) (sender : String) (fee : Option ℕ) (useFlatFee : Bool)
    (check : Account → ℕ → Except SdkError (List PreparedCheck))
    (build : SuggestedParams → Except SdkError Txn) : PrepFlow PreparedTransaction := do
  let suggested ← L.fetchParams
  let applied := L.applyPrepFee suggested fee useFlatFee
  let account ← L.fetchAccount "failed to get sender account info: " sender
  let checks ← liftM (check account (L.checkedFee applied))
  let txn ← liftM (build applied)
  let resolved ← L.resolveAuthAddress sender account.authAddr
  pure { transaction := some txn, authAddress := resolved.1, signerKey := some resolved.2, checks := checks }

/-- `PrepareAsaOptIn`, `prepare_asa_opt_in`, `prepareAsaOptIn`. -/
def Language.prepareAsaOptIn (L : Language) (sdk : FeeBuilder) (params : AsaOptInPrepParams) :
    PrepFlow PreparedTransaction := do
  liftM (failIf (params.sender = "") { text := "sender is required" })
  liftM (failIf (params.assetId = 0) { text := L.entryName "asset_id" "assetId" ++ " is required" })
  L.prepareChecked params.sender params.fee params.useFlatFee
    (fun account fee => L.asaOptInChecks account params.assetId fee)
    (fun applied => L.orFail "failed to create ASA opt-in transaction: "
      (sdk.makeAssetAcceptanceTxn params.sender params.note applied params.assetId))

/-- `PrepareAccountClose`, `prepare_account_close`, `prepareAccountClose`. -/
def Language.prepareAccountClose (L : Language) (sdk : FeeBuilder) (params : AccountClosePrepParams) :
    PrepFlow PreparedTransaction := do
  liftM (failIf (params.sender = "") { text := "sender is required" })
  liftM (failIf (params.closeTo = "") { text := L.entryName "close_to" "closeTo" ++ " is required" })
  liftM (failIf (params.closeTo = params.sender)
    { text := L.entryName "close_to" "closeTo" ++ " must differ from sender" })
  L.prepareChecked params.sender params.fee params.useFlatFee L.accountCloseChecks
    (fun applied => L.orFail "failed to create account close transaction: "
      (sdk.makePaymentTxn params.sender params.closeTo 0 params.note params.closeTo applied))

/-! ### Doubles -/

theorem toNumber_of_le {n : ℕ} (h : n.log2 ≤ 52) : TypeScript.toNumber n = n := by
  have hunit : 2 ^ (n.log2 - 52) = 1 := by
    rw [Nat.sub_eq_zero_of_le h, Nat.pow_zero]
  simp [TypeScript.toNumber, hunit, Nat.mod_one]

/-- Rounding does not double a number. -/
theorem toNumber_lt {n : ℕ} (h : 0 < n) : TypeScript.toNumber n < 2 * n := by
  by_cases hlog : n.log2 ≤ 52
  · rw [toNumber_of_le hlog]
    omega
  · have hunit : 2 ^ (n.log2 - 52) * 2 ^ 52 ≤ n := by
      rw [← Nat.pow_add, Nat.sub_add_cancel (by omega)]
      exact Nat.log2_self_le (by omega)
    unfold TypeScript.toNumber
    generalize 2 ^ (n.log2 - 52) = unit at hunit
    have hdiv : n / unit * unit ≤ n := Nat.div_mul_le_self n unit
    have hround : (if unit < 2 * (n % unit) ∨ 2 * (n % unit) = unit ∧ n / unit % 2 = 1 then n / unit + 1
        else n / unit) * unit ≤ n + unit := by
      split
      · rw [Nat.add_mul, Nat.one_mul]
        omega
      · omega
    exact lt_of_le_of_lt hround (by omega)

example : TypeScript.toNumber (2 ^ 53 + 1) = 2 ^ 53 ∧ TypeScript.toNumber (2 ^ 53 + 3) = 2 ^ 53 + 4 := by
  decide

/-! ### What a successful preparation leaves behind -/

section Checked

variable {L : Language} {sdk : FeeBuilder} {t : Trace preparation} {item : PreparedTransaction}

theorem Language.asaOptInChecks_ok {sender : Account} {assetId fee : ℕ} :
    (∃ checks, L.asaOptInChecks sender assetId fee = .ok checks) ↔
      accountAssetHolding sender assetId = none ∧ fee ≤ sender.amount := by
  simp only [Language.asaOptInChecks, seq_eq_ok, failIf_ok, pure_eq_ok, not_lt, Bool.not_eq_true,
    Option.isSome_eq_false_iff, Option.isNone_iff_eq_none, exists_and_left, exists_eq', and_true]

/-- An account with nothing on it. -/
structure Account.Bare (account : Account) : Prop where
  offline : account.status.toList.map Char.toLower ≠ "online".toList
  assets : account.assets = [] ∧ account.totalAssetsOptedIn = 0
  createdAssets : account.createdAssets = [] ∧ account.totalCreatedAssets = 0
  apps : account.appsLocalState = [] ∧ account.totalAppsOptedIn = 0
  createdApps : account.createdApps = [] ∧ account.totalCreatedApps = 0

theorem Language.accountCloseChecks_ok {sender : Account} {fee : ℕ} :
    (∃ checks, L.accountCloseChecks sender fee = .ok checks) ↔ sender.Bare ∧ fee ≤ sender.amount := by
  simp only [Language.accountCloseChecks, seq_eq_ok, failIf_ok, pure_eq_ok, not_lt, not_or, not_not,
    exists_and_left, exists_eq', and_true, Nat.le_zero]
  constructor
  · rintro ⟨h1, h2, h3, h4, h5, hfee⟩
    exact ⟨⟨h1, h2, h3, h4, h5⟩, hfee⟩
  · rintro ⟨⟨h1, h2, h3, h4, h5⟩, hfee⟩
    exact ⟨h1, h2, h3, h4, h5, hfee⟩

variable {sender : String} {fee : Option ℕ} {useFlatFee : Bool}
  {check : Account → ℕ → Except SdkError (List PreparedCheck)} {build : SuggestedParams → Except SdkError Txn}

theorem runs_prepareChecked_ok :
    Runs (L.prepareChecked sender fee useFlatFee check build) t (.ok item) ↔
      ∃ suggested account keys txn resolved checks,
        t = [⟨.suggestedParams, .ok suggested⟩, ⟨.accountInformation sender, .ok account⟩,
          ⟨.listKeysIfKeysetChanged, .ok keys⟩] ∧
        check account (L.checkedFee (L.applyPrepFee suggested fee useFlatFee)) = .ok checks ∧
        build (L.applyPrepFee suggested fee useFlatFee) = .ok txn ∧
        Resolves keys sender account.authAddr resolved ∧
        item = { transaction := some txn, authAddress := resolved.1, signerKey := some resolved.2,
                 checks := checks } := by
  simp only [Language.prepareChecked, runs_lift_bind_ok, runs_bind_ok (α := SuggestedParams),
    runs_bind_ok (α := Account), runs_bind_ok (α := String × KeyInfo), runs_fetchParams_ok,
    runs_fetchAccount_ok, runs_resolveAuthAddress_iff, runs_pure]
  constructor
  · rintro ⟨suggested, _, _, rfl, rfl, account, _, _, rfl, rfl, checks, hchecks, txn, htxn, resolved, _, _,
      rfl, ⟨keys, rfl, hresolved⟩, rfl, hitem⟩
    exact ⟨suggested, account, keys, txn, resolved, checks, rfl, hchecks, htxn, hresolved,
      Except.ok.inj hitem⟩
  · rintro ⟨suggested, account, keys, txn, resolved, checks, rfl, hchecks, htxn, hresolved, rfl⟩
    exact ⟨suggested, _, _, rfl, rfl, account, _, _, rfl, rfl, checks, hchecks, txn, htxn, resolved, _, _,
      rfl, ⟨keys, rfl, hresolved⟩, rfl, rfl⟩

/-- Whatever the account, the balance reaches the fee of what was prepared. -/
def Covers (flow : PrepFlow PreparedTransaction) (sender : String) (suggested : SuggestedParams) : Prop :=
  ∀ t item account txn, Runs flow t (.ok item) → ⟨.suggestedParams, .ok suggested⟩ ∈ t →
    ⟨.accountInformation sender, .ok account⟩ ∈ t → item.transaction = some txn → txn.fee ≤ account.amount

/-- The check sees the fee of the transaction: it is flat, and exact as a
double, or nothing is asked. -/
def Language.FeeSeen (L : Language) (applied : SuggestedParams) : Prop :=
  if applied.flatFee then L = .typescript → applied.fee ≤ TypeScript.toNumber applied.fee
  else applied.fee = 0 ∧ applied.minFee = 0

instance (L : Language) (applied : SuggestedParams) : Decidable (L.FeeSeen applied) := by
  unfold Language.FeeSeen
  infer_instance

/-- A flat fee is seen, and a fee per byte only where it is none: more than one
byte is more than rounding can make up for. -/
theorem Language.feeSeen_iff {applied : SuggestedParams} {size : ℕ} (hsize : 1 < size) :
    L.FeeSeen applied ↔ applied.feeOf size ≤ L.checkedFee applied := by
  unfold Language.FeeSeen SuggestedParams.feeOf
  by_cases hflat : applied.flatFee = true
  · rw [if_pos hflat, if_pos hflat]
    cases L with
    | typescript => exact ⟨fun h => h rfl, fun h _ => h⟩
    | go => exact ⟨fun _ => le_rfl, fun _ h => by cases h⟩
    | python => exact ⟨fun _ => le_rfl, fun _ h => by cases h⟩
  · rw [if_neg hflat, if_neg hflat]
    constructor
    · rintro ⟨hfee, hmin⟩
      rw [hfee, hmin, Nat.zero_mul]
      exact Nat.zero_le _
    · intro h
      have hzero : applied.fee = 0 := by
        by_contra hne
        have hpos : 0 < applied.fee := Nat.pos_of_ne_zero hne
        have htwice : 2 * applied.fee ≤ applied.fee * size := by
          rw [Nat.mul_comm]
          exact Nat.mul_le_mul_left _ hsize
        have hless : L.checkedFee applied < 2 * applied.fee := by
          cases L with
          | typescript => exact toNumber_lt hpos
          | go =>
            show applied.fee < _
            omega
          | python =>
            show applied.fee < _
            omega
        have := le_trans (le_max_right _ _) h
        omega
      have hchecked : L.checkedFee applied = 0 := by
        cases L <;> simp [Language.checkedFee, hzero, TypeScript.toNumber]
      have := le_trans (le_max_left _ _) h
      exact ⟨hzero, by omega⟩

theorem covers_failIf {c : Prop} [Decidable c] {e : SdkError} {flow : PrepFlow PreparedTransaction}
    {suggested : SuggestedParams} :
    Covers (do liftM (failIf c e); flow) sender suggested ↔ (¬ c → Covers flow sender suggested) := by
  constructor
  · intro h hc t item account txn hrun
    exact h t item account txn (runs_lift_bind_ok.mpr ⟨(), failIf_ok.mpr hc, hrun⟩)
  · intro h t item account txn hrun
    obtain ⟨⟨⟩, hc, hrun⟩ := runs_lift_bind_ok.mp hrun
    exact h (failIf_ok.mp hc) t item account txn hrun

/-- The account that has just what the check asks. -/
def justEnough (sender : String) (fee : ℕ) : Account := { address := sender, authAddr := "", amount := fee }

theorem justEnough_bare {amount : ℕ} : (justEnough sender amount).Bare where
  offline := by
    show "".toList.map Char.toLower ≠ "online".toList
    decide
  assets := ⟨rfl, rfl⟩
  createdAssets := ⟨rfl, rfl⟩
  apps := ⟨rfl, rfl⟩
  createdApps := ⟨rfl, rfl⟩

/-- The balance reaches the fee on every account exactly where the check has
seen it, provided the check compares the two and passes a bare account. -/
theorem prepareChecked_covers_iff {suggested : SuggestedParams} (size : Txn → ℕ) (hsize : ∀ txn, 1 < size txn)
    (hcheck : ∀ account fee checks, check account fee = .ok checks → fee ≤ account.amount)
    (hpass : ∀ fee, ∃ checks, check (justEnough sender fee) fee = .ok checks)
    (hbuild : ∀ applied txn, build applied = .ok txn → txn.fee = applied.feeOf (size txn)) :
    Covers (L.prepareChecked sender fee useFlatFee check build) sender suggested ↔
      ((∃ txn, build (L.applyPrepFee suggested fee useFlatFee) = .ok txn) →
        L.FeeSeen (L.applyPrepFee suggested fee useFlatFee)) := by
  constructor
  · rintro hcovers ⟨txn, htxn⟩
    set applied := L.applyPrepFee suggested fee useFlatFee
    obtain ⟨checks, hchecks⟩ := hpass (L.checkedFee applied)
    have hresolved : Resolves [{ address := sender }] sender
        (justEnough sender (L.checkedFee applied)).authAddr (sender, { address := sender }) := by
      simp [Resolves, justEnough, Go.findSpendableKey]
    have hrun := runs_prepareChecked_ok.mpr
      ⟨suggested, _, _, txn, _, checks, rfl, hchecks, htxn, hresolved, rfl⟩
    have hfee := hcovers _ _ (justEnough sender (L.checkedFee applied)) txn hrun
      List.mem_cons_self (List.mem_cons_of_mem _ List.mem_cons_self) rfl
    rw [hbuild applied txn htxn] at hfee
    exact (Language.feeSeen_iff (hsize txn)).mpr hfee
  · intro hseen t item account txn hrun hsuggested haccount htxn
    obtain ⟨suggested', account', keys, txn', resolved, checks, rfl, hchecks, hbuilt, -, rfl⟩ :=
      runs_prepareChecked_ok.mp hrun
    obtain rfl : txn' = txn := Option.some.inj htxn
    obtain rfl : suggested = suggested' := by
      simp only [List.mem_cons, List.not_mem_nil, or_false] at hsuggested
      rcases hsuggested with h | h | h <;> cases h
      rfl
    obtain rfl : account = account' := by
      simp only [List.mem_cons, List.not_mem_nil, or_false] at haccount
      rcases haccount with h | h | h <;> cases h
      rfl
    calc txn'.fee = (L.applyPrepFee suggested fee useFlatFee).feeOf (size txn') := hbuild _ _ hbuilt
      _ ≤ L.checkedFee (L.applyPrepFee suggested fee useFlatFee) :=
          (Language.feeSeen_iff (hsize txn')).mp (hseen ⟨txn', hbuilt⟩)
      _ ≤ account.amount := hcheck _ _ _ hchecks

end Checked

/-- **When the preflight covers the fee.** On given parameters of the network
and a given fee of the caller, the balance of every account an opt-in or a
close is prepared for reaches the fee of the transaction exactly where the
check has seen that fee, or where the request cannot be prepared at all. -/
theorem preflight_covers_iff (L : Language) (sdk : FeeBuilder) (hsdk : sdk.Faithful)
    (suggested : SuggestedParams) :
    (∀ params : AsaOptInPrepParams,
      Covers (L.prepareAsaOptIn sdk params) params.sender suggested ↔
        (params.sender ≠ "" → params.assetId ≠ 0 →
          (∃ txn, sdk.makeAssetAcceptanceTxn params.sender params.note
            (L.applyPrepFee suggested params.fee params.useFlatFee) params.assetId = .ok txn) →
          L.FeeSeen (L.applyPrepFee suggested params.fee params.useFlatFee))) ∧
    (∀ params : AccountClosePrepParams,
      Covers (L.prepareAccountClose sdk params) params.sender suggested ↔
        (params.sender ≠ "" → params.closeTo ≠ "" → params.closeTo ≠ params.sender →
          (∃ txn, sdk.makePaymentTxn params.sender params.closeTo 0 params.note params.closeTo
            (L.applyPrepFee suggested params.fee params.useFlatFee) = .ok txn) →
          L.FeeSeen (L.applyPrepFee suggested params.fee params.useFlatFee))) := by
  constructor
  · intro params
    rw [Language.prepareAsaOptIn, covers_failIf, covers_failIf,
      prepareChecked_covers_iff sdk.estimateSize hsdk.size
        (fun account fee checks h => (Language.asaOptInChecks_ok.mp ⟨checks, h⟩).2)
        (fun fee => Language.asaOptInChecks_ok.mpr ⟨rfl, le_rfl⟩)
        (fun applied txn h => hsdk.acceptance (Language.orFail_ok.mp h))]
    simp only [Language.orFail_ok, ne_eq]
  · intro params
    rw [Language.prepareAccountClose, covers_failIf, covers_failIf, covers_failIf,
      prepareChecked_covers_iff sdk.estimateSize hsdk.size
        (fun account fee checks h => (Language.accountCloseChecks_ok.mp ⟨checks, h⟩).2)
        (fun fee => Language.accountCloseChecks_ok.mpr ⟨justEnough_bare, le_rfl⟩)
        (fun applied txn h => hsdk.payment (Language.orFail_ok.mp h))]
    simp only [Language.orFail_ok, ne_eq]

namespace Demo

/-- The fees of the Algorand SDK, at one size for every transaction. -/
def sizedBuilder : FeeBuilder where
  makeAssetAcceptanceTxn sender note suggested assetId := .ok
    { type := assetTransferType, sender := sender, fee := suggested.feeOf 250, note := note
      receiver := sender, xferAsset := assetId }
  makePaymentTxn sender receiver amount note closeRemainderTo suggested := .ok
    { type := .payment, sender := sender, fee := suggested.feeOf 250, note := note, receiver := receiver
      amount := amount, closeRemainderTo := some closeRemainderTo }
  estimateSize _ := 250

theorem sizedBuilder_faithful : sizedBuilder.Faithful where
  acceptance h := by
    cases h
    rfl
  payment h := by
    cases h
    rfl
  size _ := by
    show 1 < 250
    decide

/-- What algod suggests when the network is quiet: no fee per byte, and a
minimum. -/
def quietParams : SuggestedParams := { fee := 0, flatFee := false, rest := [], minFee := 1000 }

def optIn (fee : Option ℕ) : AsaOptInPrepParams := { sender := payer, assetId := 7, fee := fee }

def close (fee : Option ℕ) : AccountClosePrepParams :=
  { sender := payer, closeTo := emptyingPayment.receiver, fee := fee }

def emptyAccount : Account := { address := payer, authAddr := "", status := "Offline" }

theorem resolves_payer : Resolves [{ address := payer }] payer emptyAccount.authAddr (payer, { address := payer }) := by
  simp [Resolves, emptyAccount, Go.findSpendableKey]

/-- A check that lets an account without funds pass, before a transaction that
asks a fee. -/
theorem not_covers {L : Language} {check : Account → ℕ → Except SdkError (List PreparedCheck)}
    {build : SuggestedParams → Except SdkError Txn}
    (hcheck : ∃ checks, check emptyAccount (L.checkedFee (L.applyPrepFee quietParams none false)) = .ok checks)
    (hbuild : ∃ txn, build (L.applyPrepFee quietParams none false) = .ok txn ∧ txn.fee = 1000) :
    ¬ Covers (L.prepareChecked payer none false check build) payer quietParams := by
  obtain ⟨checks, hcheck⟩ := hcheck
  obtain ⟨txn, hbuild, hfee⟩ := hbuild
  intro hcovers
  have hrun := runs_prepareChecked_ok.mpr
    ⟨quietParams, emptyAccount, _, txn, _, checks, rfl, hcheck, hbuild, resolves_payer, rfl⟩
  have hle : txn.fee ≤ 0 := hcovers _ _ emptyAccount txn hrun List.mem_cons_self
    (List.mem_cons_of_mem _ List.mem_cons_self) rfl
  omega

theorem optIn_uncovered (L : Language) :
    ¬ Covers (L.prepareAsaOptIn sizedBuilder (optIn none)) payer quietParams := by
  rw [Language.prepareAsaOptIn, covers_failIf, covers_failIf]
  intro hcovers
  refine not_covers (Language.asaOptInChecks_ok.mpr ⟨rfl, ?_⟩) ?_ (hcovers (by decide) (by decide))
  · cases L <;> decide
  · cases L <;> exact ⟨_, rfl, rfl⟩

theorem close_uncovered (L : Language) :
    ¬ Covers (L.prepareAccountClose sizedBuilder (close none)) payer quietParams := by
  rw [Language.prepareAccountClose, covers_failIf, covers_failIf, covers_failIf]
  intro hcovers
  refine not_covers (Language.accountCloseChecks_ok.mpr ⟨⟨?_, ⟨rfl, rfl⟩, ⟨rfl, rfl⟩, ⟨rfl, rfl⟩, ⟨rfl, rfl⟩⟩, ?_⟩)
    ?_ (hcovers (by decide) (by decide) (by decide))
  · decide
  · cases L <;> decide
  · cases L <;> exact ⟨_, rfl, rfl⟩

/-- An account without funds opts in, and is closed, at a fee of 1000. -/
theorem preflight_uncovered :
    (¬ Covers (Language.go.prepareAsaOptIn sizedBuilder (optIn none)) payer quietParams ∧
      ¬ Covers (Language.python.prepareAsaOptIn sizedBuilder (optIn none)) payer quietParams ∧
      ¬ Covers (Language.typescript.prepareAsaOptIn sizedBuilder (optIn none)) payer quietParams) ∧
    ¬ Covers (Language.go.prepareAccountClose sizedBuilder (close none)) payer quietParams ∧
      ¬ Covers (Language.python.prepareAccountClose sizedBuilder (close none)) payer quietParams ∧
      ¬ Covers (Language.typescript.prepareAccountClose sizedBuilder (close none)) payer quietParams :=
  ⟨⟨optIn_uncovered .go, optIn_uncovered .python, optIn_uncovered .typescript⟩,
    close_uncovered .go, close_uncovered .python, close_uncovered .typescript⟩

/-- With the fee set by the caller the check sees it. -/
theorem preflight_covers_flat :
    Covers (Language.python.prepareAsaOptIn sizedBuilder (optIn (some 1000))) payer quietParams ∧
      Covers (Language.typescript.prepareAccountClose sizedBuilder (close (some 1000))) payer quietParams :=
  ⟨((preflight_covers_iff .python sizedBuilder sizedBuilder_faithful quietParams).1 (optIn (some 1000))).mpr
      fun _ _ _ => by decide,
    ((preflight_covers_iff .typescript sizedBuilder sizedBuilder_faithful quietParams).2 (close (some 1000))).mpr
      fun _ _ _ _ => by decide⟩

end Demo

end AplaneSdk
