/-
# Transactions, signer keys and prepared slots

A transaction keeps the fields the SDKs read or rewrite and folds all others
into `rest`. What the Algorand SDKs do with one (msgpack, group hash,
LogicSig accounts) is a parameter, `AlgoSdk`; the only thing ever assumed of
it is `AlgoSdk.Faithful`, that decoding inverts encoding. `Platform` collects
what the languages' own libraries print or classify.

Key definitions: `Txn`, `AlgoSdk`, `Env`, `KeyInfo`, `PreparedTransaction`,
`selectedPreparedResources`, `isCanonicalDummy`, `GroupIdOk`, `Demo.env`.
Key theorems: `AlgoSdk.Faithful.encodeTxn_inj`, `Demo.faithful`.
-/
import Mathlib.Data.Countable.Basic
import Mathlib.Logic.Equiv.List
import Mathlib.Tactic.DeriveCountable
import AplaneSdk.Hex

namespace AplaneSdk

inductive TxType
  | payment
  | other (name : String)
  deriving DecidableEq

/-- A transaction. `group` is empty when absent; Go has no other absent group
than the zero digest, which it never encodes. -/
structure Txn where
  type : TxType
  sender : String
  fee : ℕ
  note : Bytes := []
  group : Bytes := []
  rekeyTo : Option String := none
  receiver : String := ""
  amount : ℕ := 0
  closeRemainderTo : Option String := none
  xferAsset : ℕ := 0
  assetAmount : ℕ := 0
  rest : Bytes := []
  deriving DecidableEq

def Txn.clearGroup (t : Txn) : Txn := { t with group := [] }

/-- No group id: absent, or all zero bytes. -/
def noGroupId (group : Bytes) : Bool := group.all (· == 0)

/-- The Algorand SDK of a language. A decoder may return something that is no
transaction (Python's `msgpack_decode`), which is `none`. -/
structure AlgoSdk where
  encode : Txn → Bytes
  decodeTxn : Bytes → Except String (Option Txn)
  /-- The transaction inside an encoded signed transaction. -/
  decodeSigned : Bytes → Except String (Option Txn)
  groupHash : List Txn → Except String Bytes
  lsigAddress : Bytes → Except String String
  signLogicSig : Bytes → Txn → Except String Bytes

/-- Decoding inverts encoding. -/
def AlgoSdk.Faithful (sdk : AlgoSdk) : Prop := ∀ t, sdk.decodeTxn (sdk.encode t) = .ok (some t)

theorem AlgoSdk.Faithful.injective {sdk : AlgoSdk} (h : sdk.Faithful) :
    Function.Injective sdk.encode := by
  intro a b hab
  have := h a
  rw [hab, h b] at this
  simpa using this.symm

/-- What the language's own libraries decide or print. -/
structure Platform where
  /-- The text of a failed hexadecimal decoding. -/
  hexError : String → String
  /-- `str.isalnum` on one character. -/
  isAlnum : Char → Bool
  /-- A string in an error text: Go's `%q`, Python's `!r`, `JSON.stringify`. -/
  quote : String → String
  /-- A JSON value in an error text. -/
  showJson : Json → String
  /-- Why a body did not decode. -/
  jsonError : String → String
  /-- Why the system gave no random bytes. -/
  noRandomness : String
  base64Decode : String → Except String Bytes
  /-- `v > 0` in JavaScript for a text, an array or an object `v`; `none` where
  the conversion to a number throws. -/
  coercedPositive : Json → Option Bool

/-- All that is outside the repository. -/
structure Env extends AlgoSdk, Platform

def txPrefix : Bytes := [0x54, 0x58]

/-- `encodeTxn`, `encode_transaction`, `encodeTransaction`: the canonical bytes. -/
def AlgoSdk.encodeTxn (sdk : AlgoSdk) (t : Txn) : Bytes := txPrefix ++ sdk.encode t

theorem AlgoSdk.Faithful.encodeTxn_inj {sdk : AlgoSdk} (h : sdk.Faithful) {a b : Txn} :
    sdk.encodeTxn a = sdk.encodeTxn b ↔ a = b := by
  rw [encodeTxn, encodeTxn, List.append_cancel_left_eq]
  exact h.injective.eq_iff

theorem hexEncode_encodeTxn_ne (sdk : AlgoSdk) (txn : Txn) : hexEncode (sdk.encodeTxn txn) ≠ "" := by
  rw [ne_eq, hexEncode_eq_empty]
  simp [AlgoSdk.encodeTxn, txPrefix]

/-! ### Budget dummies -/

def guardedDummyProgram : Bytes := [0x03, 0x31, 0x20, 0x32, 0x03, 0x12]

/-- The declaration of a budget dummy at `/plan` and `/sign`. -/
def guardedDummyLogicSigResources : LogicSigResourceUsage where
  programBytes := guardedDummyProgram.length
  argumentBytes := 0
  maxOpcodeCost := 1

/-- Budget dummy number `k` of the dummy account `address`. -/
def isCanonicalDummy (address : String) (k : ℕ) (t : Txn) : Prop :=
  t.type = .payment ∧ t.sender = address ∧ t.receiver = address ∧ t.amount = 0 ∧ t.fee = 0 ∧
    t.note = [UInt8.ofNat k] ∧ t.rekeyTo = none ∧ t.closeRemainderTo = none

instance (address : String) (k : ℕ) (t : Txn) : Decidable (isCanonicalDummy address k t) := by
  unfold isCanonicalDummy
  infer_instance

/-- The group ids of a decoded group are what they must be: a singleton has
none, the members of a larger group share one that is the hash of the group. -/
def GroupIdOk (sdk : AlgoSdk) (txns : List Txn) : Prop :=
  (∀ t, txns = [t] → noGroupId t.group = true) ∧
    (txns.length ≠ 1 → ∃ g, noGroupId g = false ∧ (∀ t ∈ txns, t.group = g) ∧
      sdk.groupHash (txns.map Txn.clearGroup) = .ok g)

/-! ### Signer keys -/

structure LogicSigResourceProfile where
  default : Option LogicSigResourceUsage := none
  spend : Option LogicSigResourceUsage := none
  spendingRekey : Option LogicSigResourceUsage := none
  adminRekey : Option LogicSigResourceUsage := none
  deriving DecidableEq

structure AdminOperation where
  kind : String
  authorization : String
  deriving DecidableEq

structure BoundedCosigner where
  publicKeyHex : String
  componentKeyType : String
  deriving DecidableEq

structure BoundedAuthorizationInfo where
  maxFee : ℤ
  adminOperations : List AdminOperation := []
  cosigner : Option BoundedCosigner := none
  deriving DecidableEq

/-- The inventory entry of a signer key, as far as the SDK reads it. -/
structure KeyInfo where
  address : String
  signingFlow : String := ""
  authorizationKind : String := ""
  isSpendingAccount : Option Bool := none
  cosignerComponentKeyType : String := ""
  parameters : List (String × String) := []
  logicSigResources : Option LogicSigResourceProfile := none
  boundedAuthorization : Option BoundedAuthorizationInfo := none
  deriving DecidableEq

/-- The resources a key declares for a transaction: those of spending, else
the default, or those of the rekey path when a bounded key rekeys. -/
def selectedPreparedResources (unavailable : SdkError) (key : KeyInfo) (txn : Txn) :
    Except SdkError (Option LogicSigResourceUsage) :=
  match key.logicSigResources with
  | none => .ok none
  | some profile =>
    let selected := profile.spend.or profile.default
    match key.boundedAuthorization, txn.rekeyTo with
    | some bounded, some _ =>
      let operation := bounded.adminOperations.find? (·.kind = "rekey")
      let authorization := (operation.map (·.authorization)).getD ""
      if authorization = "spending_key" then .ok profile.spendingRekey
      else if authorization = "admin_key" then .ok profile.adminRekey
      else .error unavailable
    | _, _ => .ok selected

/-- The native-PQ scheme a foreign slot declares for its key. -/
def preparedForeignPqScheme (forbidden : SdkError) (key : KeyInfo)
    (resources : Option LogicSigResourceUsage) : Except SdkError String :=
  if key.authorizationKind ≠ authorizationKindNativePq then .ok ""
  else if resources.isSome then .error forbidden
  else .ok pqSchemeFalcon1024

def guardedCosignerPublicKey (key : KeyInfo) : String :=
  (key.parameters.lookup "cosigner_public_key").getD ""

/-- The cosigner's public key of a bounded key; the metadata comes first. -/
def boundedCosignerPublicKey (key : KeyInfo) : String :=
  match key.boundedAuthorization.bind (·.cosigner) with
  | some cosigner =>
    if cosigner.publicKeyHex ≠ "" then cosigner.publicKeyHex else guardedCosignerPublicKey key
  | none => guardedCosignerPublicKey key

def boundedCosignerComponentKeyType (key : KeyInfo) : String :=
  if key.cosignerComponentKeyType ≠ "" then key.cosignerComponentKeyType
  else ((key.boundedAuthorization.bind (·.cosigner)).map (·.componentKeyType)).getD ""

/-! ### Prepared slots -/

/-- What a check of the preparation found. Of `data` the numbers are kept; it
is absent where the source has a nil map, `None` or `undefined`. -/
structure PreparedCheck where
  name : String
  status : String := ""
  data : Option (List (String × ℤ)) := none
  deriving DecidableEq

/-- One transaction slot after preparation and before planning. -/
structure PreparedTransaction where
  transaction : Option Txn
  authAddress : String := ""
  txnSender : String := ""
  signerKey : Option KeyInfo := none
  lsigArgs : Option (List (String × Bytes)) := none
  lsigResources : Option LogicSigResourceUsage := none
  pqScheme : String := ""
  appCallInfo : Option AppCallInfo := none
  signedTransactionBase64 : String := ""
  checks : List PreparedCheck := []

/-- `encodeLsigArgs`: the argument values as hexadecimal. -/
def encodeLsigArgs (args : List (String × Bytes)) : List (String × String) :=
  args.map fun p => (p.1, hexEncode p.2)

/-- An empty map counts as none. -/
def dropEmpty : Option (List (String × String)) → Option (List (String × String))
  | some [] => none
  | args => args

/-- `encodeGuardedLsigArgs` of Go and Python: an empty map is dropped. -/
def encodeGuardedLsigArgs : Option (List (String × Bytes)) → Option (List (String × String))
  | none => none
  | some [] => none
  | some args => some (encodeLsigArgs args)

/-! ### A concrete environment

One payment is encoded as the Algorand SDKs encode it; every other
transaction gets bytes that start with `0xc1`, which no msgpack value does. -/

instance countable_uint8 : Countable UInt8 :=
  Function.Injective.countable (f := UInt8.toNat) fun _ _ => UInt8.toNat_inj.mp

instance countable_char : Countable Char := Function.Injective.countable (f := Char.toNat) fun _ _ => Char.toNat_inj.mp

instance countable_string : Countable String :=
  Function.Injective.countable (f := String.toList) fun _ _ => String.toList_inj.mp

instance countable_bytes : Countable Bytes := inferInstanceAs (Countable (List UInt8))

deriving instance Countable for TxType

deriving instance Countable for Txn

namespace Demo

def payer : String := "AEAQCAIBAEAQCAIBAEAQCAIBAEAQCAIBAEAQCAIBAEAQCAIBAEA5RCDXMI"

/-- Nothing, paid to the zero address. -/
def payment : Txn where
  type := .payment
  sender := payer
  fee := 1000
  receiver := "AAAAAAAAAAAAAAAAAAAAAAAAAAAAAAAAAAAAAAAAAAAAAAAAAAAAY5HFKQ"

/-- Zero values are left out: `fee`, `snd` and `type` remain. -/
def paymentBytes : Bytes :=
  [0x83, 0xa3, 0x66, 0x65, 0x65, 0xcd, 0x03, 0xe8, 0xa3, 0x73, 0x6e, 0x64, 0xc4, 0x20] ++ List.replicate 32 1 ++
    [0xa4, 0x74, 0x79, 0x70, 0x65, 0xa3, 0x70, 0x61, 0x79]

/-- `payment` with an Ed25519 signature. -/
def signedPaymentBytes : Bytes :=
  [0x82, 0xa3, 0x73, 0x69, 0x67, 0xc4, 0x40] ++ List.replicate 64 7 ++
    [0xa3, 0x74, 0x78, 0x6e] ++ paymentBytes

noncomputable def number : Txn → ℕ := (exists_injective_nat Txn).choose

theorem number_injective : Function.Injective number := (exists_injective_nat Txn).choose_spec

noncomputable def encode (t : Txn) : Bytes :=
  if t = payment then paymentBytes else 0xc1 :: List.replicate (number t) 0

open Classical in
noncomputable def decodeTxn (b : Bytes) : Except String (Option Txn) :=
  if b = paymentBytes then .ok (some payment)
  else if h : ∃ t, encode t = b then .ok (some h.choose) else .error "msgpack decode error"

noncomputable def env : Env where
  encode := encode
  decodeTxn := decodeTxn
  decodeSigned b := if b = signedPaymentBytes then .ok (some payment) else .error "msgpack decode error"
  groupHash _ := .error "only one transaction is known"
  lsigAddress program :=
    if program = guardedDummyProgram then .ok "E6A65LPVDVC6GBVLJGASISP5CB2E7PHSG2UO4TDFMVRL4JQ7Q7FMKKKRNI"
    else .error "unknown program"
  signLogicSig _ _ := .error "no LogicSig is signed"
  hexError _ := "invalid byte"
  isAlnum := Char.isAlphanum
  quote s := "\"" ++ s ++ "\""
  showJson _ := ""
  jsonError _ := "invalid JSON"
  noRandomness := "no entropy"
  base64Decode _ := .error "invalid base64"
  coercedPositive _ := some false

theorem encode_injective : Function.Injective encode := by
  have hhead : ∀ t, paymentBytes ≠ 0xc1 :: List.replicate (number t) 0 := fun t h => by
    have := congrArg List.head? h
    simp [paymentBytes] at this
  intro a b h
  unfold encode at h
  split at h <;> split at h
  · simp_all
  · exact absurd h (hhead b)
  · exact absurd h.symm (hhead a)
  · rw [List.cons.injEq, List.replicate_inj] at h
    exact number_injective h.2.1

/-- Decoding inverts encoding in the concrete environment. -/
theorem faithful : env.Faithful := by
  intro t
  change decodeTxn (encode t) = _
  unfold decodeTxn
  split
  · rename_i h
    rw [encode_injective (h.trans (if_pos rfl).symm : encode t = encode payment)]
  · have h : ∃ t', encode t' = encode t := ⟨t, rfl⟩
    rw [dif_pos h, encode_injective h.choose_spec]

end Demo

end AplaneSdk
