/-
# The signer's wire types and the errors of the SDKs

The requests and responses of `/plan`, `/sign`, `/sign/component` and
`/sign/assemble`, as the three SDKs write and read them. An absent string or
list is empty; an object that may be absent, or present and empty, is an
`Option`. A body that does not decode to its type is `body := none`: the
model does not follow what Python and TypeScript do with a value of another
JSON type, except in the mutation report, which they check value by value.

Key definitions: `Json`, `SdkError`, `Reply`, `SignRequest`,
`ComponentRequest`, `ComponentResponse`, `AssemblyRequest`,
`AssemblyResponse`, `PlanGroupResponse`.
-/
import Mathlib.Algebra.Ring.Int.Defs
import Mathlib.Algebra.Ring.Nat
import Mathlib.Data.Rat.Defs

namespace AplaneSdk

abbrev Bytes := List UInt8

/-! ### JSON values -/

/-- A JSON value. `int` is a literal without fraction or exponent; `float` is
any other number literal, by the value of the double it denotes. -/
inductive Json
  | null
  | bool (b : Bool)
  | int (n : ℤ)
  | float (q : ℚ)
  | str (s : String)
  | arr (xs : List Json)
  | obj (members : List (String × Json))

namespace Json

/-- The member `name` of an object; the last of equal names counts. -/
def get? : Json → String → Option Json
  | obj members, name => members.reverse.lookup name
  | _, _ => none

/-- Truth of a value where Python or JavaScript tests it: Python's empty list
and empty dict are false, JavaScript's are true. -/
def truthy (emptyIsTrue : Bool) : Json → Bool
  | null => false
  | bool b => b
  | int n => n != 0
  | float q => q != 0
  | str s => s != ""
  | arr xs => emptyIsTrue || !xs.isEmpty
  | obj members => emptyIsTrue || !members.isEmpty

def isBool : Json → Bool
  | bool _ => true
  | _ => false

def isArr : Json → Bool
  | arr _ => true
  | _ => false

/-- `Number.isInteger` and Python's `float.is_integer` on a number. -/
def integer? : Json → Option ℤ
  | int n => some n
  | float q => if q.den = 1 then some q.num else none
  | _ => none

end Json

/-! ### Errors -/

/-- The class of an error: the exported exception class or Go sentinel. -/
inductive ErrKind
  /-- `SignerError`, or a Go error that matches no sentinel. -/
  | signer
  /-- Python's `ValueError`. -/
  | value
  /-- A `TypeError`, `AttributeError`, `KeyError` or `RuntimeError` of the language. -/
  | type
  | authentication
  | signingRejected
  | signerUnavailable
  | signerLocked
  | keyNotFound
  deriving DecidableEq

/-- An error of the SDK; `code` is the stable wire code it carries. -/
structure SdkError where
  kind : ErrKind := .signer
  text : String
  code : String := ""
  deriving DecidableEq

/-- `fmt.Errorf("…: %w", err)`: more text in front, the same class. -/
def SdkError.wrap (label : String) (e : SdkError) : SdkError := { e with text := label ++ e.text }

def signerError {α : Type} (text : String) : Except SdkError α := .error { text := text }

/-- Fail with `e` when `bad` holds. -/
def failIf (bad : Prop) [Decidable bad] (e : SdkError) : Except SdkError Unit :=
  if bad then .error e else .ok ()

@[simp] theorem failIf_ok {bad : Prop} [Decidable bad] {e : SdkError} {u : Unit} :
    failIf bad e = .ok u ↔ ¬ bad := by
  unfold failIf
  split <;> simp_all

/-- Check a value that may be absent. -/
def checkSome {α : Type} (check : α → Except SdkError Unit) : Option α → Except SdkError Unit
  | none => .ok ()
  | some a => check a

@[simp] theorem checkSome_ok {α : Type} {check : α → Except SdkError Unit} {o : Option α} {u : Unit} :
    checkSome check o = .ok u ↔ ∀ a, o = some a → check a = .ok () := by
  cases o <;> simp [checkSome]

/-- Rewrite the error of a check. -/
def mapErr {α : Type} (f : SdkError → SdkError) : Except SdkError α → Except SdkError α
  | .ok a => .ok a
  | .error e => .error (f e)

@[simp] theorem mapErr_ok {α : Type} {f : SdkError → SdkError} {x : Except SdkError α} {a : α} :
    mapErr f x = .ok a ↔ x = .ok a := by
  cases x <;> simp [mapErr]

/-- A check followed by the rest succeeds when both do. -/
@[simp] theorem bind_eq_ok {ε α β : Type} {x : Except ε α} {f : α → Except ε β} {b : β} :
    (x >>= f) = .ok b ↔ ∃ a, x = .ok a ∧ f a = .ok b := by
  cases x with
  | error e => simp [bind, Except.bind]
  | ok a => simp [bind, Except.bind]

/-- The same for a check, which returns nothing. -/
theorem seq_eq_ok {ε β : Type} {x : Except ε Unit} {f : Unit → Except ε β} {b : β} :
    (x >>= f) = .ok b ↔ x = .ok () ∧ f () = .ok b := by
  rw [bind_eq_ok]
  exact ⟨fun ⟨_, h⟩ => h, fun h => ⟨(), h⟩⟩

@[simp] theorem pure_eq_ok {ε α : Type} {a b : α} :
    (pure a : Except ε α) = .ok b ↔ a = b := by
  simp [pure, Except.pure]

/-! ### HTTP replies -/

/-- The error envelope of a non-2xx body. -/
structure ErrorResponse where
  error : String
  code : String
  deriving DecidableEq

/-- What came back for a request: nothing, or a status with its standard
text, the body's text without surrounding blanks, the error envelope when the
body is one, and the body as the type expected of a success. -/
inductive Reply (α : Type)
  | unreachable (why : String)
  | http (status : ℕ) (statusText text : String) (envelope : Option ErrorResponse) (body : Option α)

/-! ### `/sign` and `/plan` -/

structure LogicSigResourceUsage where
  programBytes : ℕ
  argumentBytes : ℕ
  maxOpcodeCost : ℕ
  deriving DecidableEq

/-- App-call metadata for approval rendering. -/
structure AppCallInfo where
  mode : Option String
  method : Option String
  deriving DecidableEq

/-- One transaction slot of `/sign` and `/plan`. -/
structure SignRequest where
  authAddress : String := ""
  txnSender : String := ""
  txnBytesHex : String := ""
  lsigArgs : Option (List (String × String)) := none
  appCallInfo : Option AppCallInfo := none
  signedTxnHex : String := ""
  lsigResources : Option LogicSigResourceUsage := none
  pqScheme : String := ""
  deriving DecidableEq

structure GroupSignRequest where
  requestId : String := ""
  requests : List SignRequest
  deriving DecidableEq

/-- The body of a `/sign` answer; the mutation report stays JSON. -/
structure GroupSignResponse where
  signed : List String := []
  mutations : Option Json := none
  error : String := ""

/-- The body of a `/plan` answer. -/
structure PlanGroupResponse where
  transactions : List String := []
  mutations : Option Json := none
  error : String := ""

/-! ### `/sign/component` -/

inductive ComponentTargetKind
  | user
  | cosigner
  | boundedBase
  | other (name : String)
  deriving DecidableEq

structure ComponentTarget where
  targetIndex : ℤ
  kind : ComponentTargetKind
  authAddress : String := ""
  componentKey : String := ""
  lsigArgs : Option (List (String × String)) := none
  appCallInfo : Option AppCallInfo := none
  deriving DecidableEq

structure ComponentContextPosition where
  targetIndex : ℤ
  lsigResources : Option LogicSigResourceUsage := none
  pqScheme : String := ""
  appCallInfo : Option AppCallInfo := none
  deriving DecidableEq

structure ComponentDummyPosition where
  targetIndex : ℤ
  deriving DecidableEq

structure ComponentRequest where
  requestId : String := ""
  groupBytesHex : List String
  targets : List ComponentTarget
  contextualPositions : List ComponentContextPosition := []
  dummyPositions : List ComponentDummyPosition := []
  deriving DecidableEq

structure Component where
  targetIndex : ℤ
  kind : ComponentTargetKind
  signature : String := ""
  signatureScheme : String := ""
  authAddress : String := ""
  baseSignatures : List String := []
  runtimeArgs : Option (List (String × String)) := none
  assemblyReceipt : String := ""
  deriving DecidableEq

/-- The body of a `/sign/component` answer. Go's type has no `error` field. -/
structure ComponentResponse where
  requestId : String
  components : List Component
  error : String := ""
  deriving DecidableEq

/-! ### `/sign/assemble` -/

inductive AssemblyTargetKind
  | guarded
  | boundedCosigner
  | other (name : String)
  deriving DecidableEq

structure AssemblyTarget where
  targetIndex : ℤ
  kind : AssemblyTargetKind
  authAddress : String
  userSignature : String := ""
  userSourceRequestId : String := ""
  baseSignatures : List String := []
  boundedRuntimeArgs : Option (List (String × String)) := none
  assemblyReceipt : String := ""
  baseSourceRequestId : String := ""
  cosignerSignature : String
  cosignerSourceRequestId : String
  guardedRuntimeArgs : List String := []
  deriving DecidableEq

/-- How a passthrough slot was authorized; planning only, never sent. -/
structure GuardedPassthroughAuthorization where
  logicSigResources : Option LogicSigResourceUsage := none
  pqScheme : String := ""
  deriving DecidableEq

structure AssemblyPassthroughItem where
  targetIndex : ℤ
  signedTxnHex : String
  authorization : Option GuardedPassthroughAuthorization := none
  deriving DecidableEq

structure AssemblyRequest where
  requestId : String := ""
  groupBytesHex : List String
  targets : List AssemblyTarget
  passthrough : List AssemblyPassthroughItem
  deriving DecidableEq

/-- The body of a `/sign/assemble` answer. Go's type has no `error` field. -/
structure AssemblyResponse where
  requestId : String
  signedGroup : List String
  error : String := ""
  deriving DecidableEq

/-! ### Constants -/

def maxSignRequestIdLength : ℕ := 128
def maxComponentGroupSize : ℕ := 16
def maxTxGroupSize : ℕ := 16
def pqSchemeFalcon1024 : String := "f1"
def signingFlowCosigner1 : String := "cosigner1"
def signingFlowBounded1 : String := "bounded1"
def signingFlowBoundedCosigner1 : String := "bounded-cosigner1"
def signingFlowRotating1 : String := "rotating1"
def authorizationKindNativePq : String := "native_pq"
def errCodeForbidden : String := "forbidden"
def errCodeLocked : String := "locked"
def errCodeNotFound : String := "not_found"

end AplaneSdk
