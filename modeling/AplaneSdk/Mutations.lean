/-
# How each SDK reads the mutation report of a plan

Go decodes the report into a struct: member names match without regard to
case, `null` leaves a field as it is, and a number must be an integer literal
of 64 bits. Python looks members up in a mapping when it needs them.
TypeScript's `normalizeMutationReport` takes the snake_case member, or the
camelCase one when that is missing or `null`.

Key definitions: `Go.MutationReport`, `Go.decodeMutations`,
`Python.boundedMutationInt`, `TypeScript.normalizeMutationReport`,
`TypeScript.boundedMutationInteger`.
-/
import AplaneSdk.Txn

namespace AplaneSdk

namespace Go

/-- `MutationReport` of the Go SDK. -/
structure MutationReport where
  dummiesAdded : ℤ := 0
  groupIdChanged : Bool := false
  feesModified : List ℤ := []
  totalFeesDelta : ℤ := 0
  originalCount : ℤ := 0
  finalCount : ℤ := 0
  passthroughCount : ℤ := 0
  foreignCount : ℤ := 0
  reason : String := ""
  deriving DecidableEq

/-- The simple case folding of `encoding/json` on member names. -/
def foldName (s : String) : String :=
  s.map fun c => if c.toNat = 0x17F then 's' else if c.toNat = 0x212A then 'k' else c.toLower

/-- A JSON value stored in an `int` field that holds `old`. -/
def decodeInt (old : ℤ) : Json → Option ℤ
  | .null => some old
  | .int n => if -2 ^ 63 ≤ n ∧ n < 2 ^ 63 then some n else none
  | _ => none

def decodeBool (old : Bool) : Json → Option Bool
  | .null => some old
  | .bool b => some b
  | _ => none

def decodeString (old : String) : Json → Option String
  | .null => some old
  | .str s => some s
  | _ => none

def decodeInts : Json → Option (List ℤ)
  | .null => some []
  | .arr xs => xs.mapM (decodeInt 0)
  | _ => none

/-- One member of the report; unknown members are ignored. -/
def decodeMember (r : MutationReport) (name : String) (v : Json) : Option MutationReport :=
  let field := foldName name
  if field = "dummies_added" then (decodeInt r.dummiesAdded v).map ({ r with dummiesAdded := · })
  else if field = "group_id_changed" then
    (decodeBool r.groupIdChanged v).map ({ r with groupIdChanged := · })
  else if field = "fees_modified" then (decodeInts v).map ({ r with feesModified := · })
  else if field = "total_fees_delta" then
    (decodeInt r.totalFeesDelta v).map ({ r with totalFeesDelta := · })
  else if field = "original_count" then
    (decodeInt r.originalCount v).map ({ r with originalCount := · })
  else if field = "final_count" then (decodeInt r.finalCount v).map ({ r with finalCount := · })
  else if field = "passthrough_count" then
    (decodeInt r.passthroughCount v).map ({ r with passthroughCount := · })
  else if field = "foreign_count" then
    (decodeInt r.foreignCount v).map ({ r with foreignCount := · })
  else if field = "reason" then (decodeString r.reason v).map ({ r with reason := · })
  else some r

/-- The `mutations` member into a `*MutationReport`: `none` when it does not
decode, `some none` for a nil pointer. -/
def decodeMutations : Option Json → Option (Option MutationReport)
  | none => some none
  | some .null => some none
  | some (.obj members) => (members.foldlM (fun r m => decodeMember r m.1 m.2) {}).map some
  | some _ => none

end Go

namespace Python

/-- `mutations`, absent or `null` being `None`. -/
def mutations : Option Json → Option Json
  | some .null => none
  | m => m

/-- `_bounded_mutation_int`. -/
def boundedMutationInt (report : Json) (name : String) : Except SdkError ℤ :=
  match (report.get? name).getD (.int 0) with
  | .int n => if n < 0 then
      signerError s!"bounded mutation {name} must be a non-negative integer" else .ok n
  | _ => signerError s!"bounded mutation {name} must be a non-negative integer"

end Python

namespace TypeScript

/-- `a ?? b`. -/
def coalesce (a b : Option Json) : Option Json :=
  match a with
  | none => b
  | some .null => b
  | some v => some v

/-- The normalized report; `none` is `undefined`. -/
structure MutationReport where
  dummiesAdded : Option Json
  groupIdChanged : Option Json
  feesModified : Option Json
  totalFeesDelta : Option Json
  originalCount : Option Json
  finalCount : Option Json

def normalizeMutationReport (raw : Json) : MutationReport where
  dummiesAdded := coalesce (raw.get? "dummies_added") (raw.get? "dummiesAdded")
  groupIdChanged := coalesce (raw.get? "group_id_changed") (raw.get? "groupIdChanged")
  feesModified := coalesce (raw.get? "fees_modified") (raw.get? "feesModified")
  totalFeesDelta := coalesce (raw.get? "total_fees_delta") (raw.get? "totalFeesDelta")
  originalCount := coalesce (raw.get? "original_count") (raw.get? "originalCount")
  finalCount := coalesce (raw.get? "final_count") (raw.get? "finalCount")

/-- `planRequests` normalizes a truthy report and leaves a falsy one, which
counts as none. -/
def planMutations : Option Json → Option MutationReport
  | none => none
  | some m => if m.truthy true then some (normalizeMutationReport m) else none

def maxSafeInteger : ℤ := 2 ^ 53 - 1

/-- `boundedMutationInteger`; `name` is the property name. -/
def boundedMutationInteger (name : String) (value : Option Json) : Except SdkError ℤ :=
  match ((coalesce value none).getD (.int 0)).integer? with
  | some n => if n < 0 ∨ maxSafeInteger < n then
      signerError s!"bounded mutation {name} must be a non-negative safe integer" else .ok n
  | none => signerError s!"bounded mutation {name} must be a non-negative safe integer"

end TypeScript

end AplaneSdk
