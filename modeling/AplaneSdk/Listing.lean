/-
# The entries of `/keys`, as Python and TypeScript read them

Neither language checks the type of a value it takes over from an entry, and
both raise where an operation has no meaning for the value: Python's `get` on
anything but a dict, a missing `address`, a property of `null`, a `map` of
anything but an array. Of the nested data only the fee bound of a bounded
authorization is validated, and only by Python. The texts of the languages' own
exceptions are left out.

Key definitions: `ListedKey`, `CacheKey`, `Python.parseKey`,
`Python.parseBoundedAuthorization`, `TypeScript.parseKey`.
-/
import Mathlib.Data.Rat.Floor
import AplaneSdk.AlgoKit

namespace AplaneSdk

/-! ### Keys as they are listed -/

/-- Conversions of the languages that `/keys` and `/status` go through. -/
structure Conversions where
  /-- Python's `int` of a text. -/
  intText : String → Option ℤ
  /-- JavaScript's `Number`: `none` where it throws, `some none` for `NaN`, and a
  number literal by the double it becomes. -/
  number : Json → Option (Option ℚ)
  /-- JavaScript's `String`, `none` where it throws. -/
  text : Json → Option String

structure ListedArg where
  name : Option Json
  type : Json
  description : Json
  label : Option Json
  required : Option Json
  byteLength : Option Json
  maxSize : Option Json

structure ListedUsage where
  programBytes : Json
  argumentBytes : Json
  maxOpcodeCost : Json

structure ListedProfile where
  default : Option ListedUsage
  spend : Option ListedUsage
  spendingRekey : Option ListedUsage
  adminRekey : Option ListedUsage

structure ListedOperation where
  kind : Json
  authorization : Json
  policyGate : Json

structure ListedDerivedArg where
  name : Json
  kind : Json
  parameter : Json
  maxSize : Json

structure ListedArgumentSlot where
  index : Json
  name : Json
  source : Json
  maxSize : Json
  spend : Json
  spendingRekey : Json
  adminRekey : Json

structure ListedCosigner where
  contract : Json
  componentKeyType : Json
  publicKeyHex : Option Json
  componentKeyId : Option Json
  signatureMaxSize : Json
  requiredOn : Json

structure ListedBounded where
  contract : Json
  count : Json
  maxSizes : Json
  spendEffects : Json
  maxFee : Json
  adminOperations : List ListedOperation
  runtimeArgs : List ListedArg
  derivedArgs : List ListedDerivedArg
  argumentLayout : List ListedArgumentSlot
  layer3Policy : Json
  cosigner : Option ListedCosigner
  adminKeyId : Option Json
  programBinding : Option Json

/-- A `KeyInfo` as it comes out of `/keys`: nothing checks the types of the
values it takes over. -/
structure ListedKey where
  address : Option Json
  keyType : Json
  publicKeyHex : Json
  authorizationKind : Option Json
  signingFlow : Option Json
  cosignerComponentKeyType : Option Json
  logicSigResources : Option ListedProfile
  isGenericLsig : Json
  isWitnessKey : Json
  boundedAuthorization : Option ListedBounded
  isSpendingAccount : Option Json
  signingArgs : Option (List ListedArg)
  parameters : Option Json
  templateProvenanceStatus : Option Json
  templateProvenanceNote : Option Json

/-- A value as a key of a Python dict or of a JavaScript `Map`. A JavaScript
object is equal to itself alone, so it is known by the entry it came with. -/
inductive CacheKey
  | undefined
  | null
  | bool (b : Bool)
  | number (q : ℚ)
  | text (s : String)
  | object (position : ℕ)
  deriving DecidableEq

structure GeneratedKey where
  address : Json
  keyType : Json
  publicKeyHex : Option Json
  isWitnessKey : Json
  isSpendingAccount : Option Json
  parameters : Option Json

/-! ### Python -/

namespace Python

/-- `v.get(name)`. -/
def member (v : Json) (name : String) : Except SdkError (Option Json) :=
  match v with
  | .obj _ => .ok (v.get? name)
  | _ => .error languageError

/-- `v.get(name, value)`. -/
def memberOr (value : Json) (v : Json) (name : String) : Except SdkError Json := do
  let found ← member v name
  pure (found.getD value)

/-- `v[name]`. -/
def item (v : Json) (name : String) : Except SdkError Json :=
  match v.get? name with
  | some w => .ok w
  | none => .error languageError

/-- `v or value`. -/
def orElse (value : Json) (v : Option Json) : Json :=
  match v with
  | some v => if v.truthy false then v else value
  | none => value

/-- What a `for` goes over. -/
def items : Json → Except SdkError (List Json)
  | .arr xs => .ok xs
  | .str s => .ok (s.toList.map fun c => .str c.toString)
  | .obj members => .ok ((members.map Prod.fst).eraseDups.map .str)
  | _ => .error languageError

/-- `list(v or [])`. -/
def listOr (v : Option Json) : Except SdkError Json := do
  let xs ← items (orElse (.arr []) v)
  pure (.arr xs)

/-- `int(v)`. -/
def toInt (conv : Conversions) : Json → Except SdkError Json
  | .bool b => .ok (.int b.toNat)
  | .int n => .ok (.int n)
  | .float q => .ok (.int (if 0 ≤ q then q.floor else q.ceil))
  | .str s => match conv.intText s with
    | some n => .ok (.int n)
    | none => .error { kind := .value, text := "" }
  | _ => .error languageError

def parseLsigResourceUsage (conv : Conversions) (data : Option Json) : Except SdkError (Option ListedUsage) :=
  match data with
  | some (.obj members) => do
    let programBytes ← toInt conv (((Json.obj members).get? "program_bytes").getD (.int 0))
    let argumentBytes ← toInt conv (((Json.obj members).get? "argument_bytes").getD (.int 0))
    let maxOpcodeCost ← toInt conv (((Json.obj members).get? "max_opcode_cost").getD (.int 0))
    pure (some ⟨programBytes, argumentBytes, maxOpcodeCost⟩)
  | _ => .ok none

def parseLsigResourceProfile (conv : Conversions) (data : Option Json) :
    Except SdkError (Option ListedProfile) :=
  match data with
  | some (.obj members) => do
    let default ← parseLsigResourceUsage conv ((Json.obj members).get? "default")
    let spend ← parseLsigResourceUsage conv ((Json.obj members).get? "spend")
    let spendingRekey ← parseLsigResourceUsage conv ((Json.obj members).get? "spending_rekey")
    let adminRekey ← parseLsigResourceUsage conv ((Json.obj members).get? "admin_rekey")
    pure (some ⟨default, spend, spendingRekey, adminRekey⟩)
  | _ => .ok none

/-- A `RuntimeArg`, whose name is read as `name` says. -/
def parseArg (name : Json → Except SdkError Json) (arg : Json) : Except SdkError ListedArg := do
  let name ← name arg
  let type ← memberOr (.str "bytes") arg "type"
  let description ← memberOr (.str "") arg "description"
  let label ← memberOr (.str "") arg "label"
  let required ← memberOr (.bool false) arg "required"
  let byteLength ← memberOr (.int 0) arg "byte_length"
  let maxSize ← memberOr (.int 0) arg "max_size"
  pure ⟨some name, type, description, some label, some required, some byteLength, some maxSize⟩

def parseOperation (item : Json) : Except SdkError ListedOperation := do
  let kind ← memberOr (.str "") item "kind"
  let authorization ← memberOr (.str "") item "authorization"
  let policyGate ← memberOr (.str "") item "policy_gate"
  pure ⟨kind, authorization, policyGate⟩

def parseDerivedArg (item : Json) : Except SdkError ListedDerivedArg := do
  let name ← memberOr (.str "") item "name"
  let kind ← memberOr (.str "") item "kind"
  let parameter ← memberOr (.str "") item "parameter"
  let maxSize ← memberOr (.int 0) item "max_size"
  pure ⟨name, kind, parameter, maxSize⟩

def parseArgumentSlot (item : Json) : Except SdkError ListedArgumentSlot := do
  let index ← memberOr (.int 0) item "index"
  let name ← memberOr (.str "") item "name"
  let source ← memberOr (.str "") item "source"
  let maxSize ← memberOr (.int 0) item "max_size"
  let paths ← member item "paths"
  let spend ← memberOr (.str "") (orElse (.obj []) paths) "spend"
  let spendingRekey ← memberOr (.str "") (orElse (.obj []) paths) "spending_rekey"
  let adminRekey ← memberOr (.str "") (orElse (.obj []) paths) "admin_rekey"
  pure ⟨index, name, source, maxSize, spend, spendingRekey, adminRekey⟩

def parseCosigner (cosigner : Option Json) : Except SdkError (Option ListedCosigner) :=
  match cosigner with
  | some (.obj members) => do
    let v := Json.obj members
    let requiredOn ← listOr (v.get? "required_on")
    pure (some
      { contract := (v.get? "contract").getD (.str "")
        componentKeyType := (v.get? "component_key_type").getD (.str "")
        publicKeyHex := some ((v.get? "public_key_hex").getD (.str ""))
        componentKeyId := some ((v.get? "component_key_id").getD (.str ""))
        signatureMaxSize := (v.get? "signature_max_size").getD (.int 0)
        requiredOn := requiredOn })
  | _ => .ok none

/-- The required `max_fee`. -/
def parseMaxFee (data : Json) : Except SdkError Json :=
  match data.get? "max_fee" with
  | none => signerError "invalid bounded_authorization: max_fee is required"
  | some (.int n) =>
    if n < 0 then signerError "invalid bounded_authorization: max_fee must be a non-negative integer"
    else .ok (.int n)
  | some _ => signerError "invalid bounded_authorization: max_fee must be a non-negative integer"

/-- `_parse_bounded_authorization`. -/
def parseBoundedAuthorization (data : Option Json) : Except SdkError (Option ListedBounded) :=
  match data with
  | some (.obj members) => do
    let v := Json.obj members
    let maxFee ← parseMaxFee v
    let layout := orElse (.obj []) (v.get? "base_signature_arg_layout")
    let count ← memberOr (.int 0) layout "count"
    let maxSizes ← member layout "max_sizes"
    let maxSizes ← listOr maxSizes
    let spendEffects ← listOr (v.get? "spend_effects")
    let operations ← items (orElse (.arr []) (v.get? "admin_operations"))
    let operations ← operations.mapM parseOperation
    let runtimeArgs ← items (orElse (.arr []) (v.get? "runtime_args"))
    let runtimeArgs ← runtimeArgs.mapM (parseArg fun arg => memberOr (.str "") arg "name")
    let derivedArgs ← items (orElse (.arr []) (v.get? "derived_args"))
    let derivedArgs ← derivedArgs.mapM parseDerivedArg
    let argumentLayout ← items (orElse (.arr []) (v.get? "argument_layout"))
    let argumentLayout ← argumentLayout.mapM parseArgumentSlot
    let cosigner ← parseCosigner (v.get? "cosigner")
    pure (some
      { contract := (v.get? "contract").getD (.str "")
        count := count
        maxSizes := maxSizes
        spendEffects := spendEffects
        maxFee := maxFee
        adminOperations := operations
        runtimeArgs := runtimeArgs
        derivedArgs := derivedArgs
        argumentLayout := argumentLayout
        layer3Policy := (v.get? "layer3_policy").getD (.str "")
        cosigner := cosigner
        adminKeyId := some ((v.get? "admin_key_id").getD (.str ""))
        programBinding := some ((v.get? "program_binding").getD (.str "")) })
  | _ => .ok none

/-- The `signing_args` of an entry, where there are any. -/
def parseSigningArgs (k : Json) : Except SdkError (Option (List ListedArg)) := do
  let raw ← member k "signing_args"
  match raw with
  | none => pure none
  | some raw =>
    if raw.truthy false then do
      let xs ← items raw
      let args ← xs.mapM (parseArg fun arg => item arg "name")
      pure (some args)
    else pure none

/-- One entry of `/keys`. -/
def parseKey (conv : Conversions) (k : Json) : Except SdkError ListedKey := do
  let signingArgs ← parseSigningArgs k
  let address ← item k "address"
  let keyType ← item k "key_type"
  let resources ← parseLsigResourceProfile conv (k.get? "logic_sig_resources")
  let bounded ← parseBoundedAuthorization (k.get? "bounded_authorization")
  pure
    { address := some address
      keyType := keyType
      publicKeyHex := (k.get? "public_key_hex").getD (.str "")
      authorizationKind := some ((k.get? "authorization_kind").getD (.str ""))
      signingFlow := some ((k.get? "signing_flow").getD (.str ""))
      cosignerComponentKeyType := some ((k.get? "cosigner_component_key_type").getD (.str ""))
      logicSigResources := resources
      isGenericLsig := (k.get? "is_generic_lsig").getD (.bool false)
      isWitnessKey := (k.get? "is_witness_key").getD (.bool false)
      boundedAuthorization := bounded
      isSpendingAccount := k.get? "is_spending_account"
      signingArgs := signingArgs
      parameters := k.get? "parameters"
      templateProvenanceStatus := some ((k.get? "template_provenance_status").getD (.str ""))
      templateProvenanceNote := some ((k.get? "template_provenance_note").getD (.str "")) }

/-- The key of a dict; equal numbers are one key, `True` is 1, and a list or a
dict is none. -/
def cacheKey (_position : ℕ) : Option Json → Except SdkError CacheKey
  | none => .ok .null
  | some .null => .ok .null
  | some (.bool b) => .ok (.number b.toNat)
  | some (.int n) => .ok (.number n)
  | some (.float q) => .ok (.number q)
  | some (.str s) => .ok (.text s)
  | some _ => .error languageError

/-- `data.get("keys", [])`. -/
def entries (data : Json) : Except SdkError (List Json) := do
  let keys ← memberOr (.arr []) data "keys"
  items keys

mutual

/-- `a == b`. -/
def equal : Json → Json → Bool
  | .null, .null => true
  | .bool a, b => number b == some (a.toNat : ℚ)
  | .int n, b => number b == some (n : ℚ)
  | .float q, b => number b == some q
  | .str s, .str s' => s == s'
  | .arr xs, .arr ys => equalItems xs ys
  | .obj members, .obj members' =>
    (members'.all fun m => members.any fun m' => m'.1 == m.1) && equalMembers members (.obj members')
  | _, _ => false
where
  number : Json → Option ℚ
    | .bool b => some b.toNat
    | .int n => some n
    | .float q => some q
    | _ => none

def equalItems : List Json → List Json → Bool
  | [], [] => true
  | x :: xs, y :: ys => equal x y && equalItems xs ys
  | _, _ => false

/-- Every member, the last of equal names, is in the other dict. -/
def equalMembers : List (String × Json) → Json → Bool
  | [], _ => true
  | (name, v) :: rest, other =>
    (rest.any (·.1 == name) || match other.get? name with
      | some w => equal v w
      | none => false) && equalMembers rest other

end

/-- `get_status`, as far as the key cache reads it: whether the signer is
locked, and the revision. The approval wait must compare with a number. -/
def readStatus (data : Json) : Except SdkError (Bool × Json) := do
  let locked ← memberOr (.bool false) data "signer_locked"
  let revision ← memberOr (.int 0) data "keyset_revision"
  let wait ← member data "approval_wait_seconds"
  let _ ← positive wait
  pure (locked.truthy false, revision)

/-- What `generate_key` checks before it empties the cache. -/
def checkGenerated (env : Env) (data : Json) : Except SdkError Unit := do
  let _ ← member data "error"
  checkSome (fun text => signerError text) (bodyError env false data)

def readGenerated (data : Json) : Except SdkError GeneratedKey := do
  failIf (((data.get? "address").any (·.truthy false)) = false)
    { text := "Key generation response missing address" }
  failIf (((data.get? "key_type").any (·.truthy false)) = false)
    { text := "Key generation response missing key_type" }
  pure
    { address := (data.get? "address").getD .null
      keyType := (data.get? "key_type").getD .null
      publicKeyHex := some ((data.get? "public_key_hex").getD (.str ""))
      isWitnessKey := (data.get? "is_witness_key").getD (.bool false)
      isSpendingAccount := data.get? "is_spending_account"
      parameters := data.get? "parameters" }

end Python

/-! ### TypeScript -/

namespace TypeScript

/-- `v.name`. -/
def property (v : Option Json) (name : String) : Except SdkError (Option Json) :=
  match v with
  | none => .error languageError
  | some .null => .error languageError
  | some v => .ok (v.get? name)

/-- `v.name || value`. -/
def propertyOr (value : Json) (v : Option Json) (name : String) : Except SdkError Json := do
  let found ← property v name
  pure (match found with
    | some w => if w.truthy true then w else value
    | none => value)

/-- `v?.name || value`. -/
def chainOr (value : Json) (v : Option Json) (name : String) : Json :=
  match v.bind (·.get? name) with
  | some w => if w.truthy true then w else value
  | none => value

/-- The elements `map` goes over; only an array has it. -/
def elements : Json → Except SdkError (List Json)
  | .arr xs => .ok xs
  | _ => .error languageError

def mapLogicSigResourceUsage (raw : Option Json) : Option ListedUsage :=
  (raw.filter (·.truthy true)).map fun raw =>
    { programBytes := chainOr (.int 0) (some raw) "program_bytes"
      argumentBytes := chainOr (.int 0) (some raw) "argument_bytes"
      maxOpcodeCost := chainOr (.int 0) (some raw) "max_opcode_cost" }

def mapLogicSigResourceProfile (raw : Option Json) : Option ListedProfile :=
  (raw.filter (·.truthy true)).map fun raw =>
    { default := mapLogicSigResourceUsage (raw.get? "default")
      spend := mapLogicSigResourceUsage (raw.get? "spend")
      spendingRekey := mapLogicSigResourceUsage (raw.get? "spending_rekey")
      adminRekey := mapLogicSigResourceUsage (raw.get? "admin_rekey") }

/-- The part `mapRuntimeArg` and the `signing_args` of an entry share. -/
def mapArg (name : Option Json) (raw : Json) : Except SdkError ListedArg := do
  let type ← propertyOr (.str "bytes") (some raw) "type"
  let description ← propertyOr (.str "") (some raw) "description"
  let label ← property (some raw) "label"
  let required ← property (some raw) "required"
  let byteLength ← property (some raw) "byte_length"
  let maxSize ← property (some raw) "max_size"
  pure ⟨name, type, description, label, required, byteLength, maxSize⟩

def mapRuntimeArg (raw : Json) : Except SdkError ListedArg := do
  let name ← propertyOr (.str "") (some raw) "name"
  mapArg (some name) raw

def mapSigningArg (raw : Json) : Except SdkError ListedArg := do
  let name ← property (some raw) "name"
  mapArg name raw

def mapOperation (raw : Json) : Except SdkError ListedOperation := do
  let kind ← propertyOr (.str "") (some raw) "kind"
  let authorization ← propertyOr (.str "") (some raw) "authorization"
  let policyGate ← propertyOr (.str "") (some raw) "policy_gate"
  pure ⟨kind, authorization, policyGate⟩

def mapDerivedArg (raw : Json) : Except SdkError ListedDerivedArg := do
  let name ← propertyOr (.str "") (some raw) "name"
  let kind ← propertyOr (.str "") (some raw) "kind"
  let parameter ← propertyOr (.str "") (some raw) "parameter"
  let maxSize ← propertyOr (.int 0) (some raw) "max_size"
  pure ⟨name, kind, parameter, maxSize⟩

def mapArgumentSlot (raw : Json) : Except SdkError ListedArgumentSlot := do
  let index ← propertyOr (.int 0) (some raw) "index"
  let name ← propertyOr (.str "") (some raw) "name"
  let source ← propertyOr (.str "") (some raw) "source"
  let maxSize ← propertyOr (.int 0) (some raw) "max_size"
  let paths ← property (some raw) "paths"
  pure
    { index := index
      name := name
      source := source
      maxSize := maxSize
      spend := chainOr (.str "") paths "spend"
      spendingRekey := chainOr (.str "") paths "spending_rekey"
      adminRekey := chainOr (.str "") paths "admin_rekey" }

def mapCosigner (raw : Json) : ListedCosigner where
  contract := chainOr (.str "") (some raw) "contract"
  componentKeyType := chainOr (.str "") (some raw) "component_key_type"
  publicKeyHex := (raw.get? "public_key_hex").filter (·.truthy true)
  componentKeyId := (raw.get? "component_key_id").filter (·.truthy true)
  signatureMaxSize := chainOr (.int 0) (some raw) "signature_max_size"
  requiredOn := chainOr (.arr []) (some raw) "required_on"

def mapBoundedAuthorization (raw : Option Json) : Except SdkError (Option ListedBounded) :=
  match raw.filter (·.truthy true) with
  | none => .ok none
  | some raw => do
    let operations ← elements (chainOr (.arr []) (some raw) "admin_operations")
    let operations ← operations.mapM mapOperation
    let runtimeArgs ← elements (chainOr (.arr []) (some raw) "runtime_args")
    let runtimeArgs ← runtimeArgs.mapM mapRuntimeArg
    let derivedArgs ← elements (chainOr (.arr []) (some raw) "derived_args")
    let derivedArgs ← derivedArgs.mapM mapDerivedArg
    let argumentLayout ← elements (chainOr (.arr []) (some raw) "argument_layout")
    let argumentLayout ← argumentLayout.mapM mapArgumentSlot
    pure (some
      { contract := chainOr (.str "") (some raw) "contract"
        count := chainOr (.int 0) (raw.get? "base_signature_arg_layout") "count"
        maxSizes := chainOr (.arr []) (raw.get? "base_signature_arg_layout") "max_sizes"
        spendEffects := chainOr (.arr []) (some raw) "spend_effects"
        maxFee := chainOr (.int 0) (some raw) "max_fee"
        adminOperations := operations
        runtimeArgs := runtimeArgs
        derivedArgs := derivedArgs
        argumentLayout := argumentLayout
        layer3Policy := chainOr (.str "") (some raw) "layer3_policy"
        cosigner := ((raw.get? "cosigner").filter (·.truthy true)).map mapCosigner
        adminKeyId := (raw.get? "admin_key_id").filter (·.truthy true)
        programBinding := (raw.get? "program_binding").filter (·.truthy true) })

def mapSigningArgs (raw : Option Json) : Except SdkError (Option (List ListedArg)) :=
  match raw.filter (·.truthy true) with
  | none => .ok none
  | some raw => do
    let xs ← elements raw
    let args ← xs.mapM mapSigningArg
    pure (some args)

/-- One entry of `/keys`. -/
def parseKey (k : Json) : Except SdkError ListedKey := do
  let rawArgs ← property (some k) "signing_args"
  let signingArgs ← mapSigningArgs rawArgs
  let bounded ← mapBoundedAuthorization (k.get? "bounded_authorization")
  pure
    { address := k.get? "address"
      keyType := chainOr (.str "") (some k) "key_type"
      publicKeyHex := chainOr (.str "") (some k) "public_key_hex"
      authorizationKind := (k.get? "authorization_kind").filter (·.truthy true)
      signingFlow := (k.get? "signing_flow").filter (·.truthy true)
      cosignerComponentKeyType := (k.get? "cosigner_component_key_type").filter (·.truthy true)
      logicSigResources := mapLogicSigResourceProfile (k.get? "logic_sig_resources")
      isGenericLsig := chainOr (.bool false) (some k) "is_generic_lsig"
      isWitnessKey := chainOr (.bool false) (some k) "is_witness_key"
      boundedAuthorization := bounded
      isSpendingAccount := (k.get? "is_spending_account").filter Json.isBool
      signingArgs := signingArgs
      parameters := k.get? "parameters"
      templateProvenanceStatus := (k.get? "template_provenance_status").filter (·.truthy true)
      templateProvenanceNote := (k.get? "template_provenance_note").filter (·.truthy true) }

/-- `Number(v || 0)`. -/
def numberOf (conv : Conversions) (v : Option Json) : Except SdkError (Option ℚ) :=
  match v.filter (·.truthy true) with
  | none => .ok (some 0)
  | some v => match conv.number v with
    | some q => .ok q
    | none => .error languageError

/-- `String(v || "")`. -/
def stringOf (conv : Conversions) (v : Option Json) : Except SdkError Json :=
  match v.filter (·.truthy true) with
  | none => .ok (.str "")
  | some v => match conv.text v with
    | some s => .ok (.str s)
    | none => .error languageError

/-- The key of a `Map`. -/
def cacheKey (conv : Conversions) (position : ℕ) : Option Json → Except SdkError CacheKey
  | none => .ok .undefined
  | some .null => .ok .null
  | some (.bool b) => .ok (.bool b)
  | some (.int n) => .ok (.number (((conv.number (.int n)).join).getD n))
  | some (.float q) => .ok (.number q)
  | some (.str s) => .ok (.text s)
  | some (.arr _) => .ok (.object position)
  | some (.obj _) => .ok (.object position)

/-- What `for (const k of data.keys || [])` goes over. The `keys` of an array is
a function, which is no list. -/
def entries (data : Json) : Except SdkError (List Json) :=
  match data with
  | .null => .error languageError
  | .arr _ => .error languageError
  | data => match chainOr (.arr []) (some data) "keys" with
    | .arr xs => .ok xs
    | .str s => .ok (s.toList.map fun c => .str c.toString)
    | _ => .error languageError

/-- `getStatus`, as far as the key cache reads it, with the conversions that can
throw. -/
def readStatus (conv : Conversions) (data : Json) : Except SdkError (Bool × Option ℚ) := do
  let version ← property (some data) "protocol_version"
  let _ ← numberOf conv (version.bind (·.get? "major"))
  let _ ← numberOf conv (version.bind (·.get? "minor"))
  let _ ← stringOf conv (data.get? "state")
  let _ ← numberOf conv (data.get? "key_count")
  let revision ← numberOf conv (data.get? "keyset_revision")
  pure ((data.get? "signer_locked").any (·.truthy true), revision)

/-- What `generateKey` checks before it empties the cache. -/
def checkGenerated (env : Env) (data : Json) : Except SdkError Unit := do
  let _ ← property (some data) "error"
  checkSome (fun text => signerError text) (bodyError env true data)

def readGenerated (conv : Conversions) (data : Json) : Except SdkError GeneratedKey := do
  let address ← stringOf conv (data.get? "address")
  let keyType ← stringOf conv (data.get? "key_type")
  pure
    { address := address
      keyType := keyType
      publicKeyHex := (data.get? "public_key_hex").filter fun
        | .str _ => true
        | _ => false
      isWitnessKey := .bool ((data.get? "is_witness_key").any (·.truthy true))
      isSpendingAccount := (data.get? "is_spending_account").filter Json.isBool
      parameters := data.get? "parameters" }

end TypeScript

end AplaneSdk
