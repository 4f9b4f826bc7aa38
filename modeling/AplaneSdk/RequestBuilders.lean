/-
# Building the entries of a group

The builders behind `/plan` and `/sign` make an entry of every transaction,
with passthrough transactions and LogicSig resources from two maps keyed by
index. An entry of a map that no turn of the loop looks up is lost without an
error, so the keys have to be checked beforehand. Go checks one of the two
maps, Python lets keys through that are no integers and, before its latest
releases, texts with pads over, and TypeScript checks both maps but reads a
passthrough text however malformed it is.

Key definitions: `BuilderInput`, `Go.buildSignRequestsWithOptions`,
`Python.buildSignRequestBody`, `TypeScript.buildSignRequestBody`,
`BuiltEntry`, `Reading.Builds`, `Reading.Admits`, `DropsNothing`.
Key theorems: `Go.builds_iff`, `Python.builds_iff`, `TypeScript.builds_iff`,
`Reading.dropsNothing_iff`, `builders_dropNothing_iff`.
-/
import Mathlib.Algebra.Order.Ring.Unbundled.Rat
import AplaneSdk.AlgoKit
import AplaneSdk.Merge
import AplaneSdk.SlotRequests

namespace AplaneSdk

open Checks

/-! ### Maps -/

/-- A map by its entries. -/
structure IndexedMap (κ α : Type) where
  entries : List (κ × α)
  nodup : (entries.map Prod.fst).Nodup

namespace IndexedMap

variable {κ α : Type}

def empty : IndexedMap κ α := ⟨[], List.nodup_nil⟩

def singleton (key : κ) (value : α) : IndexedMap κ α := ⟨[(key, value)], List.nodup_singleton key⟩

variable [DecidableEq κ]

def get? (m : IndexedMap κ α) (key : κ) : Option α := m.entries.lookup key

theorem lookup_of_mem {key : κ} {value : α} : ∀ {entries : List (κ × α)}, (entries.map Prod.fst).Nodup →
    (key, value) ∈ entries → entries.lookup key = some value
  | (k, v) :: rest, hnodup, h => by
    rw [List.map_cons, List.nodup_cons] at hnodup
    rcases List.mem_cons.mp h with heq | hrest
    · cases heq
      rw [List.lookup_cons_self]
    · have hmem : key ∈ rest.map Prod.fst := List.mem_map.mpr ⟨(key, value), hrest, rfl⟩
      have hne : key ≠ k := by
        rintro rfl
        exact hnodup.1 hmem
      rw [List.lookup_cons, beq_false_of_ne hne]
      exact lookup_of_mem hnodup.2 hrest

theorem get?_eq_some {m : IndexedMap κ α} {key : κ} {value : α} :
    m.get? key = some value ↔ (key, value) ∈ m.entries := by
  constructor
  · intro h
    obtain ⟨l₁, l₂, heq, -⟩ := List.lookup_eq_some_iff.mp h
    rw [heq]
    exact List.mem_append_right _ List.mem_cons_self
  · exact lookup_of_mem m.nodup

end IndexedMap

/-- What a builder is given, for slots of type `σ` and keys of type `κ`. An
address that is missing is empty. -/
structure BuilderInput (σ κ : Type) where
  txns : List σ
  authAddresses : List String
  lsigArgs : IndexedMap String (List (String × Bytes)) := .empty
  passthrough : IndexedMap κ String := .empty
  lsigResources : IndexedMap κ LogicSigResourceUsage := .empty

def BuilderInput.authAddress {σ κ : Type} (input : BuilderInput σ κ) (i : ℕ) : String :=
  input.authAddresses.getD i ""

/-- The entry that the signer signs. -/
def signModeEntry (env : Env) (lsigArgs : IndexedMap String (List (String × Bytes))) (txn : Txn)
    (authAddress : String) : SignRequest :=
  { authAddress := authAddress
    txnSender := txn.sender
    txnBytesHex := hexEncode (env.encodeTxn txn)
    lsigArgs := (lsigArgs.get? authAddress).map encodeLsigArgs }

/-! ### Go -/

namespace Go

/-- One turn of the loop of `buildSignRequestsWithOptions`. -/
def buildEntry (env : Env) (why : String → String) (input : BuilderInput Txn ℤ) (i : ℕ) (txn : Txn) :
    Except SdkError SignRequest :=
  let resources := input.lsigResources.get? i
  match input.passthrough.get? i with
  | some b64 => match stdDecodeString b64 with
    | none => .error (err s!"invalid passthrough transaction {i + 1}: invalid base64: {why b64}")
    | some decoded => do
      let req : SignRequest := { signedTxnHex := hexEncode decoded, lsigResources := resources }
      let _ ← mapErr (SdkError.wrap s!"invalid passthrough transaction {i + 1}: ") (validateSignRequest env req)
      pure req
  | none =>
    if input.authAddress i = "" then
      .ok { txnBytesHex := hexEncode (env.encodeTxn txn), lsigResources := resources }
    else do
      failIf (resources.isSome = true)
        (err s!"lsig_resources[{i}] is allowed only for foreign or passthrough transactions")
      pure (signModeEntry env input.lsigArgs txn (input.authAddress i))

def validateIndexedLogicSigResources (resources : IndexedMap ℤ LogicSigResourceUsage) (txnCount : ℕ) :
    Except SdkError Unit :=
  forEach (fun _ e => do
    failIf (e.1 < 0 ∨ (txnCount : ℤ) ≤ e.1)
      (err s!"lsig_resources index {e.1} out of range for {txnCount} transactions")
    mapErr (SdkError.wrap s!"lsig_resources[{e.1}] is invalid: ") (validateResources e.2)) 0 resources.entries

def buildSignRequestsWithOptions (env : Env) (why : String → String) (input : BuilderInput Txn ℤ) :
    Except SdkError (List SignRequest) := do
  validateIndexedLogicSigResources input.lsigResources input.txns.length
  mapEach (buildEntry env why input) 0 input.txns

end Go

/-! ### Python and TypeScript -/

/-- The names and the decoder in which the two builders differ. -/
structure BuilderWords where
  err : String → SdkError
  resources : String
  planGroup : String
  decode : ℕ → String → Except SdkError Bytes

def requireTransaction (e : SdkError) : Option Txn → Except SdkError Txn
  | none => .error e
  | some txn => .ok txn

/-- One turn of the loop: a slot with its passthrough text and its resources. -/
def BuilderWords.entry (w : BuilderWords) (env : Env) (allowForeign : Bool)
    (lsigArgs : IndexedMap String (List (String × Bytes))) (i : ℕ) (txn : Option Txn) (authAddress : String)
    (passthrough : Option String) (resources : Option LogicSigResourceUsage) : Except SdkError SignRequest :=
  match passthrough with
  | some b64 => do
    let signed ← w.decode i b64
    checkSome (validateLsigResources w.err w.resources) resources
    pure { signedTxnHex := hexEncode signed, lsigResources := resources }
  | none =>
    if authAddress = "" then do
      failIf (allowForeign = false)
        { text := s!"foreign entries are only supported on /plan; use {w.planGroup}() first, " ++
            s!"then resubmit slot {i} as passthrough" }
      let txn ← requireTransaction (w.err s!"transaction is required for foreign-mode entry at index {i}") txn
      checkSome (validateLsigResources w.err w.resources) resources
      pure { txnBytesHex := hexEncode (env.encodeTxn txn), lsigResources := resources }
    else do
      failIf (resources.isSome = true)
        (w.err s!"{w.resources}[{i}] is allowed only for foreign or passthrough transactions")
      let txn ← requireTransaction (w.err s!"transaction is required for sign-mode entry at index {i}") txn
      pure (signModeEntry env lsigArgs txn authAddress)

namespace Python

/-- A key of a dict: an integer or a finite float by its value, NaN, or a value
that does not compare with integers. -/
inductive Key
  | number (q : ℚ)
  | nan
  | incomparable
  deriving DecidableEq

/-- A key in an error text. -/
def Key.shown (env : Env) : Key → String
  | number q => env.showJson (if q.den = 1 then .int q.num else .float q)
  | nan => "nan"
  | incomparable => ""

/-- `idx < 0 or idx >= len(txns)`, which is false of NaN. -/
def checkIndex (env : Env) (name : String) (txnCount : ℕ) : Key → Except SdkError Unit
  | .number q => failIf (q < 0 ∨ (txnCount : ℚ) ≤ q)
      (err s!"{name} index {Key.shown env (.number q)} out of range for {txnCount} transactions")
  | .nan => .ok ()
  | .incomparable => .error languageError

def builderWords (why : String → String) (rule : PadRule) : BuilderWords where
  err := err
  resources := "lsig_resources"
  planGroup := "plan_group"
  decode i b64 := match b64decode rule b64 with
    | some bytes => .ok bytes
    | none => .error (err s!"invalid base64 in passthrough[{i}]: {why b64}")

/-- `_build_sign_request_body`. The loop is over `zip(txns, auth_addresses)`. -/
def buildSignRequestBody (env : Env) (why : String → String) (rule : PadRule) (allowForeign : Bool)
    (input : BuilderInput (Option Txn) Key) : Except SdkError (List SignRequest) := do
  forEach (fun _ e => checkIndex env "passthrough" input.txns.length e.1) 0 input.passthrough.entries
  forEach (fun _ e => do
    checkIndex env "lsig_resources" input.txns.length e.1
    failIf (¬ e.2.inBounds) (err s!"lsig_resources[{e.1.shown env}] is invalid")) 0 input.lsigResources.entries
  mapEach (fun i slot => (builderWords why rule).entry env allowForeign input.lsigArgs i slot.1 slot.2
    (input.passthrough.get? (.number i)) (input.lsigResources.get? (.number i))) 0
    (input.txns.zip input.authAddresses)

end Python

namespace TypeScript

/-- `Number(key)` of a text of decimal digits. Of another text it is some number
whose text is another one. -/
def number (key : String) : ℤ :=
  match key.toList with
  | '-' :: digits => -(Nat.ofDigitChars 10 digits 0 : ℤ)
  | digits => Nat.ofDigitChars 10 digits 0

def normalizeIndexedRecord {α : Type} (env : Env) (label : String) (length : ℕ) (record : IndexedMap String α) :
    Except SdkError (List (ℤ × α)) :=
  mapEach (fun _ e => do
    let index := number e.1
    failIf (index.repr ≠ e.1) (err s!"{label} index {env.quote e.1} is not a canonical transaction index")
    failIf (index < 0 ∨ (length : ℤ) ≤ index)
      (err s!"{label} index {index} out of range for {length} transactions")
    pure (index, e.2)) 0 record.entries

def builderWords (buffer : NodeBuffer) : BuilderWords where
  err := err
  resources := "lsigResources"
  planGroup := "planGroup"
  decode _ b64 := .ok (buffer.fromBase64 b64)

def buildSignRequestBody (env : Env) (buffer : NodeBuffer) (allowForeign : Bool)
    (input : BuilderInput (Option Txn) String) : Except SdkError (List SignRequest) := do
  failIf (input.txns.isEmpty = true) (err "transactions must not be empty")
  let passthroughByIndex ← normalizeIndexedRecord env "passthrough" input.txns.length input.passthrough
  let lsigResourcesByIndex ← normalizeIndexedRecord env "lsigResources" input.txns.length input.lsigResources
  forEach (fun _ e => validateLsigResources err s!"lsigResources[{e.1}]" e.2) 0 lsigResourcesByIndex
  mapEach (fun i txn => (builderWords buffer).entry env allowForeign input.lsigArgs i txn (input.authAddress i)
    (passthroughByIndex.lookup (i : ℤ)) (lsigResourcesByIndex.lookup (i : ℤ))) 0 input.txns

end TypeScript

/-! ### What a builder makes of a slot -/

/-- The entry of a slot, where texts are read by `decode`. -/
inductive BuiltEntry (env : Env) (decode : String → Option Bytes) (allowForeign : Bool)
    (lsigArgs : IndexedMap String (List (String × Bytes))) (txn : Option Txn) (authAddress : String) :
    Option String → Option LogicSigResourceUsage → SignRequest → Prop
  | passthrough {b64 : String} {bytes : Bytes} {resources : Option LogicSigResourceUsage} :
    decode b64 = some bytes → BuiltEntry env decode allowForeign lsigArgs txn authAddress (some b64) resources
      { signedTxnHex := hexEncode bytes, lsigResources := resources }
  | foreign {t : Txn} {resources : Option LogicSigResourceUsage} :
    txn = some t → authAddress = "" → allowForeign = true →
      BuiltEntry env decode allowForeign lsigArgs txn authAddress none resources
        { txnBytesHex := hexEncode (env.encodeTxn t), lsigResources := resources }
  | sign {t : Txn} : txn = some t → authAddress ≠ "" →
      BuiltEntry env decode allowForeign lsigArgs txn authAddress none none (signModeEntry env lsigArgs t authAddress)

/-- The slots an entry can be made of. -/
def Admissible (decode : String → Option Bytes) (allowForeign : Bool) (txn : Option Txn) (authAddress : String)
    (passthrough : Option String) (resources : Option LogicSigResourceUsage) : Prop :=
  (∀ b64, passthrough = some b64 → decode b64 ≠ none) ∧
    (passthrough = none → txn ≠ none ∧ (authAddress = "" → allowForeign = true) ∧
      (authAddress ≠ "" → resources = none))

section Slot

variable {env : Env} {decode : String → Option Bytes} {allowForeign : Bool}
  {lsigArgs : IndexedMap String (List (String × Bytes))} {txn : Option Txn} {authAddress : String}
  {passthrough : Option String} {resources : Option LogicSigResourceUsage} {r : SignRequest}

theorem exists_builtEntry : (∃ r, BuiltEntry env decode allowForeign lsigArgs txn authAddress passthrough resources r) ↔
    Admissible decode allowForeign txn authAddress passthrough resources := by
  constructor
  · rintro ⟨r, h⟩
    cases h with
    | passthrough hdecode =>
      refine ⟨fun b64 heq => ?_, fun h => (nomatch h)⟩
      cases heq
      rw [hdecode]
      exact Option.some_ne_none _
    | foreign htxn hauth hallow =>
      refine ⟨fun b64 heq => (nomatch heq), fun _ => ⟨?_, fun _ => hallow, fun hne => absurd hauth hne⟩⟩
      rw [htxn]
      exact Option.some_ne_none _
    | sign htxn hauth =>
      refine ⟨fun b64 heq => (nomatch heq), fun _ => ⟨?_, fun h => absurd h hauth, fun _ => rfl⟩⟩
      rw [htxn]
      exact Option.some_ne_none _
  · rintro ⟨hpass, hother⟩
    cases passthrough with
    | some b64 =>
      obtain ⟨bytes, hbytes⟩ := Option.ne_none_iff_exists'.mp (hpass b64 rfl)
      exact ⟨_, .passthrough hbytes⟩
    | none =>
      obtain ⟨htxn, hforeign, hsign⟩ := hother rfl
      obtain ⟨t, ht⟩ := Option.ne_none_iff_exists'.mp htxn
      by_cases hauth : authAddress = ""
      · exact ⟨_, .foreign ht hauth (hforeign hauth)⟩
      · rw [hsign hauth]
        exact ⟨_, .sign ht hauth⟩

/-- One turn of the loop of Python and of TypeScript. -/
theorem BuilderWords.entry_ok {w : BuilderWords} {i : ℕ}
    (hdecode : ∀ b64 bytes, w.decode i b64 = .ok bytes ↔ decode b64 = some bytes)
    (hres : ∀ x, resources = some x → x.inBounds) :
    w.entry env allowForeign lsigArgs i txn authAddress passthrough resources = .ok r ↔
      BuiltEntry env decode allowForeign lsigArgs txn authAddress passthrough resources r := by
  have hcheck : checkSome (validateLsigResources w.err w.resources) resources = .ok () := by
    rw [checkSome_ok]
    intro x hx
    rw [validateLsigResources_ok]
    exact hres x hx
  have hrequire : ∀ (e : SdkError) (t : Txn), requireTransaction e txn = .ok t ↔ txn = some t := by
    intro e t
    cases txn <;> simp [requireTransaction]
  unfold BuilderWords.entry
  cases passthrough with
  | some b64 =>
    simp only [bind_eq_ok (α := Bytes), seq_eq_ok, hdecode, hcheck, pure_eq_ok, true_and]
    constructor
    · rintro ⟨bytes, hbytes, rfl⟩
      exact .passthrough hbytes
    · intro h
      cases h with
      | passthrough hbytes => exact ⟨_, hbytes, rfl⟩
  | none =>
    by_cases hauth : authAddress = ""
    · simp only [if_pos hauth, bind_eq_ok (α := Txn), seq_eq_ok, failIf_ok, hrequire, hcheck, pure_eq_ok,
        true_and, Bool.not_eq_false]
      constructor
      · rintro ⟨hallow, t, ht, rfl⟩
        exact .foreign ht hauth hallow
      · intro h
        cases h with
        | foreign ht _ hallow => exact ⟨hallow, _, ht, rfl⟩
        | sign _ hne => exact absurd hauth hne
    · simp only [if_neg hauth, bind_eq_ok (α := Txn), seq_eq_ok, failIf_ok, hrequire, pure_eq_ok,
        Bool.not_eq_true, Option.isSome_eq_false_iff, Option.isNone_iff_eq_none]
      constructor
      · rintro ⟨rfl, t, ht, rfl⟩
        exact .sign ht hauth
      · intro h
        cases h with
        | foreign _ heq => exact absurd heq hauth
        | sign ht _ => exact ⟨rfl, _, ht, rfl⟩

end Slot

/-- Go refuses an empty passthrough transaction as one without a mode. -/
def Go.signedBytes (b64 : String) : Option Bytes := (stdDecodeString b64).filter fun bytes => bytes ≠ []

theorem Go.buildEntry_ok {env : Env} {why : String → String} {input : BuilderInput Txn ℤ} {i : ℕ} {txn : Txn}
    {r : SignRequest} (hres : ∀ x, input.lsigResources.get? (i : ℤ) = some x → x.inBounds) :
    Go.buildEntry env why input i txn = .ok r ↔ BuiltEntry env Go.signedBytes true input.lsigArgs (some txn)
      (input.authAddress i) (input.passthrough.get? (i : ℤ)) (input.lsigResources.get? (i : ℤ)) r := by
  unfold Go.buildEntry
  dsimp only
  generalize input.lsigResources.get? (i : ℤ) = resources at hres ⊢
  generalize input.passthrough.get? (i : ℤ) = passthrough
  cases passthrough with
  | some b64 =>
    dsimp only
    cases hdecode : Go.stdDecodeString b64 with
    | none =>
      refine iff_of_false (fun h => nomatch h) fun h => ?_
      cases h with
      | passthrough hsigned =>
        rw [Go.signedBytes, hdecode] at hsigned
        cases hsigned
    | some decoded =>
      dsimp only
      have hentry : EntryOk { signedTxnHex := hexEncode decoded, lsigResources := resources } .passthrough :=
        ⟨fun h => absurd rfl h, fun h => absurd rfl h, fun _ => .inr rfl, fun h => absurd rfl h, hres⟩
      simp only [bind_eq_ok (α := RequestMode), mapErr_ok, Go.validateSignRequest_ok, pure_eq_ok]
      by_cases hempty : decoded = []
      · refine iff_of_false ?_ fun h => ?_
        · rintro ⟨mode, ⟨hmode, -⟩, -⟩
          rw [hempty] at hmode
          cases hmode
        · cases h with
          | passthrough hsigned =>
            rw [Go.signedBytes, hdecode, hempty] at hsigned
            cases hsigned
      · have hsigned : Go.signedBytes b64 = some decoded := by
          rw [Go.signedBytes, hdecode, Option.filter_some, if_pos (by simpa using hempty)]
        have hmode : signRequestMode Go.err { signedTxnHex := hexEncode decoded, lsigResources := resources } =
            .ok .passthrough := by
          simp [signRequestMode, hexEncode_eq_empty, hempty]
        constructor
        · rintro ⟨mode, -, rfl⟩
          exact .passthrough hsigned
        · intro h
          cases h with
          | passthrough hsigned' =>
            cases hsigned.symm.trans hsigned'
            exact ⟨.passthrough, ⟨hmode, hentry⟩, rfl⟩
  | none =>
    dsimp only
    by_cases hauth : input.authAddress i = ""
    · rw [if_pos hauth]
      constructor
      · rintro h
        cases h
        exact .foreign rfl hauth rfl
      · intro h
        cases h with
        | foreign ht => cases ht; rfl
        | sign _ hne => exact absurd hauth hne
    · rw [if_neg hauth, seq_eq_ok, failIf_ok, Bool.not_eq_true, Option.isSome_eq_false_iff,
        Option.isNone_iff_eq_none, pure_eq_ok]
      constructor
      · rintro ⟨rfl, rfl⟩
        exact .sign rfl hauth
      · intro h
        cases h with
        | foreign _ heq => exact absurd heq hauth
        | sign ht _ => cases ht; exact ⟨rfl, rfl⟩

/-! ### What a builder makes of its input -/

/-- How a builder reads its input: what stands in a slot, the key of an index,
the decoder of passthrough texts, whether foreign slots are allowed, the number
of turns of the loop, and what is checked before it. -/
structure Reading (σ κ : Type) where
  txn : σ → Option Txn
  key : ℕ → κ
  decode : String → Option Bytes
  allowForeign : Bool
  turns : BuilderInput σ κ → ℕ
  checks : BuilderInput σ κ → Prop

namespace Reading

variable {σ κ : Type} [DecidableEq κ]

/-- The entries a builder makes. -/
def Builds (rd : Reading σ κ) (env : Env) (input : BuilderInput σ κ) (requests : List SignRequest) : Prop :=
  rd.checks input ∧ requests.length = rd.turns input ∧
    ∀ i slot r, input.txns[i]? = some slot → requests[i]? = some r →
      BuiltEntry env rd.decode rd.allowForeign input.lsigArgs (rd.txn slot) (input.authAddress i)
        (input.passthrough.get? (rd.key i)) (input.lsigResources.get? (rd.key i)) r

/-- The inputs a builder makes entries of. -/
def Admits (rd : Reading σ κ) (input : BuilderInput σ κ) : Prop :=
  rd.checks input ∧ ∀ i slot, i < rd.turns input → input.txns[i]? = some slot →
    Admissible rd.decode rd.allowForeign (rd.txn slot) (input.authAddress i)
      (input.passthrough.get? (rd.key i)) (input.lsigResources.get? (rd.key i))

/-- The input is one the entries can speak for: a turn for every slot, no key
but indices, and passthrough texts that are well formed. -/
structure Sound (rd : Reading σ κ) (input : BuilderInput σ κ) : Prop where
  turns : rd.turns input = input.txns.length
  passthrough : ∀ e ∈ input.passthrough.entries, (∃ i < input.txns.length, e.1 = rd.key i) ∧ WellFormed e.2
  resources : ∀ e ∈ input.lsigResources.entries, ∃ i < input.txns.length, e.1 = rd.key i

theorem exists_builds {rd : Reading σ κ} {env : Env} {input : BuilderInput σ κ}
    (hturns : rd.turns input ≤ input.txns.length) : (∃ requests, rd.Builds env input requests) ↔ rd.Admits input := by
  constructor
  · rintro ⟨requests, hchecks, hlen, hentries⟩
    refine ⟨hchecks, fun i slot hi hslot => ?_⟩
    have hi' : i < requests.length := hlen ▸ hi
    exact exists_builtEntry.mp ⟨requests[i], hentries i slot _ hslot (List.getElem?_eq_getElem hi')⟩
  · rintro ⟨hchecks, hslots⟩
    have heach : ∀ i : Fin (rd.turns input), ∃ r, BuiltEntry env rd.decode rd.allowForeign input.lsigArgs
        (rd.txn (input.txns.get ⟨i, by omega⟩)) (input.authAddress i) (input.passthrough.get? (rd.key i))
        (input.lsigResources.get? (rd.key i)) r := by
      intro i
      exact exists_builtEntry.mpr (hslots i _ i.isLt (List.getElem?_eq_getElem (by omega)))
    choose entry hentry using heach
    refine ⟨List.ofFn entry, hchecks, List.length_ofFn, fun i slot r hslot hr => ?_⟩
    obtain ⟨hi, rfl⟩ := List.getElem?_eq_some_iff.mp hr
    obtain ⟨hlt, rfl⟩ := List.getElem?_eq_some_iff.mp hslot
    rw [List.length_ofFn] at hi
    rw [List.getElem_ofFn]
    exact hentry ⟨i, hi⟩

end Reading

/-! ### The builders as readings -/

theorem Go.index_iff {k : ℤ} {n : ℕ} : (∃ i < n, k = ((i : ℕ) : ℤ)) ↔ 0 ≤ k ∧ k < n := by
  constructor
  · rintro ⟨i, hi, rfl⟩
    omega
  · rintro ⟨h0, hn⟩
    exact ⟨k.toNat, by omega, by omega⟩

/-- Go checks the keys of the resources alone. -/
def Go.reading : Reading Txn ℤ where
  txn := some
  key i := i
  decode := Go.signedBytes
  allowForeign := true
  turns input := input.txns.length
  checks input := ∀ e ∈ input.lsigResources.entries, (0 ≤ e.1 ∧ e.1 < input.txns.length) ∧ e.2.inBounds

/-- The keys that pass for an index. -/
def Python.Key.InRange (txnCount : ℕ) : Python.Key → Prop
  | number q => 0 ≤ q ∧ q < txnCount
  | nan => True
  | incomparable => False

/-- Python leaves out the slots that have no address. -/
def Python.reading (rule : Python.PadRule) (allowForeign : Bool) : Reading (Option Txn) Python.Key where
  txn slot := slot
  key i := .number i
  decode := Python.b64decode rule
  allowForeign := allowForeign
  turns input := min input.txns.length input.authAddresses.length
  checks input := (∀ e ∈ input.passthrough.entries, e.1.InRange input.txns.length) ∧
    ∀ e ∈ input.lsigResources.entries, e.1.InRange input.txns.length ∧ e.2.inBounds

/-- TypeScript keeps the keys that are the text of an index. -/
def TypeScript.reading (buffer : NodeBuffer) (allowForeign : Bool) : Reading (Option Txn) String where
  txn slot := slot
  key i := Nat.repr i
  decode b64 := some (buffer.fromBase64 b64)
  allowForeign := allowForeign
  turns input := input.txns.length
  checks input := input.txns ≠ [] ∧
    (∀ e ∈ input.passthrough.entries, ∃ i < input.txns.length, e.1 = Nat.repr i) ∧
    ∀ e ∈ input.lsigResources.entries, (∃ i < input.txns.length, e.1 = Nat.repr i) ∧ e.2.inBounds

section Builds

variable {env : Env} {why : String → String} {requests : List SignRequest}

theorem Go.builds_iff {input : BuilderInput Txn ℤ} :
    Go.buildSignRequestsWithOptions env why input = .ok requests ↔ Go.reading.Builds env input requests := by
  have hchecks : Go.validateIndexedLogicSigResources input.lsigResources input.txns.length = .ok () ↔
      Go.reading.checks input := by
    unfold Go.validateIndexedLogicSigResources
    simp only [forEach_ok, seq_eq_ok, failIf_ok, mapErr_ok, Go.validateResources_ok, not_or, not_lt, not_le,
      forall_getElem? (P := fun e : ℤ × LogicSigResourceUsage =>
        (0 ≤ e.1 ∧ e.1 < input.txns.length) ∧ e.2.inBounds)]
    exact Iff.rfl
  unfold Go.buildSignRequestsWithOptions
  rw [seq_eq_ok, hchecks, mapEach_ok, eq_comm (a := input.txns.length)]
  refine and_congr_right fun hok => and_congr_right fun _ => ?_
  simp only [Nat.zero_add]
  refine forall₃_congr fun i txn r => forall₂_congr fun _ _ => Go.buildEntry_ok fun x hx => ?_
  exact (hok _ (IndexedMap.get?_eq_some.mp hx)).2

theorem Python.checkIndex_ok {name : String} {txnCount : ℕ} {key : Python.Key} {u : Unit} :
    Python.checkIndex env name txnCount key = .ok u ↔ key.InRange txnCount := by
  cases key with
  | number q => simp [Python.checkIndex, Python.Key.InRange]
  | nan => simp [Python.checkIndex, Python.Key.InRange]
  | incomparable => simp [Python.checkIndex, Python.Key.InRange]

theorem Python.decode_ok {rule : Python.PadRule} {i : ℕ} {b64 : String} {bytes : Bytes} :
    (Python.builderWords why rule).decode i b64 = .ok bytes ↔ Python.b64decode rule b64 = some bytes := by
  unfold Python.builderWords
  dsimp only
  cases Python.b64decode rule b64 <;> simp

theorem Python.builds_iff {rule : Python.PadRule} {allowForeign : Bool}
    {input : BuilderInput (Option Txn) Python.Key} :
    Python.buildSignRequestBody env why rule allowForeign input = .ok requests ↔
      (Python.reading rule allowForeign).Builds env input requests := by
  unfold Python.buildSignRequestBody
  rw [seq_eq_ok, seq_eq_ok, mapEach_ok, List.length_zip, eq_comm (a := min _ _), ← and_assoc]
  simp only [forEach_ok, seq_eq_ok, Python.checkIndex_ok, failIf_ok, not_not, Nat.zero_add,
    forall_getElem? (P := fun e : Python.Key × String => e.1.InRange input.txns.length),
    forall_getElem? (P := fun e : Python.Key × LogicSigResourceUsage =>
      e.1.InRange input.txns.length ∧ e.2.inBounds)]
  refine and_congr_right fun hok => and_congr_right fun hlen => ?_
  have hres : ∀ (i : ℕ) x, input.lsigResources.get? (.number i) = some x → x.inBounds := by
    intro i x hx
    exact (hok.2 _ (IndexedMap.get?_eq_some.mp hx)).2
  constructor
  · intro h i slot r hslot hr
    have hi : i < input.authAddresses.length := by
      have hlt := (List.getElem?_eq_some_iff.mp hr).1
      omega
    have hzip : (input.txns.zip input.authAddresses)[i]? = some (slot, input.authAddress i) := by
      rw [List.getElem?_zip_eq_some]
      refine ⟨hslot, ?_⟩
      rw [BuilderInput.authAddress, List.getD_eq_getElem?_getD, List.getElem?_eq_getElem hi, Option.getD_some]
    exact (BuilderWords.entry_ok (fun _ _ => Python.decode_ok) (hres i)).mp (h i _ r hzip hr)
  · rintro h i ⟨slot, authAddress⟩ r hzip hr
    obtain ⟨hslot, hauth⟩ := List.getElem?_zip_eq_some.mp hzip
    have haddress : authAddress = input.authAddress i := by
      rw [BuilderInput.authAddress, List.getD_eq_getElem?_getD, hauth, Option.getD_some]
    rw [haddress]
    exact (BuilderWords.entry_ok (fun _ _ => Python.decode_ok) (hres i)).mpr (h i slot r hslot hr)

end Builds

namespace TypeScript

theorem number_repr (i : ℕ) : number (Nat.repr i) = i := by
  have hdigits : (Nat.repr i).toList = Nat.toDigits 10 i := Nat.toList_repr
  unfold number
  split
  · rename_i digits heq
    rw [hdigits] at heq
    have hmem : '-' ∈ Nat.toDigits 10 i := heq ▸ List.mem_cons_self
    have hdigit := Nat.isDigit_of_mem_toDigits (by omega) (by omega) hmem
    cases hdigit
  · rw [hdigits, Nat.ofDigitChars_ten_toDigits]

theorem repr_beq (i j : ℕ) : (Nat.repr i == Nat.repr j) = ((i : ℤ) == (j : ℤ)) := by
  rw [Bool.eq_iff_iff, beq_iff_eq, beq_iff_eq]
  constructor
  · intro h
    rw [← number_repr i, ← number_repr j, h]
  · intro h
    rw [Int.ofNat.inj h]

section Normalize

variable {α : Type} {env : Env} {label : String} {length : ℕ} {record : IndexedMap String α}
  {normalized : List (ℤ × α)}

/-- The entry of an index, under its number. -/
def Normal (length : ℕ) (e : String × α) (o : ℤ × α) : Prop := ∃ i < length, e.1 = Nat.repr i ∧ o = ((i : ℤ), e.2)

theorem normalizeIndexedRecord_ok : normalizeIndexedRecord env label length record = .ok normalized ↔
    List.Forall₂ (Normal length) record.entries normalized := by
  refine mapEach_rel fun _ e o => ?_
  simp only [seq_eq_ok, failIf_ok, pure_eq_ok, not_or, not_lt, not_le, not_not]
  constructor
  · rintro ⟨hrepr, ⟨h0, hlt⟩, rfl⟩
    obtain ⟨i, hi⟩ := Int.eq_ofNat_of_zero_le h0
    rw [hi] at hrepr hlt ⊢
    exact ⟨i, by omega, hrepr.symm, rfl⟩
  · rintro ⟨i, hi, hkey, rfl⟩
    have hnumber : number e.1 = i := hkey ▸ number_repr i
    rw [hnumber, hkey]
    exact ⟨rfl, ⟨by omega, by omega⟩, rfl⟩

/-- A lookup by number finds what the record has under the text of it. -/
theorem lookup_normalized {entries : List (String × α)} (h : List.Forall₂ (Normal length) entries normalized) (i : ℕ) :
    normalized.lookup (i : ℤ) = entries.lookup (Nat.repr i) := by
  induction h with
  | nil => rfl
  | @cons e o _ _ hnormal _ ih =>
    obtain ⟨j, -, hkey, rfl⟩ := hnormal
    obtain ⟨key, value⟩ := e
    have heq : key = Nat.repr j := hkey
    subst heq
    rw [List.lookup_cons, List.lookup_cons, repr_beq, ih]

theorem exists_normalized {entries : List (String × α)} :
    (∃ normalized, List.Forall₂ (Normal length) entries normalized) ↔
      ∀ e ∈ entries, ∃ i < length, e.1 = Nat.repr i := by
  rw [exists_forall₂]
  refine forall₂_congr fun e _ => ?_
  constructor
  · rintro ⟨o, i, hi, hkey, -⟩
    exact ⟨i, hi, hkey⟩
  · rintro ⟨i, hi, hkey⟩
    exact ⟨_, i, hi, hkey, rfl⟩

end Normalize

theorem builds_iff {env : Env} {buffer : NodeBuffer} {allowForeign : Bool} {input : BuilderInput (Option Txn) String}
    {requests : List SignRequest} : buildSignRequestBody env buffer allowForeign input = .ok requests ↔
      (reading buffer allowForeign).Builds env input requests := by
  have hdecode : ∀ (i : ℕ) b64 bytes, (builderWords buffer).decode i b64 = .ok bytes ↔
      (reading buffer allowForeign).decode b64 = some bytes := by
    intro i b64 bytes
    simp [builderWords, reading]
  -- the resources in order, by index and in the record
  have hbounds : ∀ normalized, List.Forall₂ (Normal input.txns.length) input.lsigResources.entries normalized →
      ((∀ o ∈ normalized, o.2.inBounds) ↔ ∀ e ∈ input.lsigResources.entries, e.2.inBounds) := by
    intro normalized h
    constructor
    · intro hall e he
      obtain ⟨o, ho, i, -, -, rfl⟩ := exists_of_forall₂ h e he
      exact hall _ ho
    · intro hall o ho
      obtain ⟨e, he, i, -, -, rfl⟩ := exists_of_forall₂' h o ho
      exact hall e he
  -- the loop, for the maps the records were read into
  have hloop : ∀ passthrough resources,
      List.Forall₂ (Normal input.txns.length) input.passthrough.entries passthrough →
      List.Forall₂ (Normal input.txns.length) input.lsigResources.entries resources →
      (∀ e ∈ input.lsigResources.entries, e.2.inBounds) →
      (mapEach (fun i txn => (builderWords buffer).entry env allowForeign input.lsigArgs i txn
        (input.authAddress i) (passthrough.lookup (i : ℤ)) (resources.lookup (i : ℤ))) 0 input.txns = .ok requests ↔
        requests.length = input.txns.length ∧ ∀ i slot r, input.txns[i]? = some slot → requests[i]? = some r →
          BuiltEntry env (reading buffer allowForeign).decode allowForeign input.lsigArgs slot (input.authAddress i)
            (input.passthrough.get? (Nat.repr i)) (input.lsigResources.get? (Nat.repr i)) r) := by
    intro passthrough resources hpass hresources hok
    rw [mapEach_ok, eq_comm (a := input.txns.length)]
    refine and_congr_right fun _ => forall₃_congr fun i slot r => forall₂_congr fun _ _ => ?_
    rw [Nat.zero_add, lookup_normalized hpass, lookup_normalized hresources]
    refine BuilderWords.entry_ok (hdecode i) fun x hx => ?_
    exact hok _ (IndexedMap.get?_eq_some.mp hx)
  unfold buildSignRequestBody
  rw [seq_eq_ok, failIf_ok, List.isEmpty_iff]
  simp only [bind_eq_ok (α := List (ℤ × String)), bind_eq_ok (α := List (ℤ × LogicSigResourceUsage)), seq_eq_ok,
    normalizeIndexedRecord_ok, forEach_ok, validateLsigResources_ok,
    forall_getElem? (P := fun o : ℤ × LogicSigResourceUsage => o.2.inBounds)]
  constructor
  · rintro ⟨hne, passthrough, hpass, resources, hresources, hall, hmap⟩
    have hok := (hbounds resources hresources).mp hall
    obtain ⟨hlen, hentries⟩ := (hloop passthrough resources hpass hresources hok).mp hmap
    refine ⟨⟨hne, exists_normalized.mp ⟨_, hpass⟩, fun e he => ⟨?_, hok e he⟩⟩, hlen, hentries⟩
    exact exists_normalized.mp ⟨_, hresources⟩ e he
  · rintro ⟨⟨hne, hpasskeys, hreskeys⟩, hlen, hentries⟩
    obtain ⟨passthrough, hpass⟩ := exists_normalized.mpr hpasskeys
    obtain ⟨resources, hresources⟩ := exists_normalized.mpr fun e he => (hreskeys e he).1
    have hok : ∀ e ∈ input.lsigResources.entries, e.2.inBounds := fun e he => (hreskeys e he).2
    refine ⟨hne, passthrough, hpass, resources, hresources, (hbounds resources hresources).mpr hok, ?_⟩
    exact (hloop passthrough resources hpass hresources hok).mpr ⟨hlen, hentries⟩

end TypeScript

/-! ### Nothing is dropped -/

/-- What the entry of a slot has to say: the passthrough transaction, or else
the transaction itself, and the resources that are declared for it. -/
structure EntryFor (env : Env) (txn : Option Txn) (passthrough : Option String)
    (resources : Option LogicSigResourceUsage) (r : SignRequest) : Prop where
  isPassthrough : r.txnBytesHex = "" ↔ passthrough ≠ none
  signed : ∀ b64, passthrough = some b64 → ∃ bytes, Base64.decode b64.toList = some bytes ∧
    r.signedTxnHex = hexEncode bytes ∧ r.authAddress = ""
  unsigned : passthrough = none → ∃ t, txn = some t ∧ r.txnBytesHex = hexEncode (env.encodeTxn t) ∧ r.signedTxnHex = ""
  declared : r.lsigResources = resources
  declarable : resources ≠ none → passthrough ≠ none ∨ r.authAddress = ""

/-- What is promised of a builder that succeeds. -/
structure DropsNothing {σ κ : Type} [DecidableEq κ] (env : Env) (rd : Reading σ κ) (input : BuilderInput σ κ)
    (requests : List SignRequest) : Prop where
  length : requests.length = input.txns.length
  passthrough : ∀ e ∈ input.passthrough.entries, (∃ i < input.txns.length, e.1 = rd.key i) ∧ WellFormed e.2
  resources : ∀ e ∈ input.lsigResources.entries, ∃ i < input.txns.length, e.1 = rd.key i
  entries : ∀ i slot r, input.txns[i]? = some slot → requests[i]? = some r →
    EntryFor env (rd.txn slot) (input.passthrough.get? (rd.key i)) (input.lsigResources.get? (rd.key i)) r

section Nothing

variable {env : Env} {decode : String → Option Bytes} {allowForeign : Bool}
  {lsigArgs : IndexedMap String (List (String × Bytes))} {txn : Option Txn} {authAddress : String}
  {passthrough : Option String} {resources : Option LogicSigResourceUsage} {r : SignRequest}

theorem BuiltEntry.entryFor
    (h : BuiltEntry env decode allowForeign lsigArgs txn authAddress passthrough resources r)
    (hdecode : ∀ b64 bytes, passthrough = some b64 → decode b64 = some bytes → Base64.decode b64.toList = some bytes) :
    EntryFor env txn passthrough resources r := by
  cases h with
  | passthrough hbytes =>
    refine ⟨iff_of_true rfl (Option.some_ne_none _), fun b64 heq => ?_, fun h => (nomatch h), rfl,
      fun _ => .inl (Option.some_ne_none _)⟩
    cases heq
    exact ⟨_, hdecode _ _ rfl hbytes, rfl, rfl⟩
  | foreign ht =>
    refine ⟨iff_of_false (hexEncode_encodeTxn_ne _ _) (not_not.mpr rfl), fun b64 heq => (nomatch heq),
      fun _ => ⟨_, ht, rfl, rfl⟩, rfl, fun _ => .inr rfl⟩
  | sign ht =>
    exact ⟨iff_of_false (hexEncode_encodeTxn_ne _ _) (not_not.mpr rfl), fun b64 heq => (nomatch heq),
      fun _ => ⟨_, ht, rfl, rfl⟩, rfl, fun h => absurd rfl h⟩

variable {σ κ : Type} [DecidableEq κ]

/-- A decoder that reads well-formed texts as everyone does. -/
def Reading.Standard (rd : Reading σ κ) : Prop :=
  ∀ b64 bytes bytes', rd.decode b64 = some bytes → Base64.decode b64.toList = some bytes' → bytes = bytes'

/-- A builder drops nothing where it refuses the inputs that are not sound. -/
theorem Reading.dropsNothing_iff {rd : Reading σ κ} {input : BuilderInput σ κ} (hstandard : rd.Standard)
    (hturns : rd.turns input ≤ input.txns.length) :
    (∀ requests, rd.Builds env input requests → DropsNothing env rd input requests) ↔
      (rd.Admits input → rd.Sound input) := by
  constructor
  · intro h hadmits
    obtain ⟨requests, hbuilds⟩ := (Reading.exists_builds hturns).mpr hadmits
    have hnothing := h requests hbuilds
    exact ⟨hbuilds.2.1.symm.trans hnothing.length, hnothing.passthrough, hnothing.resources⟩
  · rintro h requests hbuilds
    have hsound := h ((Reading.exists_builds hturns).mp ⟨requests, hbuilds⟩)
    obtain ⟨-, hlen, hentries⟩ := hbuilds
    refine ⟨hlen.trans hsound.turns, hsound.passthrough, hsound.resources, fun i slot r hslot hr => ?_⟩
    refine (hentries i slot r hslot hr).entryFor fun b64 bytes hb64 hbytes => ?_
    obtain ⟨-, bytes', hbytes'⟩ := hsound.passthrough _ (IndexedMap.get?_eq_some.mp hb64)
    rw [hbytes', hstandard b64 bytes bytes' hbytes hbytes']

end Nothing

/-! ### What each builder overlooks -/

namespace Go

/-- A passthrough key that is no index, or a text with a line end in it. -/
def Overlooks (input : BuilderInput Txn ℤ) : Prop :=
  ∃ e ∈ input.passthrough.entries,
    ¬ (0 ≤ e.1 ∧ e.1 < input.txns.length) ∨ '\n' ∈ e.2.toList ∨ '\r' ∈ e.2.toList

theorem stdDecodeString_of_signedBytes {b64 : String} {bytes : Bytes} (h : signedBytes b64 = some bytes) :
    stdDecodeString b64 = some bytes :=
  (Option.filter_eq_some_iff.mp h).1

theorem standard : reading.Standard := by
  intro b64 bytes bytes' h h'
  have hread := stdDecodeString_of_signedBytes h
  rw [goDecode_of_decode h'] at hread
  exact (Option.some.inj hread).symm

theorem sound_iff {input : BuilderInput Txn ℤ} (h : reading.Admits input) :
    reading.Sound input ↔ ¬ Overlooks input := by
  obtain ⟨hchecks, hslots⟩ := h
  constructor
  · rintro hsound ⟨e, he, hbad⟩
    obtain ⟨hkey, hwf⟩ := hsound.passthrough e he
    obtain ⟨bytes, hbytes⟩ := hwf
    have htaken : stdDecodeString e.2 ≠ none := by
      rw [goDecode_of_decode hbytes]
      exact Option.some_ne_none bytes
    obtain ⟨hline, hreturn⟩ := (goDecode_wellFormed_iff htaken).mp ⟨bytes, hbytes⟩
    rcases hbad with hout | hin | hin
    · exact hout (index_iff.mp hkey)
    · exact hline hin
    · exact hreturn hin
  · intro h
    refine ⟨rfl, fun e he => ?_, fun e he => index_iff.mpr (hchecks e he).1⟩
    have hgood : (0 ≤ e.1 ∧ e.1 < input.txns.length) ∧ '\n' ∉ e.2.toList ∧ '\r' ∉ e.2.toList := by
      by_contra hbad
      refine h ⟨e, he, ?_⟩
      tauto
    obtain ⟨i, hi, hkey⟩ := index_iff.mpr hgood.1
    have hget : input.passthrough.get? (reading.key i) = some e.2 := by
      rw [IndexedMap.get?_eq_some]
      show ((i : ℤ), e.2) ∈ _
      rw [← hkey]
      exact he
    have htaken : stdDecodeString e.2 ≠ none := by
      obtain ⟨bytes, hbytes⟩ := Option.ne_none_iff_exists'.mp
        ((hslots i _ hi (List.getElem?_eq_getElem hi)).1 e.2 hget)
      rw [stdDecodeString_of_signedBytes hbytes]
      exact Option.some_ne_none bytes
    exact ⟨⟨i, hi, hkey⟩, (goDecode_wellFormed_iff htaken).mpr hgood.2⟩

theorem dropsNothing_iff {env : Env} {why : String → String} {input : BuilderInput Txn ℤ} :
    (∀ requests, buildSignRequestsWithOptions env why input = .ok requests → DropsNothing env reading input requests) ↔
      (reading.Admits input → ¬ Overlooks input) := by
  simp only [builds_iff]
  rw [Reading.dropsNothing_iff standard (le_refl _)]
  exact forall_congr' fun h => sound_iff h

end Go

namespace Python

/-- A key that compares like an index and is none. -/
def Key.Stray : Key → Prop
  | number q => q.den ≠ 1
  | nan => True
  | incomparable => False

/-- More pads at the end than make the digits whole quads. -/
def PadsOver (s : String) : Prop :=
  (4 - (s.toList.takeWhile (· != '=')).length % 4) % 4 < (s.toList.dropWhile (· != '=')).length

/-- A key that is no integer, a passthrough text with pads over, or fewer
addresses than transactions. -/
def Overlooks (input : BuilderInput (Option Txn) Key) : Prop :=
  (∃ e ∈ input.passthrough.entries, e.1.Stray ∨ PadsOver e.2) ∨ (∃ e ∈ input.lsigResources.entries, e.1.Stray) ∨
    input.authAddresses.length < input.txns.length

theorem standard {rule : PadRule} {allowForeign : Bool} : (reading rule allowForeign).Standard := by
  intro b64 bytes bytes' h h'
  exact Option.some.inj (h.symm.trans (b64decode_of_decode h'))

/-- What CPython reads is well formed unless it has pads over. -/
theorem wellFormed_iff {rule : PadRule} {s : String} {bytes : Bytes} (h : b64decode rule s = some bytes) :
    WellFormed s ↔ ¬ PadsOver s := by
  constructor
  · rintro ⟨_, hdecode⟩ hover
    obtain ⟨digits, hdigits, htext⟩ := (Base64.decode_iff_quads.mp hdecode).eq_append
    have hkept : ∀ c ∈ digits, (c != '=') = true := fun c hc => bne_iff_ne.mpr (hdigits c hc)
    rw [PadsOver, htext, List.takeWhile_append_of_pos hkept, List.dropWhile_append_of_pos hkept] at hover
    simp at hover
  · intro hover
    unfold b64decode at h
    dsimp only at h
    split at h
    · rename_i hcond
      obtain ⟨hpads, hlen | ⟨hmore, -⟩⟩ := hcond
      · have htext : s.toList.takeWhile (· != '=') ++ List.replicate
            ((4 - (s.toList.takeWhile (· != '=')).length % 4) % 4) '=' = s.toList := by
          conv_rhs => rw [← List.takeWhile_append_dropWhile (p := (· != '=')) (l := s.toList)]
          congr 1
          refine (List.eq_replicate_iff.mpr ⟨hlen, fun c hc => ?_⟩).symm
          exact beq_iff_eq.mp (List.all_eq_true.mp hpads c hc)
        rw [htext] at h
        exact ⟨bytes, h⟩
      · exact absurd hmore hover
    · cases h

theorem index_iff {key : Key} {txnCount : ℕ} (h : key.InRange txnCount) :
    (∃ i < txnCount, key = .number i) ↔ ¬ key.Stray := by
  cases key with
  | number q =>
    obtain ⟨h0, hlt⟩ := h
    constructor
    · rintro ⟨i, -, heq⟩ hstray
      cases heq
      exact hstray (Rat.den_natCast i)
    · intro hstray
      have hden : q.den = 1 := not_not.mp hstray
      have hint : ((q.num : ℤ) : ℚ) = q := (Rat.den_eq_one_iff q).mp hden
      have hnum : 0 ≤ q.num := Rat.num_nonneg.mpr h0
      have heq : ((q.num.toNat : ℕ) : ℚ) = q := by
        rw [← hint]
        exact_mod_cast congrArg (Int.cast : ℤ → ℚ) (Int.toNat_of_nonneg hnum)
      refine ⟨q.num.toNat, ?_, by rw [heq]⟩
      rw [← heq] at hlt
      exact_mod_cast hlt
  | nan => simp [Key.Stray]
  | incomparable => cases h

theorem sound_iff {rule : PadRule} {allowForeign : Bool} {input : BuilderInput (Option Txn) Key}
    (h : (reading rule allowForeign).Admits input) :
    (reading rule allowForeign).Sound input ↔ ¬ Overlooks input := by
  obtain ⟨⟨hpass, hres⟩, hslots⟩ := h
  -- the loop reads the text of an index that it has a turn for
  have hread : ∀ e ∈ input.passthrough.entries, ∀ i < (reading rule allowForeign).turns input, e.1 = .number i →
      ∃ bytes, b64decode rule e.2 = some bytes := by
    intro e he i hi heq
    have hlt : i < input.txns.length := lt_of_lt_of_le hi (Nat.min_le_left _ _)
    have hget : input.passthrough.get? ((reading rule allowForeign).key i) = some e.2 := by
      rw [IndexedMap.get?_eq_some]
      show (Key.number i, e.2) ∈ _
      rw [← heq]
      exact he
    exact Option.ne_none_iff_exists'.mp ((hslots i _ hi (List.getElem?_eq_getElem hlt)).1 e.2 hget)
  constructor
  · rintro hsound (⟨e, he, hstray | hover⟩ | ⟨e, he, hstray⟩ | hfew)
    · exact (index_iff (hpass e he)).mp (hsound.passthrough e he).1 hstray
    · obtain ⟨⟨i, hi, heq⟩, hwf⟩ := hsound.passthrough e he
      obtain ⟨bytes, hbytes⟩ := hread e he i (lt_of_lt_of_eq hi hsound.turns.symm) heq
      exact (wellFormed_iff hbytes).mp hwf hover
    · exact (index_iff (hres e he).1).mp (hsound.resources e he) hstray
    · have hturns : min input.txns.length input.authAddresses.length = input.txns.length := hsound.turns
      omega
  · intro h
    have hturns : min input.txns.length input.authAddresses.length = input.txns.length := by
      have hfew : ¬ input.authAddresses.length < input.txns.length := fun hfew => h (.inr (.inr hfew))
      omega
    refine ⟨hturns, fun e he => ?_, fun e he => (index_iff (hres e he).1).mpr fun hstray => ?_⟩
    · have hkey : ∃ i < input.txns.length, e.1 = .number i :=
        (index_iff (hpass e he)).mpr fun hstray => h (.inl ⟨e, he, .inl hstray⟩)
      refine ⟨hkey, ?_⟩
      obtain ⟨i, hi, heq⟩ := hkey
      obtain ⟨bytes, hbytes⟩ := hread e he i (lt_of_lt_of_eq hi hturns.symm) heq
      exact (wellFormed_iff hbytes).mpr fun hover => h (.inl ⟨e, he, .inr hover⟩)
    · exact h (.inr (.inl ⟨e, he, hstray⟩))

theorem dropsNothing_iff {env : Env} {why : String → String} {rule : PadRule} {allowForeign : Bool}
    {input : BuilderInput (Option Txn) Key} :
    (∀ requests, buildSignRequestBody env why rule allowForeign input = .ok requests →
      DropsNothing env (reading rule allowForeign) input requests) ↔
        ((reading rule allowForeign).Admits input → ¬ Overlooks input) := by
  simp only [builds_iff]
  rw [Reading.dropsNothing_iff standard (Nat.min_le_left _ _)]
  exact forall_congr' fun h => sound_iff h

end Python

namespace TypeScript

/-- A passthrough text that is malformed. -/
def Overlooks (input : BuilderInput (Option Txn) String) : Prop :=
  ∃ e ∈ input.passthrough.entries, ¬ WellFormed e.2

theorem standard {buffer : NodeBuffer} {allowForeign : Bool} : (reading buffer allowForeign).Standard := by
  intro b64 bytes bytes' h h'
  have hbytes : buffer.fromBase64 b64 = bytes := Option.some.inj h
  exact hbytes.symm.trans (buffer.standard h')

theorem sound_iff {buffer : NodeBuffer} {allowForeign : Bool} {input : BuilderInput (Option Txn) String}
    (h : (reading buffer allowForeign).Admits input) :
    (reading buffer allowForeign).Sound input ↔ ¬ Overlooks input := by
  obtain ⟨⟨-, hpass, hres⟩, -⟩ := h
  constructor
  · rintro hsound ⟨e, he, hbad⟩
    exact hbad (hsound.passthrough e he).2
  · intro h
    refine ⟨rfl, fun e he => ⟨hpass e he, ?_⟩, fun e he => (hres e he).1⟩
    by_contra hbad
    exact h ⟨e, he, hbad⟩

theorem dropsNothing_iff {env : Env} {buffer : NodeBuffer} {allowForeign : Bool}
    {input : BuilderInput (Option Txn) String} :
    (∀ requests, buildSignRequestBody env buffer allowForeign input = .ok requests →
      DropsNothing env (reading buffer allowForeign) input requests) ↔
        ((reading buffer allowForeign).Admits input → ¬ Overlooks input) := by
  simp only [builds_iff]
  rw [Reading.dropsNothing_iff standard (le_refl _)]
  exact forall_congr' fun h => sound_iff h

end TypeScript

/-- **When a builder drops nothing.** Where it takes the input, and overlooks
neither a key nor a text of it. -/
theorem builders_dropNothing_iff (env : Env) (why : String → String) (rule : Python.PadRule) (buffer : NodeBuffer) :
    (∀ input, (∀ requests, Go.buildSignRequestsWithOptions env why input = .ok requests →
        DropsNothing env Go.reading input requests) ↔ (Go.reading.Admits input → ¬ Go.Overlooks input)) ∧
      (∀ allowForeign input, (∀ requests, Python.buildSignRequestBody env why rule allowForeign input = .ok requests →
        DropsNothing env (Python.reading rule allowForeign) input requests) ↔
          ((Python.reading rule allowForeign).Admits input → ¬ Python.Overlooks input)) ∧
      ∀ allowForeign input, (∀ requests, TypeScript.buildSignRequestBody env buffer allowForeign input = .ok requests →
        DropsNothing env (TypeScript.reading buffer allowForeign) input requests) ↔
          ((TypeScript.reading buffer allowForeign).Admits input → ¬ TypeScript.Overlooks input) := by
  exact ⟨fun _ => Go.dropsNothing_iff, fun _ _ => Python.dropsNothing_iff, fun _ _ => TypeScript.dropsNothing_iff⟩

namespace Demo

/-- One payment to be signed, with a passthrough map. -/
def oneTransaction {σ κ : Type} (slot : σ) (passthrough : IndexedMap κ String) : BuilderInput σ κ where
  txns := [slot]
  authAddresses := ["A"]
  passthrough := passthrough

theorem admits_oneTransaction {σ κ : Type} [DecidableEq κ] {rd : Reading σ κ} {slot : σ}
    {passthrough : IndexedMap κ String} (hchecks : rd.checks (oneTransaction slot passthrough))
    (hturns : rd.turns (oneTransaction slot passthrough) = 1)
    (hslot : Admissible rd.decode rd.allowForeign (rd.txn slot) "A" (passthrough.get? (rd.key 0)) none) :
    rd.Admits (oneTransaction slot passthrough) := by
  refine ⟨hchecks, fun i slot' hi hget => ?_⟩
  have h0 : i = 0 := by omega
  subst h0
  cases hget
  exact hslot

/-- An index behind the last transaction. -/
def behindTheLast : BuilderInput Txn ℤ := oneTransaction payment (.singleton 1 "AAAA")

/-- An index of one half. -/
def betweenTwo : BuilderInput (Option Txn) Python.Key :=
  oneTransaction (some payment) (.singleton (.number (1 / 2)) "AAAA")

/-- A text with a pad over. -/
def overpadded : BuilderInput (Option Txn) Python.Key :=
  oneTransaction (some payment) (.singleton (.number 0) "AAAA=")

/-- A text that is not base64. -/
def notBase64 : BuilderInput (Option Txn) String := oneTransaction (some payment) (.singleton "0" "AA!A")

/-- Go and Python lose a passthrough transaction, Python 3.11 reads a malformed
one, and TypeScript sends another one. -/
theorem builders_drop :
    ¬ (∀ requests, Go.buildSignRequestsWithOptions env id behindTheLast = .ok requests →
        DropsNothing env Go.reading behindTheLast requests) ∧
      ¬ (∀ requests, Python.buildSignRequestBody env id .refused true betweenTwo = .ok requests →
        DropsNothing env (Python.reading .refused true) betweenTwo requests) ∧
      ¬ (∀ requests, Python.buildSignRequestBody env id .afterQuads true overpadded = .ok requests →
        DropsNothing env (Python.reading .afterQuads true) overpadded requests) ∧
      ¬ (∀ requests, TypeScript.buildSignRequestBody env lenientBuffer true notBase64 = .ok requests →
        DropsNothing env (TypeScript.reading lenientBuffer true) notBase64 requests) := by
  refine ⟨fun h => ?_, fun h => ?_, fun h => ?_, fun h => ?_⟩
  · have hadmits : Go.reading.Admits behindTheLast := by
      refine admits_oneTransaction (fun e he => (nomatch he)) rfl ⟨fun b64 hb64 => (nomatch hb64), fun _ => ?_⟩
      exact ⟨Option.some_ne_none _, fun hauth => absurd hauth (by decide), fun _ => rfl⟩
    have hover : Go.Overlooks behindTheLast := ⟨(1, "AAAA"), List.mem_singleton_self _, .inl (by decide)⟩
    exact Go.dropsNothing_iff.mp h hadmits hover
  · have hadmits : (Python.reading .refused true).Admits betweenTwo := by
      refine admits_oneTransaction ⟨?_, fun e he => (nomatch he)⟩ rfl ⟨?_, fun _ => ?_⟩
      · intro e he
        rw [List.mem_singleton.mp he]
        show (0 : ℚ) ≤ 1 / 2 ∧ (1 / 2 : ℚ) < ((1 : ℕ) : ℚ)
        decide +kernel
      · have hmiss : (IndexedMap.singleton (Python.Key.number (1 / 2)) "AAAA").get? (.number (0 : ℕ)) = none := by
          decide +kernel
        intro b64 hb64
        cases hmiss.symm.trans hb64
      · exact ⟨Option.some_ne_none _, fun hauth => absurd hauth (by decide), fun _ => rfl⟩
    have hstray : Python.Key.Stray (.number (1 / 2)) := by
      show (1 / 2 : ℚ).den ≠ 1
      decide +kernel
    have hover : Python.Overlooks betweenTwo :=
      .inl ⟨(.number (1 / 2), "AAAA"), List.mem_singleton_self _, .inl hstray⟩
    exact Python.dropsNothing_iff.mp h hadmits hover
  · have hadmits : (Python.reading .afterQuads true).Admits overpadded := by
      refine admits_oneTransaction ⟨?_, fun e he => (nomatch he)⟩ rfl ⟨?_, fun hnone => ?_⟩
      · intro e he
        rw [List.mem_singleton.mp he]
        show (0 : ℚ) ≤ 0 ∧ (0 : ℚ) < ((1 : ℕ) : ℚ)
        decide +kernel
      · have hget : (IndexedMap.singleton (Python.Key.number 0) "AAAA=").get? (.number (0 : ℕ)) = some "AAAA=" := by
          decide +kernel
        intro b64 hb64
        cases hget.symm.trans hb64
        decide +kernel
      · exact absurd hnone (by decide +kernel)
    have hpads : Python.PadsOver "AAAA=" := by
      show _ < _
      decide +kernel
    have hover : Python.Overlooks overpadded := .inl ⟨(.number 0, "AAAA="), List.mem_singleton_self _, .inr hpads⟩
    exact Python.dropsNothing_iff.mp h hadmits hover
  · have hadmits : (TypeScript.reading lenientBuffer true).Admits notBase64 := by
      refine admits_oneTransaction ⟨List.cons_ne_nil _ _, ?_, fun e he => (nomatch he)⟩ rfl
        ⟨fun b64 _ => Option.some_ne_none _, fun hnone => absurd hnone (by decide)⟩
      intro e he
      rw [List.mem_singleton.mp he]
      exact ⟨0, Nat.zero_lt_one, by decide⟩
    have hover : TypeScript.Overlooks notBase64 := by
      refine ⟨("0", "AA!A"), List.mem_singleton_self _, ?_⟩
      rintro ⟨bytes, hbytes⟩
      have hmalformed : Base64.decode "AA!A".toList = none := by decide +kernel
      rw [hmalformed] at hbytes
      cases hbytes
    exact TypeScript.dropsNothing_iff.mp h hadmits hover

end Demo

end AplaneSdk
